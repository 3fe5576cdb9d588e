import RemoteClient.Json.Basic
import RemoteClient.Proofs.Json.Reading

namespace RemoteClient.Json

mutual

def source : Json → Source
  | .null => .null
  | .bool b => .bool b
  | .number n => .integer n
  | .text s => .text s
  | .list items => .list (sources items) none
  | .object members => .object (memberSources members) none

def sources : List Json → List Source
  | [] => []
  | item :: rest => item.source :: sources rest

def memberSources : List (String × Json) → List (Source × Source)
  | [] => []
  | (key, value) :: rest => (.text key, value.source) :: memberSources rest

end

mutual

/-- Every number in the document fits into 64 bits. -/
def Readable : Json → Prop
  | .null | .bool _ | .text _ => True
  | .number n => Fits n
  | .list items => ReadableItems items
  | .object members => ReadableMembers members

def ReadableItems : List Json → Prop
  | [] => True
  | item :: rest => item.Readable ∧ ReadableItems rest

def ReadableMembers : List (String × Json) → Prop
  | [] => True
  | (_, value) :: rest => value.Readable ∧ ReadableMembers rest

end

theorem escapeChar_spelled (c : Char) : Spelled (escapeChar c) c := by
  rw [escapeChar]
  split_ifs with sign backspace tab line page carriage below
  · refine .short ?_
    rcases sign with rfl | rfl <;> decide
  · exact backspace ▸ .short (by decide)
  · exact tab ▸ .short (by decide)
  · exact line ▸ .short (by decide)
  · exact page ▸ .short (by decide)
  · exact carriage ▸ .short (by decide)
  · have small : c.toNat < 32 := below
    have zero : HexDigit '0' 0 := ⟨by decide, .inl rfl⟩
    have high : HexDigit (Nat.digitChar (c.toNat / 16)) (c.toNat / 16) := ⟨by omega, .inl rfl⟩
    have low : HexDigit (Nat.digitChar (c.toNat % 16)) (c.toNat % 16) := ⟨by omega, .inl rfl⟩
    have whole : ((0 * 16 + 0) * 16 + c.toNat / 16) * 16 + c.toNat % 16 = c.toNat := by omega
    have digits := Hex.digits zero zero high low
    rw [whole] at digits
    have spelled := Spelled.code digits (by omega)
    rwa [Char.ofNat_toNat] at spelled
  · exact .plain (Char.not_lt.mp below) (fun quote => sign (.inl quote))
      (fun backslash => sign (.inr backslash))

theorem quoteChars_quoted (text : String) : Quoted text (quoteChars text.toList) := by
  have each : List.Forall₂ Spelled (text.toList.map escapeChar) text.toList := by
    induction text.toList with
    | nil => exact .nil
    | cons c cs ih => exact .cons (escapeChar_spelled c) ih
  have quoted := Quoted.spelled each
  rwa [← List.flatMap_def] at quoted

theorem newline_blank (depth : Nat) : Blank (newline depth) := by
  intro c member
  rw [newline, List.mem_cons, List.mem_replicate] at member
  rcases member with rfl | ⟨_, rfl⟩ <;> decide

theorem nil_blank : Blank [] := fun _ member => absurd member List.not_mem_nil

theorem space_blank : Blank [' '] := by
  intro c member
  rw [List.mem_singleton.mp member]
  decide

mutual

theorem prettyChars_reads (depth : Nat) :
    ∀ j : Json, j.Readable → Reads (prettyChars depth j) j.source
  | .null, _ => reads_null
  | .bool b, _ => reads_bool b
  | .number _, fits => reads_integer fits
  | .text s, _ => (quoteChars_quoted s).reads
  | .list [], _ => reads_empty_list nil_blank
  | .list (item :: rest), readable => by
      have first :=
        (prettyChars_reads (depth + 1) item readable.1).spaced (newline_blank (depth + 1))
      have items := prettyItems_reads (depth + 1) rest readable.2 first (newline_blank depth)
      simpa only [prettyChars, source, sources, List.append_assoc,
        List.cons_append] using items.list
  | .object [], _ => reads_empty_object nil_blank
  | .object ((key, value) :: rest), readable => by
      have first := (prettyChars_reads (depth + 1) value readable.1).spaced space_blank
      have members := prettyMembers_reads (depth + 1) rest readable.2 (quoteChars_quoted key) first
        (newline_blank depth)
      have object := (members.spaced (newline_blank (depth + 1))).object
      simpa only [prettyChars, source, memberSources, List.append_assoc, List.cons_append,
        List.nil_append] using object

theorem prettyItems_reads (depth : Nat) : ∀ items : List Json, ReadableItems items →
    ∀ {s blank : List Char} {v : Source}, Reads s v → Blank blank →
      ReadsItems (s ++ prettyItems depth items ++ blank ++ [']']) (v :: sources items)
  | [], _, s, blank, v, reads, spaces => by
      simpa only [prettyItems, sources, List.append_nil] using ReadsItems.last reads spaces
  | item :: rest, readable, s, blank, v, reads, spaces => by
      have second := (prettyChars_reads depth item readable.1).spaced (newline_blank depth)
      have others := prettyItems_reads depth rest readable.2 second spaces
      simpa only [prettyItems, sources, List.append_assoc, List.cons_append, List.nil_append]
        using ReadsItems.next reads nil_blank others

theorem prettyMembers_reads (depth : Nat) :
    ∀ members : List (String × Json), ReadableMembers members →
    ∀ {k s blank : List Char} {key : String} {v : Source}, Quoted key k → Reads s v → Blank blank →
      ReadsMembers (k ++ ':' :: s ++ prettyMembers depth members ++ blank ++ ['\x7d'])
        ((.text key, v) :: memberSources members)
  | [], _, k, s, blank, key, v, quoted, reads, spaces => by
      simpa only [prettyMembers, memberSources, List.append_nil]
        using ReadsMembers.last quoted.readsKey nil_blank reads spaces
  | (name, value) :: rest, readable, k, s, blank, key, v, quoted, reads, spaces => by
      have second := (prettyChars_reads depth value readable.1).spaced space_blank
      have others :=
        prettyMembers_reads depth rest readable.2 (quoteChars_quoted name) second spaces
      have after := others.spaced (newline_blank depth)
      have members := ReadsMembers.next quoted.readsKey nil_blank reads nil_blank after
      simpa only [prettyMembers, memberSources, List.append_assoc, List.cons_append,
        List.nil_append]
        using members

end

theorem decode_pretty {α : Type} {decoder : Source → Decoded α} {j : Json} {x : α}
    (readable : j.Readable) (decodes : decoder j.source = .ok x) {blank : List Char}
    (spaces : Blank blank) :
    decode decoder (j.pretty ++ String.ofList blank) = .ok x := by
  have shown : (j.pretty ++ String.ofList blank).toList = [] ++ prettyChars 0 j ++ blank := by
    simp [pretty]
  rw [decode_reads nil_blank spaces shown (prettyChars_reads 0 j readable), decodes]

end RemoteClient.Json
