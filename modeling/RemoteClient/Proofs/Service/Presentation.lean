import RemoteClient.Proofs.Json.Records
import RemoteClient.Proofs.Service.Descriptors

/-!
What a service descriptor says is all that matters, not how it says it: members in any order,
blanks, escapes, members nobody asks for, and values left out that are understood anyway.
-/

namespace RemoteClient

open Decode (Agrees Lawful)
open Json (AnyJson AnyText Arranged Braced Decodes Digits Document Entry HexDigit ListOf Listed
  Members Optionally Piece Quoted Rejects Spelled Spoilt SpoiltList States Suits Truth field_isSet
  field_read field_suits newline_blank nil_blank space_blank)

namespace Service

/-! ## What is written

Each entry has its key, the texts of its value, and when it can be left out. -/

def Parameter.entries (p : Parameter) : List Entry :=
  [⟨"name", Quoted p.name, False⟩, ⟨"type_name", Quoted p.typeName, False⟩]

def Operation.entries (op : Operation) : List Entry :=
  [⟨"name", Quoted op.name, False⟩, ⟨"description", Quoted op.description, op.description = ""⟩,
    ⟨"params", ListOf (fun p => States p.entries) op.parameters, op.parameters = []⟩,
    ⟨"return_type", Optionally Quoted op.returnType, op.returnType = none⟩,
    ⟨"emit_sync", Truth op.emitSync, op.emitSync = true⟩,
      ⟨"emit_async", Truth op.emitAsync, op.emitAsync = true⟩]

def entries (s : Service) : List Entry :=
  [⟨"interface_name", Quoted s.interfaceName, False⟩,
    ⟨"namespace", Optionally Quoted s.enclosing, s.enclosing = none⟩,
    ⟨"description", Quoted s.description, s.description = ""⟩,
    ⟨"operations", ListOf (fun op => States op.entries) s.operations, s.operations = []⟩]

/-- Something is missing that has no default, or is said twice. -/
def Parameter.Spoilt : List Char → Prop :=
  Json.Spoilt ["name", "type_name"] ["name", "type_name"] fun _ _ => False

def Operation.Spoilt : List Char → Prop :=
  Json.Spoilt ["name"] ["name", "description", "params", "return_type", "emit_sync",
    "emit_async"] fun key s =>
    key = "params" ∧ SpoiltList Parameter.Spoilt s

protected def Spoilt : List Char → Prop :=
  Json.Spoilt ["interface_name"] ["interface_name", "namespace", "description",
    "operations"] fun key s =>
    key = "operations" ∧ SpoiltList Operation.Spoilt s

end Service

namespace Catalogue

def entries (c : Catalogue) : List Entry :=
  [⟨"version", Quoted c.version, False⟩,
    ⟨"services", ListOf (fun s => States s.entries) c.services, False⟩]

protected def Spoilt : List Char → Prop :=
  Json.Spoilt ["version", "services"] ["version", "services"] fun key s =>
    key = "services" ∧ SpoiltList Service.Spoilt s

end Catalogue

/-! ## What is read -/

namespace Service

theorem parameter_lawful : Lawful parameterRecord ⟨none, none⟩ where
  distinct := by decide
  unset := by simp [parameterRecord]
  sets := by simp +contextual [parameterRecord, field_read]

theorem operation_lawful : Lawful operationRecord ⟨none, none, none, none, none, none⟩ where
  distinct := by decide
  unset := by simp [operationRecord]
  sets := by simp +contextual [operationRecord, field_read, -Bool.exists_bool, -Bool.forall_bool]

theorem lawful : Lawful record ⟨none, none, none, none⟩ where
  distinct := by decide
  unset := by simp [record]
  sets := by simp +contextual [record, field_read]

theorem Parameter.decodes {p : Parameter} {s : List Char} (states : States p.entries s) :
    Decodes Parameter.decode s p := by
  have suits : List.Forall₂
      (Suits fun d : ParameterDraft => Agrees d.name (some p.name) ∧
        Agrees d.typeName (some p.typeName))
      parameterRecord.fields p.entries := by
    refine .cons (field_suits Quoted.decodes ?_ ?_) <| .cons (field_suits Quoted.decodes ?_ ?_) .nil
    all_goals simp +contextual
  obtain ⟨v, d, reads, decoded, ⟨name, typeName⟩, spare⟩ :=
    states.decodes parameter_lawful (by simp) suits
  simp only [parameterRecord, entries, field_isSet, List.forall₂_cons] at spare
  obtain ⟨named, typed, -⟩ := spare
  refine ⟨v, reads, ?_⟩
  simp [Parameter.decode, decoded, name.getD fun unset => (named unset).elim,
    typeName.getD fun unset => (typed unset).elim]

theorem Operation.decodes {op : Operation} {s : List Char} (states : States op.entries s) :
    Decodes Operation.decode s op := by
  have suits : List.Forall₂
      (Suits fun d : OperationDraft =>
        Agrees d.name (some op.name) ∧ Agrees d.description (some op.description) ∧
        Agrees d.parameters (some op.parameters) ∧ Agrees d.returnType (some op.returnType) ∧
          Agrees d.emitSync (some op.emitSync) ∧ Agrees d.emitAsync (some op.emitAsync))
      operationRecord.fields op.entries := by
    refine .cons (field_suits Quoted.decodes ?_ ?_) <| .cons (field_suits Quoted.decodes ?_ ?_) <|
      .cons (field_suits (ListOf.decodes fun _ _ _ => Parameter.decodes) ?_ ?_) <|
      .cons (field_suits Optionally.decodes ?_ ?_) <|
      .cons (field_suits Truth.decodes ?_ ?_) <| .cons (field_suits Truth.decodes ?_ ?_) .nil
    all_goals simp +contextual
  obtain ⟨v, d, reads, decoded, agree, spare⟩ := states.decodes operation_lawful (by simp) suits
  obtain ⟨name, description, parameters, returnType, emitSync, emitAsync⟩ := agree
  simp only [operationRecord, entries, field_isSet, List.forall₂_cons] at spare
  obtain ⟨named, noDescription, noParameters, noReturn, bothSync, bothAsync, -⟩ := spare
  refine ⟨v, reads, ?_⟩
  simp [Operation.decode, decoded, name.getD fun unset => (named unset).elim,
    description.getD noDescription, parameters.getD noParameters, returnType.getD noReturn,
    emitSync.getD bothSync, emitAsync.getD bothAsync]

protected theorem decodes {s : Service} {text : List Char} (states : States s.entries text) :
    Decodes decode text s := by
  have suits : List.Forall₂
      (Suits fun d : Draft =>
        Agrees d.interfaceName (some s.interfaceName) ∧ Agrees d.enclosing (some s.enclosing) ∧
        Agrees d.description (some s.description) ∧ Agrees d.operations (some s.operations))
      record.fields s.entries := by
    refine .cons (field_suits Quoted.decodes ?_ ?_) <|
      .cons (field_suits Optionally.decodes ?_ ?_) <|
      .cons (field_suits Quoted.decodes ?_ ?_) <|
      .cons (field_suits (ListOf.decodes fun _ _ _ => Operation.decodes) ?_ ?_) .nil
    all_goals simp +contextual
  obtain ⟨v, d, reads, decoded, ⟨name, enclosing, description, operations⟩, spare⟩ :=
    states.decodes lawful (by simp) suits
  simp only [record, entries, field_isSet, List.forall₂_cons] at spare
  obtain ⟨named, alone, noDescription, noOperations, -⟩ := spare
  refine ⟨v, reads, ?_⟩
  simp [decode, decoded, name.getD fun unset => (named unset).elim, enclosing.getD alone,
    description.getD noDescription, operations.getD noOperations]

theorem Parameter.rejects {s : List Char} (spoilt : Parameter.Spoilt s) :
    Rejects Parameter.decode s := by
  have fails : Rejects (Json.Source.decodeRecord parameterRecord ⟨none, none⟩) s := by
    refine Spoilt.rejects parameter_lawful ?_ ?_ ?_ spoilt
    · simp [parameterRecord]
    · simp [parameterRecord]
    · simp
  exact fails.bind

theorem Operation.rejects {s : List Char} (spoilt : Operation.Spoilt s) :
    Rejects Operation.decode s := by
  have fails : Rejects
      (Json.Source.decodeRecord operationRecord ⟨none, none, none, none, none, none⟩) s := by
    refine Spoilt.rejects operation_lawful ?_ ?_ ?_ spoilt
    · simp [operationRecord]
    · simp [operationRecord]
    · rintro _ s ⟨rfl, parameters⟩
      exact ⟨_, .tail _ (.tail _ (.head _)), rfl, (parameters.rejects Parameter.rejects).field⟩
  exact fails.bind

protected theorem rejects {s : List Char} (spoilt : Service.Spoilt s) : Rejects decode s := by
  have fails : Rejects (Json.Source.decodeRecord record ⟨none, none, none, none⟩) s := by
    refine Spoilt.rejects lawful ?_ ?_ ?_ spoilt
    · simp [record]
    · simp [record]
    · rintro _ s ⟨rfl, operations⟩
      exact ⟨_, .tail _ (.tail _ (.tail _ (.head _))), rfl,
        (operations.rejects Operation.rejects).field⟩
  exact fails.bind

end Service

namespace Catalogue

theorem lawful : Lawful record ⟨none, none⟩ where
  distinct := by decide
  unset := by simp [record]
  sets := by simp +contextual [record, field_read]

protected theorem decodes {c : Catalogue} {s : List Char} (states : States c.entries s) :
    Decodes decode s c := by
  have suits : List.Forall₂
      (Suits fun d : Draft => Agrees d.version (some c.version) ∧
        Agrees d.services (some c.services))
      record.fields c.entries := by
    refine .cons (field_suits Quoted.decodes ?_ ?_) <|
      .cons (field_suits (ListOf.decodes fun _ _ _ => Service.decodes) ?_ ?_) .nil
    all_goals simp +contextual
  obtain ⟨v, d, reads, decoded, ⟨version, services⟩, spare⟩ := states.decodes lawful (by simp) suits
  simp only [record, entries, field_isSet, List.forall₂_cons] at spare
  obtain ⟨versioned, listed, -⟩ := spare
  refine ⟨v, reads, ?_⟩
  simp [decode, decoded, version.getD fun unset => (versioned unset).elim,
    services.getD fun unset => (listed unset).elim]

protected theorem rejects {s : List Char} (spoilt : Catalogue.Spoilt s) : Rejects decode s := by
  have fails : Rejects (Json.Source.decodeRecord record ⟨none, none⟩) s := by
    refine Spoilt.rejects lawful ?_ ?_ ?_ spoilt
    · simp [record]
    · simp [record]
    · rintro _ s ⟨rfl, services⟩
      exact ⟨_, .tail _ (.head _), rfl, (services.rejects Service.rejects).field⟩
  exact fails.bind

open Files (OnTree Tree)

/-- Whatever the presentation, the catalogue is loaded that the text states; a text that lacks a
value without default, or has a known member twice, is not loaded, however deep inside that is. -/
theorem load_ignores_presentation {t : Tree} {path text : String}
    (held : t.readText path = .ok text) :
    (∀ c : Catalogue, Document (States c.entries) text.toList →
      (load path : OnTree _).run t = (.ok c, t)) ∧
      (Document Catalogue.Spoilt text.toList →
        ∃ problem, (load path : OnTree _).run t = (.error (.content problem), t)) := by
  have loaded : (load path : OnTree _).run t = ((parse text).mapError .content, t) := by
    rw [run_load, held]
    rfl
  rw [loaded]
  refine ⟨fun c document => ?_, fun document => ?_⟩
  · generalize shown : text.toList = whole at document
    obtain ⟨ahead, states, behind⟩ := document
    obtain ⟨v, reads, decoded⟩ := Catalogue.decodes states
    rw [parse, Json.decode_reads ahead behind shown reads, decoded]
    rfl
  · generalize shown : text.toList = whole at document
    obtain ⟨ahead, spoilt, behind⟩ := document
    obtain ⟨v, reads, never⟩ := Catalogue.rejects spoilt
    rw [parse, Json.decode_reads ahead behind shown reads]
    cases decoded : decode v with
    | error problem => exact ⟨problem, rfl⟩
    | ok c => exact absurd decoded (never c)

/-! Two texts: one says its values in an unusual order, with a number that is out of range in a
member nobody asks for; the other says the version twice, once with an escape in the key. -/

def said (text : String) : List Char := Json.quoteChars text.toList

def single (item : List Char) : List Char := '[' :: (item ++ [']'])

def compact (members : List (String × List Char)) : List Char := '\x7b' :: inside members
where
  inside : List (String × List Char) → List Char
    | [] => ['\x7d']
    | [(key, value)] => said key ++ ':' :: value ++ ['\x7d']
    | (key, value) :: rest => said key ++ ':' :: value ++ ',' :: inside rest

def spokenParameter : Service.Parameter := ⟨"text", "string"⟩

def spokenOperation : Service.Operation := ⟨"Say", "", [spokenParameter], none, true, false⟩

def spokenService : Service := ⟨"Echo", none, "", [spokenOperation]⟩

def parameterText : List Char := compact [("type_name", said "string"), ("name", said "text")]

def operationText : List Char :=
  compact [("emit_async", "false".toList), ("note", single "1e999".toList),
    ("params", single parameterText), ("name", said "Say")]

def serviceText : List Char :=
  compact [("operations", single operationText), ("namespace", "null".toList),
    ("interface_name", said "Echo")]

def versionKey : List Char := "\"\\u0076ersion\"".toList

def shuffled : List Char :=
  '\x7b' :: (said "services" ++ ':' :: ' ' :: single serviceText ++
    ',' :: (versionKey ++ ':' :: said "1" ++ ['\x7d', '\n']))

def repeated : List Char :=
  '\x7b' :: (said "version" ++ ':' :: said "1" ++ ',' :: (said "services" ++ ':' :: "[]".toList ++
    ',' :: (versionKey ++ ':' :: said "1" ++ ['\x7d'])))

theorem said_quoted (text : String) : Quoted text (said text) := Json.quoteChars_quoted text

theorem single_listed (item : List Char) : Listed [item] (single item) := by
  have listed : Listed [item] _ := .items (.last nil_blank nil_blank)
  simpa [single] using listed

theorem compact_members (key : String) (value : List Char) (members : List (String × List Char)) :
    Members Quoted ((key, value) :: members) (compact.inside ((key, value) :: members)) := by
  induction members generalizing key value with
  | nil =>
      simpa [compact.inside] using Members.last
        (said_quoted key) nil_blank nil_blank nil_blank nil_blank
  | cons member members ih =>
      simpa [compact.inside] using
        Members.next (said_quoted key) nil_blank nil_blank nil_blank nil_blank
          (ih member.1 member.2)

theorem compact_braced (members : List (String × List Char)) :
    Braced Quoted members (compact members) := by
  cases members with
  | nil => exact .empty nil_blank
  | cons member members => exact .members (compact_members member.1 member.2 members)

theorem versionKey_quoted : Quoted "version" versionKey := by
  have zero : HexDigit '0' 0 := ⟨by decide, .inl rfl⟩
  have seven : HexDigit '7' 7 := ⟨by decide, .inl rfl⟩
  have six : HexDigit '6' 6 := ⟨by decide, .inl rfl⟩
  have letter : Spelled "\\u0076".toList 'v' := .code (.digits zero zero seven six) (by decide)
  have others (c : Char) (member : c ∈ "ersion".toList) : Spelled [c] c := by
    have plain : ∀ c ∈ "ersion".toList, ' ' ≤ c ∧ c ≠ '"' ∧ c ≠ '\\' := by simp
    exact .plain (plain c member).1 (plain c member).2.1 (plain c member).2.2
  have each :
      List.Forall₂ Spelled ("\\u0076".toList :: "ersion".toList.map ([·])) "version".toList :=
    .cons letter (List.forall₂_map_left_iff.mpr (List.forall₂_same.mpr others))
  exact .spelled each

theorem note_any : AnyJson (single "1e999".toList) := by
  have one : Digits ['1'] := ⟨by simp, by simp⟩
  have nines : Digits ['9', '9', '9'] := ⟨by simp, by simp⟩
  have huge : AnyJson "1e999".toList :=
    .number (.parts (.inl rfl) one (by decide) .none (.digits (.inl rfl) (.inl rfl) nines))
  exact .list (by simpa using huge) (single_listed _)

theorem parameterText_states : States spokenParameter.entries parameterText := by
  refine .object ⟨?_, ?_, ?_, ?_⟩ (compact_braced _)
  all_goals simp [spokenParameter, Service.Parameter.entries, said_quoted]

theorem operationText_states : States spokenOperation.entries operationText := by
  have parameters : ListOf (fun p => States (Service.Parameter.entries p)) [spokenParameter]
      (single parameterText) :=
    ⟨_, .cons parameterText_states .nil, single_listed _⟩
  refine .object ⟨?_, ?_, ?_, ?_⟩ (compact_braced _)
  all_goals simp [spokenOperation, Service.Operation.entries, said_quoted, Truth]
  · exact parameters
  · exact note_any

theorem serviceText_states : States spokenService.entries serviceText := by
  have operations : ListOf (fun op => States (Service.Operation.entries op)) [spokenOperation]
      (single operationText) :=
    ⟨_, .cons operationText_states .nil, single_listed _⟩
  refine .object ⟨?_, ?_, ?_, ?_⟩ (compact_braced _)
  all_goals simp [spokenService, Service.entries, said_quoted, Optionally]
  exact operations

theorem shuffled_states : Document (States (entries ⟨"1", [spokenService]⟩)) shuffled := by
  have services :
      ListOf (fun s => States (Service.entries s)) [spokenService] (single serviceText) :=
    ⟨_, .cons serviceText_states .nil, single_listed _⟩
  have braced : Braced Quoted [("services", single serviceText), ("version", said "1")] _ :=
    .members (.next (said_quoted _) nil_blank nil_blank space_blank nil_blank <|
      .last versionKey_quoted nil_blank nil_blank nil_blank nil_blank)
  have arranged : Arranged (entries ⟨"1", [spokenService]⟩)
      [("services", single serviceText), ("version", said "1")] := by
    constructor
    all_goals simp [entries, said_quoted]
    exact services
  simpa [shuffled, Json.newline] using Document.value nil_blank (States.object arranged braced)
    (newline_blank 0)

theorem repeated_spoilt : Document Catalogue.Spoilt repeated := by
  have one : AnyJson (said "1") := by
    have plain : Piece ['1'] := .plain (by decide) (by decide) (by decide)
    have text : AnyText ('"' :: [['1']].flatten ++ ['"']) := .pieces (by simpa using plain)
    exact .text text
  have none : AnyJson ['[', ']'] := .list (by simp) (.empty nil_blank)
  have braced :
      Braced Quoted [("version", said "1"), ("services", "[]".toList), ("version", said "1")] _ :=
    .members (.next (said_quoted _) nil_blank nil_blank nil_blank nil_blank <|
      .next (said_quoted _) nil_blank nil_blank nil_blank nil_blank <|
      .last versionKey_quoted nil_blank nil_blank nil_blank nil_blank)
  have values : ∀ m ∈ [("version", said "1"), ("services", "[]".toList), ("version", said "1")],
      AnyJson m.2 := by
    simp [one, none]
  have spoilt : Catalogue.Spoilt _ :=
    .object values (.repeated List.mem_cons_self Nat.le.refl) braced
  simpa [repeated] using Document.value nil_blank spoilt nil_blank

def holding (text : List Char) : Tree := ⟨[], [(["ir.json"], .file (.text (String.ofList text)))]⟩

theorem shuffled_loads_repeated_fails :
    Document (States (entries ⟨"1", [spokenService]⟩)) shuffled ∧
      (load "ir.json" : OnTree _).run (holding shuffled) =
        (.ok ⟨"1", [spokenService]⟩, holding shuffled) ∧
        Document Catalogue.Spoilt repeated ∧
          ∃ problem, (load "ir.json" : OnTree _).run (holding repeated) =
            (.error (.content problem), holding repeated) := by
  have held (text : List Char) : (holding text).readText "ir.json" = .ok (String.ofList text) := rfl
  have loads :=
    (load_ignores_presentation (held shuffled)).1 ⟨"1", [spokenService]⟩
      (by simpa using shuffled_states)
  have fails := (load_ignores_presentation (held repeated)).2 (by simpa using repeated_spoilt)
  exact ⟨shuffled_states, loads, repeated_spoilt, fails⟩

end Catalogue

end RemoteClient
