import Mathlib.Data.List.Forall2

/-!
The grammar of JSON texts. Lists and objects are told by the texts of their parts, with blanks
wherever JSON lets them stand, so that the same rules serve for a text of which only the outline is
known.
-/

namespace RemoteClient.Json

def Blank (s : List Char) : Prop := ∀ c ∈ s, c ∈ [' ', '\n', '\t', '\r']

def escapes : List (Char × Char) :=
  [('"', '"'), ('\\', '\\'), ('/', '/'), ('b', '\x08'), ('f', '\x0c'), ('n', '\n'), ('r', '\r'),
    ('t', '\t')]

def HexDigit (c : Char) (n : Nat) : Prop := n < 16 ∧ (c = n.digitChar ∨ c = n.digitChar.toUpper)

inductive Hex : List Char → Nat → Prop
  | digits {a b c d : Char} {w x y z : Nat} (first : HexDigit a w) (second : HexDigit b x)
      (third : HexDigit c y)
      (last : HexDigit d z) : Hex [a, b, c, d] (((w * 16 + x) * 16 + y) * 16 + z)

inductive Spelled : List Char → Char → Prop
  | plain {c : Char} (shown : ' ' ≤ c) (unquoted : c ≠ '"') (unescaped : c ≠ '\\') : Spelled [c] c
  | short {e c : Char} (means : (e, c) ∈ escapes) : Spelled ['\\', e] c
  | code {hex : List Char} {n : Nat} (digits : Hex hex n) (whole : n < 0xd800 ∨ 0xdfff < n) :
      Spelled ('\\' :: 'u' :: hex) (Char.ofNat n)
  | pair {high low : List Char} {lead trail : Nat} (first : Hex high lead) (second : Hex low trail)
      (leads : 0xd800 ≤ lead ∧ lead ≤ 0xdbff) (trails : 0xdc00 ≤ trail ∧ trail ≤ 0xdfff) :
      Spelled ('\\' :: 'u' :: high ++ '\\' :: 'u' :: low)
        (Char.ofNat (0x10000 + (lead - 0xd800) * 0x400 + (trail - 0xdc00)))

inductive Quoted (text : String) : List Char → Prop
  | spelled {pieces : List (List Char)} (each : List.Forall₂ Spelled pieces text.toList) :
      Quoted text ('"' :: pieces.flatten ++ ['"'])

/-- What can stand between quotes in any text. Half a surrogate pair is the code of no character. -/
inductive Piece : List Char → Prop
  | plain {c : Char} (shown : ' ' ≤ c) (unquoted : c ≠ '"') (unescaped : c ≠ '\\') : Piece [c]
  | short {e c : Char} (means : (e, c) ∈ escapes) : Piece ['\\', e]
  | code {hex : List Char} {n : Nat} (digits : Hex hex n) : Piece ('\\' :: 'u' :: hex)

inductive AnyText : List Char → Prop
  | pieces {pieces : List (List Char)} (each : ∀ piece ∈ pieces, Piece piece) :
      AnyText ('"' :: pieces.flatten ++ ['"'])

def Digits (s : List Char) : Prop := s ≠ [] ∧ ∀ c ∈ s, c.isDigit

inductive Fraction : List Char → Prop
  | none : Fraction []
  | digits {s : List Char} (digits : Digits s) : Fraction ('.' :: s)

inductive Exponent : List Char → Prop
  | none : Exponent []
  | digits {mark : Char} {sign s : List Char} (marks : mark = 'e' ∨ mark = 'E')
      (signed : sign = [] ∨ sign = ['+'] ∨ sign = ['-']) (digits : Digits s) :
        Exponent (mark :: sign ++ s)

/-- No zero stands in front of the other digits. -/
inductive Number : List Char → Prop
  | parts {sign whole fraction exponent : List Char} (signed : sign = [] ∨ sign = ['-'])
      (digits : Digits whole)
      (plain : whole.head? = some '0' → whole = ['0']) (fractional : Fraction fraction)
      (scaled : Exponent exponent) : Number (sign ++ whole ++ fraction ++ exponent)

inductive Items : List (List Char) → List Char → Prop
  | last {item before after : List Char} (ahead : Blank before) (behind : Blank after) :
      Items [item] (before ++ item ++ after ++ [']'])
  | next {item before after s : List Char} {items : List (List Char)} (ahead : Blank before)
      (behind : Blank after) (others : Items items s) :
      Items (item :: items) (before ++ item ++ after ++ ',' :: s)

inductive Listed : List (List Char) → List Char → Prop
  | empty {blank : List Char} (spaces : Blank blank) : Listed [] ('[' :: blank ++ [']'])
  | items {items : List (List Char)} {s : List Char} (filled : Items items s) :
      Listed items ('[' :: s)

section

variable {κ : Type}

/-- The members of an object from the next one on, with the closing brace. The keys are written as
`names` has it. -/
inductive Members (names : κ → List Char → Prop) : List (κ × List Char) → List Char → Prop
  | last {key : κ} {k value before gap space after : List Char} (named : names key k)
      (ahead : Blank before)
      (between : Blank gap) (within : Blank space) (behind : Blank after) :
      Members names [(key, value)]
        (before ++ (k ++ gap ++ ':' :: (space ++ value) ++ after ++ ['\x7d']))
  | next {key : κ} {k value before gap space after s : List Char} {members : List (κ × List Char)}
      (named : names key k) (ahead : Blank before) (between : Blank gap) (within : Blank space)
      (behind : Blank after) (others : Members names members s) :
      Members names ((key, value) :: members)
        (before ++ (k ++ gap ++ ':' :: (space ++ value) ++ after ++ ',' :: s))

inductive Braced (names : κ → List Char → Prop) : List (κ × List Char) → List Char → Prop
  | empty {blank : List Char} (spaces : Blank blank) : Braced names [] ('\x7b' :: blank ++ ['\x7d'])
  | members {members : List (κ × List Char)} {s : List Char} (filled : Members names members s) :
      Braced names members ('\x7b' :: s)

end

/-- Any value whatever, whether something can be made of it or not. -/
inductive AnyJson : List Char → Prop
  | null : AnyJson "null".toList
  | bool (b : Bool) : AnyJson (if b then "true" else "false").toList
  | number {s : List Char} (number : Number s) : AnyJson s
  | text {s : List Char} (text : AnyText s) : AnyJson s
  | list {items : List (List Char)} {s : List Char} (each : ∀ item ∈ items, AnyJson item)
      (listed : Listed items s) : AnyJson s
  | object {members : List (List Char × List Char)} {s : List Char}
      (keys : ∀ m ∈ members, AnyText m.1)
      (each : ∀ m ∈ members, AnyJson m.2) (braced : Braced (· = ·) members s) : AnyJson s

/-- A whole text: one value, with blanks around it. -/
inductive Document (form : List Char → Prop) : List Char → Prop
  | value {before s after : List Char} (ahead : Blank before) (formed : form s)
      (behind : Blank after) :
      Document form (before ++ s ++ after)

end RemoteClient.Json
