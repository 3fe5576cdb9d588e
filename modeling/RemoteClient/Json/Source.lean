import RemoteClient.Decimal.Notation

/-!
Reading JSON. The result is a tree of what the text holds up to the point where it stops being
JSON, so that a decoder can go through it in reading order and report the first problem it meets,
be that a value of the wrong type or a fault in the text.
-/

namespace RemoteClient.Json

inductive Fault where
  | malformed
  | cutShort
  deriving DecidableEq, Repr

/-- `stop` tells why a list or an object ends without its bracket. A value that cannot be read
reports `strict`, or, where it would only be passed over, `skipped` if that is a fault at all: a
lone surrogate or a number out of range does not matter then. `absent` stands for a value before
which the text ends. -/
inductive Source where
  | null
  | bool (value : Bool)
  | integer (value : Int)
  | real (shown : String)
  | text (value : String)
  | list (items : List Source) (stop : Option Fault)
  | object (members : List (Source × Source)) (stop : Option Fault)
  | unreadableText (strict : Fault) (skipped : Option Fault)
  | unreadable (strict : Fault) (skipped : Option Fault)
  | absent
  deriving Inhabited, Repr

def isSpace (c : Char) : Bool := c = ' ' || c = '\n' || c = '\t' || c = '\r'

def skipSpaces (s : List Char) : List Char := s.dropWhile isSpace

def digitValue? (c : Char) : Option Nat :=
  if '0' ≤ c ∧ c ≤ '9' then some (c.toNat - '0'.toNat)
  else if 'a' ≤ c ∧ c ≤ 'f' then some (c.toNat - 'a'.toNat + 10)
  else if 'A' ≤ c ∧ c ≤ 'F' then some (c.toNat - 'A'.toNat + 10)
  else none

def byteCount (s : List Char) : Nat := (s.map Char.utf8Size).foldr (· + ·) 0

/-- Four digits; whether enough is left for them is measured in bytes. -/
def readHex (s : List Char) : Except Fault (Nat × List Char) :=
  if byteCount (s.take 4) < 4 then .error .cutShort
  else match s with
    | a :: b :: c :: d :: rest =>
      match digitValue? a, digitValue? b, digitValue? c, digitValue? d with
      | some a, some b, some c, some d => .ok (((a * 16 + b) * 16 + c) * 16 + d, rest)
      | _, _, _, _ => .error .malformed
    | _ => .error .malformed

def readTrail (lead : Nat) : List Char → Except Fault (Char × List Char)
  | [] => .error .cutShort
  | ['\\'] => .error .cutShort
  | '\\' :: 'u' :: rest => do
    let (trail, rest) ← readHex rest
    if 0xdc00 ≤ trail ∧ trail ≤ 0xdfff then
      return (Char.ofNat (0x10000 + (lead - 0xd800) * 0x400 + (trail - 0xdc00)), rest)
    else throw .malformed
  | _ => .error .malformed

def readCode (s : List Char) : Except Fault (Char × List Char) := do
  let (code, rest) ← readHex s
  if 0xdc00 ≤ code ∧ code ≤ 0xdfff then throw .malformed
  else if 0xd800 ≤ code ∧ code ≤ 0xdbff then readTrail code rest
  else return (Char.ofNat code, rest)

def simpleEscape? (c : Char) : Option Char :=
  if c = '"' ∨ c = '\\' ∨ c = '/' then some c
  else if c = 'b' then some '\x08'
  else if c = 'f' then some '\x0c'
  else if c = 'n' then some '\n'
  else if c = 'r' then some '\r'
  else if c = 't' then some '\t'
  else none

def readEscape : List Char → Except Fault (Char × List Char)
  | [] => .error .cutShort
  | 'u' :: rest => readCode rest
  | c :: rest =>
    match simpleEscape? c with
    | some c => .ok (c, rest)
    | none => .error .malformed

def readChar : List Char → Except Fault (Char × List Char)
  | [] => .error .cutShort
  | '\\' :: rest => readEscape rest
  | c :: rest => if c < ' ' then .error .malformed else .ok (c, rest)

def readChars : Nat → List Char → Except Fault (List Char × List Char)
  | 0, _ => .error .cutShort
  | fuel + 1, s =>
    match s with
    | '"' :: rest => .ok ([], rest)
    | _ => do
      let (c, rest) ← readChar s
      let (cs, rest) ← readChars fuel rest
      return (c :: cs, rest)

def skipChar : List Char → Except Fault (List Char)
  | [] => .error .cutShort
  | ['\\'] => .error .cutShort
  | '\\' :: 'u' :: rest => do return (← readHex rest).2
  | '\\' :: c :: rest => if (simpleEscape? c).isSome then .ok rest else .error .malformed
  | c :: rest => if c < ' ' then .error .malformed else .ok rest

def skipChars : Nat → List Char → Except Fault (List Char)
  | 0, _ => .error .cutShort
  | fuel + 1, s =>
    match s with
    | '"' :: rest => .ok rest
    | _ => do skipChars fuel (← skipChar s)

abbrev Reading (α : Type) := α × Option (List Char)

def faulty (strict : Fault) (skipped : Option Fault) (rest : List Char) : Reading Source :=
  (.unreadable strict skipped, if skipped.isSome then none else some rest)

def broken (f : Fault) : Reading Source := faulty f (some f) []

def readText (s : List Char) : Reading Source :=
  match readChars (s.length + 1) s with
  | .ok (cs, rest) => (.text (String.ofList cs), some rest)
  | .error strict =>
    match skipChars (s.length + 1) s with
    | .ok rest => (.unreadableText strict none, some rest)
    | .error skipped => (.unreadableText strict (some skipped), none)

def maxSignificand : Nat := Nat.pow 2 64 - 1

/-- Digits are collected while they fit into 64 bits; `dropped` counts the digits after that. -/
structure Significand where
  value : Nat
  dropped : Nat
  deriving DecidableEq, Repr

namespace Significand

def push (s : Significand) (digit : Nat) : Significand :=
  if s.dropped = 0 ∧ s.value * 10 + digit ≤ maxSignificand then ⟨s.value * 10 + digit, 0⟩
  else ⟨s.value, s.dropped + 1⟩

def ofDigits (digits : List Char) : Significand :=
  digits.foldl (fun s c => s.push (c.toNat - '0'.toNat)) ⟨0, 0⟩

end Significand

def addFraction (value : Nat) (exponent : Int) : List Char → Nat × Int
  | [] => (value, exponent)
  | c :: rest =>
    let next := value * 10 + (c.toNat - '0'.toNat)
    if next ≤ maxSignificand then addFraction next (exponent - 1) rest else (value, exponent)

def natOfDigits (digits : List Char) : Nat :=
  digits.foldl (fun n c => 10 * n + (c.toNat - '0'.toNat)) 0

def maxExponent : Nat := Nat.pow 2 31 - 1

def scale (x : Float) (exponent : Int) : Nat → Option Float
  | 0 => some x
  | fuel + 1 =>
    if exponent.natAbs ≤ 308 then
      let power := Float.ofScientific 1 false exponent.natAbs
      if 0 ≤ exponent then
        let y := x * power
        if y.isInf then none else some y
      else some (x / power)
    else if x == 0 then some x
    else if 0 ≤ exponent then none
    else scale (x / Float.ofScientific 1 false 308) (exponent + 308) fuel

def magnitude? (value : Nat) (exponent : Int) : Option Float := scale (Float.ofNat value) exponent 8

def realStyle : Decimal.Style := ⟨.toEven, some (-5, 15), "inf", "NaN"⟩

def real (negative : Bool) (x : Float) : Source :=
  .real (Decimal.text realStyle (if negative then -x else x))

structure Numeral where
  integer : List Char
  fraction : Option (List Char)
  exponent : Option (Bool × List Char)
  deriving DecidableEq, Repr

namespace Numeral

/-- An exponent too large to count with makes the number zero or out of range. -/
def real? (n : Numeral) (start : Significand) : Option Float :=
  let (value, exponent) := addFraction start.value start.dropped (n.fraction.getD [])
  match n.exponent with
  | none => magnitude? value exponent
  | some (negative, digits) =>
    let power := natOfDigits digits
    if power ≤ maxExponent then
      magnitude? value (if negative then exponent - power else exponent + power)
    else if value = 0 ∨ negative then some 0
    else none

/-- Whole numbers that fit into 64 bits are integers, but a negative zero is not. -/
def toSource (n : Numeral) (negative : Bool) : Option Source :=
  let start := Significand.ofDigits n.integer
  let whole := n.fraction.isNone && n.exponent.isNone && start.dropped == 0
  if whole && !negative then some (.integer start.value)
  else if whole && start.value != 0 && start.value ≤
    Nat.pow 2 63 then some (.integer (-start.value))
  else (n.real? start).map (Json.real negative)

end Numeral

/-- A number that stops in the middle of the text is cut short, unless it is only passed over. -/
def stopNumber (rest : List Char) : Reading Source :=
  faulty (if rest.isEmpty then .cutShort else .malformed) (some .malformed) []

def finishNumber (negative : Bool) (n : Numeral) (rest : List Char) : Reading Source :=
  match n.toSource negative with
  | some value => (value, some rest)
  | none => faulty .malformed none rest

def readExponent (negative : Bool) (n : Numeral) (s : List Char) : Reading Source :=
  let (minus, s) := match s with
    | '+' :: rest => (false, rest)
    | '-' :: rest => (true, rest)
    | _ => (false, s)
  let digits := s.takeWhile Char.isDigit
  if digits.isEmpty then stopNumber s
  else finishNumber negative { n with exponent := some (minus, digits) } (s.dropWhile Char.isDigit)

def readAfterFraction (negative : Bool) (n : Numeral) (s : List Char) : Reading Source :=
  match s with
  | c :: rest =>
    if c = 'e' ∨ c = 'E' then readExponent negative n rest else finishNumber negative n s
  | [] => finishNumber negative n s

def readAfterInteger (negative : Bool) (n : Numeral) (s : List Char) : Reading Source :=
  match s with
  | '.' :: rest =>
    let digits := rest.takeWhile Char.isDigit
    if digits.isEmpty then stopNumber rest
    else readAfterFraction negative { n with fraction := some digits } (rest.dropWhile Char.isDigit)
  | _ => readAfterFraction negative n s

def readNumber (negative : Bool) (s : List Char) : Reading Source :=
  let digits := s.takeWhile Char.isDigit
  let rest := s.dropWhile Char.isDigit
  match digits with
  | [] => stopNumber s
  | '0' :: _ :: _ => broken .malformed
  | _ => readAfterInteger negative ⟨digits, none, none⟩ rest

def readWord (value : Source) : List Char → List Char → Reading Source
  | [], s => (value, some s)
  | _ :: _, [] => broken .cutShort
  | w :: word, c :: rest => if c = w then readWord value word rest else broken .malformed

def stopped (s : List Char) : Option Fault := some (if s.isEmpty then .cutShort else .malformed)

def prependItem (item : Source) : Reading Source → Reading Source
  | (.list items stop, rest) => (.list (item :: items) stop, rest)
  | reading => reading

def prependMember (member : Source × Source) : Reading Source → Reading Source
  | (.object members stop, rest) => (.object (member :: members) stop, rest)
  | reading => reading

mutual

def readValue : Nat → List Char → Reading Source
  | 0, _ => broken .malformed
  | fuel + 1, s =>
    match skipSpaces s with
    | [] => (.absent, none)
    | 'n' :: rest => readWord .null ['u', 'l', 'l'] rest
    | 't' :: rest => readWord (.bool true) ['r', 'u', 'e'] rest
    | 'f' :: rest => readWord (.bool false) ['a', 'l', 's', 'e'] rest
    | '"' :: rest => readText rest
    | '-' :: rest => readNumber true rest
    | '[' :: rest =>
      match skipSpaces rest with
      | ']' :: rest => (.list [] none, some rest)
      | [] => (.list [] (some .cutShort), none)
      | s => readItems fuel s
    | '\x7b' :: rest =>
      match skipSpaces rest with
      | '\x7d' :: rest => (.object [] none, some rest)
      | [] => (.object [] (some .cutShort), none)
      | s => readMembers fuel s
    | c :: rest => if c.isDigit then readNumber false (c :: rest) else broken .malformed

def readItems : Nat → List Char → Reading Source
  | 0, _ => broken .malformed
  | fuel + 1, s =>
    match readValue fuel s with
    | (item, none) => (.list [item] (some .malformed), none)
    | (item, some rest) =>
      match skipSpaces rest with
      | ']' :: rest => (.list [item] none, some rest)
      | ',' :: rest => prependItem item (readItems fuel rest)
      | rest => (.list [item] (stopped rest), none)

def readMembers : Nat → List Char → Reading Source
  | 0, _ => broken .malformed
  | fuel + 1, s =>
    let s := skipSpaces s
    match s.head? == some '"', readValue fuel s with
    | true, (key, some rest) =>
      match skipSpaces rest with
      | ':' :: rest =>
        match readValue fuel rest with
        | (value, none) => (.object [(key, value)] (some .malformed), none)
        | (value, some rest) =>
          match skipSpaces rest with
          | '\x7d' :: rest => (.object [(key, value)] none, some rest)
          | ',' :: rest => prependMember (key, value) (readMembers fuel rest)
          | rest => (.object [(key, value)] (stopped rest), none)
      | rest => (.object [(key, (.unreadable ((stopped rest).getD .malformed) (stopped rest)))]
          (stopped rest), none)
    | _, (key, _) =>
      (.object [(key, .unreadable .malformed (some .malformed))] (some .malformed), none)

end

def read (s : List Char) : Reading Source := readValue (2 * s.length + 2) s

end RemoteClient.Json
