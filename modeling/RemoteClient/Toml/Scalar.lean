import RemoteClient.Decimal.Notation
import RemoteClient.Toml.Value

namespace RemoteClient.Toml

def stripUnderscores (isDigit : Char → Bool) : List Char → Option (List Char)
  | [] => none
  | [c] => if isDigit c then some [c] else none
  | c :: '_' :: rest =>
    if isDigit c then (stripUnderscores isDigit rest).map (c :: ·) else none
  | c :: rest => if isDigit c then (stripUnderscores isDigit rest).map (c :: ·) else none

def digitIn (base : Nat) (c : Char) : Bool :=
  match c.isDigit, 'a' ≤ c && c ≤ 'f', 'A' ≤ c && c ≤ 'F' with
  | true, _, _ => c.toNat - '0'.toNat < base
  | false, true, _ => c.toNat - 'a'.toNat + 10 < base
  | false, false, true => c.toNat - 'A'.toNat + 10 < base
  | false, false, false => false

def digitValue (c : Char) : Nat :=
  if c.isDigit then c.toNat - '0'.toNat
  else if 'a' ≤ c then c.toNat - 'a'.toNat + 10
  else c.toNat - 'A'.toNat + 10

def natOfDigits (base : Nat) (digits : List Char) : Nat :=
  digits.foldl (fun n c => base * n + digitValue c) 0

def digits? (s : List Char) : Option (List Char) := stripUnderscores Char.isDigit s

def decimal? (s : List Char) : Option (List Char) :=
  match digits? s with
  | some ('0' :: _ :: _) => none
  | result => result

def inBase? (base : Nat) (s : List Char) : Option Int :=
  (stripUnderscores (digitIn base) s).map fun digits => natOfDigits base digits

def splitSign : List Char → Bool × List Char
  | '-' :: rest => (true, rest)
  | '+' :: rest => (false, rest)
  | s => (false, s)

def integer? (s : List Char) : Option Int :=
  match s with
  | '0' :: 'x' :: rest => inBase? 16 rest
  | '0' :: 'o' :: rest => inBase? 8 rest
  | '0' :: 'b' :: rest => inBase? 2 rest
  | _ => do
    let (negative, s) := splitSign s
    let n := natOfDigits 10 (← decimal? s)
    return if negative then -n else n

def realStyle : Decimal.Style := ⟨.up, none, "inf", "NaN"⟩

/-- The number `digits * 10 ^ exponent`; beyond all range there is no need to compute it. -/
def floatOf (digits : List Char) (exponent : Int) : Float :=
  let n := natOfDigits 10 digits
  let size : Int := (Nat.repr n).length + exponent
  if n = 0 ∨ size < -400 then 0
  else if 400 < size then 1 / 0
  else Float.ofScientific n (exponent < 0) exponent.natAbs

def realOf (negative : Bool) (x : Float) : Value :=
  if x.isInf then .huge else .real (Decimal.text realStyle (if negative then -x else x))

def special? (negative : Bool) (s : List Char) : Option Value :=
  if s = ['i', 'n', 'f'] then some (.real (if negative then "-inf" else "inf"))
  else if s = ['n', 'a', 'n'] then some (.real "NaN")
  else none

def isExponentMark (c : Char) : Bool := c = 'e' || c = 'E'

def cutAt (p : Char → Bool) (s : List Char) : List Char × Option (List Char) :=
  match s.dropWhile (!p ·) with
  | [] => (s, none)
  | _ :: rest => (s.takeWhile (!p ·), some rest)

def exponent? : Option (List Char) → Option Int
  | none => some 0
  | some s => do
    let (negative, s) := splitSign s
    let n : Int := natOfDigits 10 (← digits? s)
    return if negative then -n else n

def fraction? : Option (List Char) → Option (List Char)
  | none => some []
  | some s => digits? s

def real? (s : List Char) : Option Value := do
  let (negative, s) := splitSign s
  if let some value := special? negative s then return value
  let (mantissa, power) := cutAt isExponentMark s
  let (whole, fraction) := cutAt (· = '.') mantissa
  let whole ← decimal? whole
  let fraction ← fraction? fraction
  let exponent ← exponent? power
  return realOf negative (floatOf (whole ++ fraction) (exponent - fraction.length))

def number2? (a b : Char) : Option Nat :=
  if a.isDigit && b.isDigit then some (10 * digitValue a + digitValue b) else none

def isLeapYear (year : Nat) : Bool := year % 4 = 0 && (year % 100 ≠ 0 || year % 400 = 0)

def daysIn (year month : Nat) : Nat :=
  if month = 2 then (if isLeapYear year then 29 else 28)
  else if month = 4 ∨ month = 6 ∨ month = 9 ∨ month = 11 then 30
  else 31

def date? : List Char → Option (List Char)
  | y1 :: y2 :: y3 :: y4 :: '-' :: m1 :: m2 :: '-' :: d1 :: d2 :: rest => do
    let year := 100 * (← number2? y1 y2) + (← number2? y3 y4)
    let month ← number2? m1 m2
    let day ← number2? d1 d2
    if 1 ≤ month ∧ month ≤ 12 ∧ 1 ≤ day ∧ day ≤ daysIn year month then some rest else none
  | _ => none

def afterFraction? : List Char → Option (List Char)
  | '.' :: c :: rest => if c.isDigit then some (rest.dropWhile Char.isDigit) else none
  | '.' :: [] => none
  | s => some s

def afterSeconds? : List Char → Option (List Char)
  | ':' :: a :: b :: rest => do
    if (← number2? a b) ≤ 60 then afterFraction? rest else none
  | ':' :: _ => none
  | s => some s

def time? : List Char → Option (List Char)
  | h1 :: h2 :: ':' :: m1 :: m2 :: rest => do
    if (← number2? h1 h2) ≤ 23 ∧ (← number2? m1 m2) ≤ 59 then afterSeconds? rest else none
  | _ => none

def isOffset : List Char → Bool
  | ['Z'] | ['z'] => true
  | [sign, h1, h2, ':', m1, m2] =>
    (sign = '+' || sign = '-') && (number2? h1 h2).any (· ≤ 23) && (number2? m1 m2).any (· ≤ 59)
  | _ => false

def isDatetime (s : List Char) : Bool :=
  match date? s with
  | some [] => true
  | some (separator :: rest) =>
    (separator = 'T' || separator = 't' || separator = ' ')
      && (time? rest).any fun rest => rest.isEmpty || isOffset rest
  | none => (time? s).any List.isEmpty

def scalar? (s : List Char) : Option Value :=
  if s = ['t', 'r', 'u', 'e'] then some (.bool true)
  else if s = ['f', 'a', 'l', 's', 'e'] then some (.bool false)
  else if isDatetime s then some .datetime
  else ((integer? s).map Value.ofInt).or (real? s)

end RemoteClient.Toml
