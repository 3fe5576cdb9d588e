namespace RemoteClient

/-- A number `digits * 10 ^ exponent` without trailing zeros in `digits`. -/
structure Decimal where
  digits : Nat
  exponent : Int
  deriving DecidableEq, Repr

namespace Decimal

inductive Tie where
  | toEven
  | up
  deriving DecidableEq, Repr

namespace Tie

def takesLower (tie : Tie) (c : Nat) : Bool :=
  match tie with
  | .toEven => c % 2 = 0
  | .up => false

end Tie

def powerOfTwo (k : Nat) : Nat := Nat.pow 2 k

def powerOfTen (k : Nat) : Nat := Nat.pow 10 k

/-- A positive number `m * 2 ^ q` and the interval of reals that round to it, each as the numerator
of a fraction over `den`. The ends belong to the interval when `m` is even. -/
structure Rounding where
  low : Nat
  value : Nat
  high : Nat
  den : Nat
  closed : Bool
  deriving DecidableEq, Repr

namespace Rounding

/-- Below a power of two the numbers lie twice as close. -/
def ofBinary (m : Nat) (q : Int) : Rounding :=
  let below := if m = powerOfTwo 52 ∧ -1074 < q then 4 * m - 1 else 4 * m - 2
  let scale := powerOfTwo q.toNat
  { low := below * scale
    value := 4 * m * scale
    high := (4 * m + 2) * scale
    den := 4 * powerOfTwo (-q).toNat
    closed := m % 2 = 0 }

def covers (r : Rounding) (c : Nat) (e : Int) : Bool :=
  let point := c * powerOfTen e.toNat * r.den
  let scale := powerOfTen (-e).toNat
  if r.closed then r.low * scale ≤ point && point ≤ r.high * scale
  else r.low * scale < point && point < r.high * scale

def floorAt (r : Rounding) (e : Int) : Nat :=
  r.value * powerOfTen (-e).toNat / (r.den * powerOfTen e.toNat)

def takesLower (r : Rounding) (tie : Tie) (c : Nat) (e : Int) : Bool :=
  let twice := 2 * r.value * powerOfTen (-e).toNat
  let middle := (2 * c + 1) * powerOfTen e.toNat * r.den
  if twice = middle then tie.takesLower c else twice < middle

def onGrid? (r : Rounding) (tie : Tie) (e : Int) : Option Nat :=
  let c := r.floorAt e
  match r.covers c e, r.covers (c + 1) e with
  | true, true => some (if r.takesLower tie c e then c else c + 1)
  | true, false => some c
  | false, true => some (c + 1)
  | false, false => none

def search (r : Rounding) (tie : Tie) (e : Int) : Nat → Option (Nat × Int)
  | 0 => none
  | tries + 1 =>
    match r.onGrid? tie e with
    | some c => some (c, e)
    | none => r.search tie (e - 1) tries

end Rounding

def stripZeros (d : Nat) (e : Int) : Nat → Decimal
  | 0 => ⟨d, e⟩
  | fuel + 1 => if d ≠ 0 ∧ d % 10 = 0 then stripZeros (d / 10) (e + 1) fuel else ⟨d, e⟩

/-- Seventeen digits always suffice. -/
def shortest (tie : Tie) (m : Nat) (q : Int) : Decimal :=
  let r := Rounding.ofBinary m q
  let magnitude : Int := (Nat.repr (r.value / r.den)).length
  let top : Int := if r.den ≤ r.value then magnitude
    else 1 - ((Nat.repr (r.den / r.value)).length : Int)
  match r.search tie top 20 with
  | some (c, e) => stripZeros c e 20
  | none => ⟨m, q⟩

def ofBits (bits : Nat) : Nat × Int :=
  let fraction := bits % powerOfTwo 52
  let power : Nat := bits / powerOfTwo 52 % powerOfTwo 11
  if power = 0 then (fraction, -1074) else (powerOfTwo 52 + fraction, Int.ofNat power - 1075)

end Decimal

end RemoteClient
