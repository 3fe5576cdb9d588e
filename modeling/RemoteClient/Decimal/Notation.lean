import RemoteClient.Decimal.Shortest

namespace RemoteClient.Decimal

/-- Numbers whose first digit has the weight `10 ^ k` are written positionally when `k` lies in the
range, if one is given; all others get an exponent. Of two shortest texts equally near, `tie` takes
one. -/
structure Style where
  tie : Tie
  positional : Option (Int × Int)
  infinity : String
  notANumber : String
  deriving DecidableEq, Repr

namespace Style

def isPositional (style : Style) (k : Int) : Bool :=
  match style.positional with
  | some (least, most) => least ≤ k && k ≤ most
  | none => true

end Style

def digitChars (n : Nat) : List Char := Nat.toDigits 10 n

def positional (d : Decimal) : List Char :=
  let digits := digitChars d.digits
  if 0 ≤ d.exponent then digits ++ List.replicate d.exponent.toNat '0' ++ ['.', '0']
  else
    let places := (-d.exponent).toNat
    let padded := List.replicate (places + 1 - digits.length) '0' ++ digits
    padded.take (padded.length - places) ++ '.' :: padded.drop (padded.length - places)

def scientific (d : Decimal) (k : Int) : List Char :=
  let mantissa := match digitChars d.digits with
    | first :: second :: rest => first :: '.' :: second :: rest
    | digits => digits
  mantissa ++ 'e' :: (if k < 0 then '-' else '+') :: digitChars k.natAbs

def chars (style : Style) (d : Decimal) : List Char :=
  let k : Int := d.exponent + (digitChars d.digits).length - 1
  if style.isPositional k then positional d else scientific d k

def textOfBits (style : Style) (bits : Nat) : String :=
  let sign := if bits / powerOfTwo 63 % 2 = 1 then "-" else ""
  let magnitude := bits % powerOfTwo 63
  if 2047 * powerOfTwo 52 < magnitude then style.notANumber
  else if magnitude = 2047 * powerOfTwo 52 then sign ++ style.infinity
  else
    let (m, q) := ofBits magnitude
    let d := if m = 0 then ⟨0, 0⟩ else shortest style.tie m q
    sign ++ String.ofList (chars style d)

def text (style : Style) (x : Float) : String := textOfBits style x.toBits.toNat

end RemoteClient.Decimal
