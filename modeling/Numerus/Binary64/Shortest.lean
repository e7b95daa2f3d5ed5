import Numerus.Binary64.Basic

/-!
The shortest decimal numbers that read back as a binary floating-point number.

The decimal numbers that are rounded to a binary number form an interval around it, which holds
its ends if the significand is even. On the grids of one, two, up to seventeen digits the two
neighbours of the number are tried; the first grid with a neighbour in the interval gives the
shortest form, and of two neighbours the nearer one is taken, at equal distance the even one.
-/

namespace Numerus.Binary64

/-- The closed or open interval of the fractions between `low / unit` and `high / unit` that are
rounded to `mid / unit`. -/
structure Neighbourhood where
  low : Nat
  mid : Nat
  high : Nat
  unit : Nat
  closed : Bool

namespace Neighbourhood

/-- The numbers that are rounded to `significand * 2 ^ exponent`, in quarters of its last bit. The
gap below a power of two is half as wide, unless the exponent is the least one. -/
def of (significand : Nat) (exponent : Int) : Neighbourhood :=
  let scale := powerOfTwo (exponent - 2).toNat
  let gap := if significand = leadingBit ∧ leastExponent < exponent then 1 else 2
  { low := (4 * significand - gap) * scale
    mid := 4 * significand * scale
    high := (4 * significand + 2) * scale
    unit := powerOfTwo (2 - exponent).toNat
    closed := significand % 2 = 0 }

/-- The least exponent of ten of which the power exceeds the number. -/
def decade (n : Neighbourhood) : Int :=
  let guess : Int := (Numeral.length n.mid : Int) - Numeral.length n.unit
  if n.unit * powerOfTen guess.toNat ≤ n.mid * powerOfTen (-guess).toNat then guess + 1 else guess

/-- Whether `digits * 10 ^ exponent` lies in the interval. -/
def contains (n : Neighbourhood) (digits : Nat) (exponent : Int) : Bool :=
  let point := digits * powerOfTen exponent.toNat * n.unit
  let shift := powerOfTen (-exponent).toNat
  if n.closed then n.low * shift ≤ point && point ≤ n.high * shift
  else n.low * shift < point && point < n.high * shift

/-- The number in units of `10 ^ exponent`, as a fraction. -/
def inUnits (n : Neighbourhood) (exponent : Int) : Nat × Nat :=
  (n.mid * powerOfTen (-exponent).toNat, n.unit * powerOfTen exponent.toNat)

/-- The neighbour of the number with `count` digits that lies in the interval, the nearer one if
both do. -/
def neighbour? (n : Neighbourhood) (count : Nat) : Option (Nat × Int) :=
  let exponent := n.decade - count
  let (a, b) := n.inUnits exponent
  let below := a / b
  match n.contains below exponent, n.contains (below + 1) exponent with
  | true, true => some (halfEven a b, exponent)
  | true, false => some (below, exponent)
  | false, true => some (below + 1, exponent)
  | false, false => none

/-- The shortest number in the interval. -/
def shortest (n : Neighbourhood) : Nat × Int :=
  ((List.range' 1 17).findSome? n.neighbour?).getD (0, 0)

end Neighbourhood

/-- The shortest decimal number that reads back as `± significand * 2 ^ exponent`. Zero has one
digit after the point. -/
def shortest (negative : Bool) (significand : Nat) (exponent : Int) : Decimal :=
  if significand = 0 then ⟨negative, 0, -1⟩
  else
    let (digits, exponent) := (Neighbourhood.of significand exponent).shortest
    ⟨negative, digits, exponent⟩

/-- The exponents of the first digit in positional notation: from the first to below the second. -/
def positional : Int × Int := (-4, 16)

/-- The digits with the point, and at least one digit after it. -/
def pointed (digits : Text) (places : Int) : Text :=
  let t := Decimal.pointed digits places
  if digits.length ≤ places then t ++ ".0" else t

/-- The digits of a number without the zeros that close them. -/
def significantDigits (n : Nat) : Text :=
  ((Numeral.ofNat n).reverse.dropWhile (· == '0')).reverse

/-- The digits with an exponent of at least two digits and its sign. -/
def scientific (digits : Text) (adjusted : Int) : Text :=
  digits.take 1 ++ (if digits.length ≤ 1 then [] else '.' :: digits.drop 1)
    ++ 'e' :: (if adjusted < 0 then '-' else '+')
    :: Text.padded 2 '0' (Numeral.ofNat adjusted.natAbs)

/-- A shortest decimal number as text. -/
def writeShortest (d : Decimal) : Text :=
  let sign : Text := if d.negative then ['-'] else []
  if d.coefficient = 0 then sign ++ "0.0"
  else
    let digits := significantDigits d.coefficient
    if positional.1 ≤ d.adjusted ∧ d.adjusted < positional.2 then
      sign ++ pointed digits (d.adjusted + 1)
    else sign ++ scientific digits d.adjusted

/-- The number as text. -/
def write : Binary64 → Text
  | finite negative significand exponent => writeShortest (shortest negative significand exponent)
  | infinite negative => (if negative then ['-'] else []) ++ "inf"
  | notANumber => "nan"

end Numerus.Binary64
