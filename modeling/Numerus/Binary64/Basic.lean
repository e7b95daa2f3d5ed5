import Numerus.Decimal.Basic

/-!
Binary floating-point numbers of 64 bits.

A finite number is a sign, a significand below 2 ^ 53 and an exponent of two. It is normal if the
significand has all its 53 bits, and otherwise it has the least exponent. `nearest` rounds a
decimal number to the closest such number; of two that are equally close it takes the one with
an even significand.
-/

namespace Numerus

/-- A binary floating-point number: `± significand * 2 ^ exponent`, an infinity, or no number. -/
inductive Binary64 where
  | finite (negative : Bool) (significand : Nat) (exponent : Int)
  | infinite (negative : Bool)
  | notANumber
  deriving DecidableEq

/-- The quotient of `a` and `b` rounded to the nearest whole number, a half to the even one. -/
def halfEven (a b : Nat) : Nat :=
  let q := a / b
  let r := a % b
  if 2 * r < b then q else if b < 2 * r then q + 1 else q + q % 2

namespace Binary64

/-- The exponent of numbers that are not normal. -/
def leastExponent : Int := -1074

/-- The greatest exponent of finite numbers. -/
def greatestExponent : Int := 971

/-- The significand of the powers of two. -/
def leadingBit : Nat := powerOfTwo 52

/-- A decimal number of which the first digit has a greater exponent is rounded to an infinity. -/
def greatestDecade : Int := 400

/-- A decimal number of which the first digit has a smaller exponent is rounded to zero. -/
def leastDecade : Int := -400

/-- The number closest to `a / b * 2 ^ exponent` with that exponent, or with the next one if the
significand needs it. -/
def atExponent (negative : Bool) (a b : Nat) (exponent : Int) : Binary64 :=
  let significand := halfEven a b
  let carries := significand = 2 * leadingBit
  let significand := if carries then leadingBit else significand
  let exponent := if carries then exponent + 1 else exponent
  if greatestExponent < exponent then infinite negative
  else finite negative significand exponent

/-- The number closest to `a / b`. -/
def ofRatio (negative : Bool) (a b : Nat) : Binary64 :=
  let guess : Int := (a.log2 : Int) - b.log2 - 52
  -- The quotient over `2 ^ guess` has 52 or 53 bits before its point.
  let short := a * powerOfTwo (-guess).toNat < leadingBit * (b * powerOfTwo guess.toNat)
  let exponent := max leastExponent (if short then guess - 1 else guess)
  atExponent negative (a * powerOfTwo (-exponent).toNat) (b * powerOfTwo exponent.toNat) exponent

/-- The number closest to a decimal number. -/
def nearest (d : Decimal) : Binary64 :=
  if d.coefficient = 0 ∨ d.adjusted < leastDecade then finite d.negative 0 leastExponent
  else if greatestDecade < d.adjusted then infinite d.negative
  else
    ofRatio d.negative (d.coefficient * powerOfTen d.exponent.toNat)
      (powerOfTen (-d.exponent).toNat)

end Binary64

end Numerus
