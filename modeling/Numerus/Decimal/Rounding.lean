import Numerus.Decimal.Basic
import Numerus.Numeral.Limit

/-!
Rounding to a number of digits after the point, a half away from zero.

The result may not have more digits than arithmetic works with. That number is set for each
rounding so that the result fits. Digits after the point that are too many to be read are not
computed in the first place.
-/

namespace Numerus

/-- The quotient of `a` and `b` rounded to a whole number, a half upward. -/
def halfUp (a b : Nat) : Nat := (2 * a + b) / (2 * b)

namespace Decimal

/-- The coefficient of the number when it has exactly `places` digits after the point. -/
def coefficientAt (d : Decimal) (places : Nat) : Nat :=
  let shift := d.exponent + places
  if 0 ≤ shift then d.coefficient * powerOfTen shift.toNat
  else halfUp d.coefficient (powerOfTen (-shift).toNat)

/-- The fewest digits that arithmetic works with. -/
def leastWorkingDigits : Int := 28

/-- The most digits that arithmetic can be told to work with. -/
def mostWorkingDigits : Int := 999999999999999999

/-- The number of digits to work with when a number is rounded to `places` digits. -/
def workingDigits (d : Decimal) (places : Nat) : Int :=
  max leastWorkingDigits (d.adjusted + places + 2)

/-- Fails for a number of digits that arithmetic cannot be told to work with. -/
def checkWorkingDigits (working : Int) : Except Failure Unit :=
  if Numeral.machineBound ≤ working then .error .overflow
  else if mostWorkingDigits < working then .error (.invalid .workingDigits)
  else .ok ()

/-- The number with exactly `places` digits after the point. -/
def rounded (d : Decimal) (places : Nat) : Except Failure Decimal := do
  let working := d.workingDigits places
  checkWorkingDigits working
  Numeral.checkCapacity places
  Numeral.checkLength places
  let coefficient := d.coefficientAt places
  if Numeral.length coefficient > working then throw .tooManyDigits
  return ⟨d.negative, coefficient, -places⟩

end Decimal

end Numerus
