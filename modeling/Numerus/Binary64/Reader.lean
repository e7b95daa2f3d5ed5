import Numerus.Binary64.Basic
import Numerus.Decimal.Reader

/-!
Binary floating-point numbers read from text.

A text is read like a decimal number with any exponent, except that an underscore must stand
between two digits, and rounded to the closest number.
-/

namespace Numerus.Binary64

/-- Whether every underscore stands between two digits; `afterDigit` says whether a digit stands
before the text. -/
def underscoresFit (afterDigit : Bool) : Text → Bool
  | [] => true
  | '_' :: t => afterDigit && (t.head?.map Char.isDigit).getD false && underscoresFit false t
  | c :: t => underscoresFit c.isDigit t

/-- Reads a word for an infinity or for no number, in lower case. -/
def readSpecial? (negative : Bool) (t : Text) : Option Binary64 :=
  if t = "inf".toList ∨ t = "infinity".toList then some (infinite negative)
  else if t = "nan".toList then some notANumber
  else none

/-- Reads a number, an infinity or no number. -/
def read? (t : Text) : Option Binary64 :=
  let plain := t.strip.map plainDigit
  if underscoresFit false plain then
    let (negative, unsigned) := Decimal.splitSign (plain.filter (· ≠ '_'))
    ((Decimal.readUnbounded? negative unsigned).map nearest).or
      (readSpecial? negative (unsigned.map Char.toLower))
  else none

end Numerus.Binary64
