import Numerus.Decimal.Basic
import Numerus.Text.Blank
import Numerus.Text.Digit

/-!
Decimal numbers read from text.

White space around the text and underscores anywhere are left out, and digits of any script are
taken for their values. What is left is an optional sign and then digits with an optional point
and an optional exponent, or a word for an infinity or for no number, in any case.
-/

namespace Numerus

/-- The digit of ASCII with the value of `c`, if `c` is a decimal digit; otherwise `c`. -/
def plainDigit (c : Char) : Char :=
  if c.toNat < 0x80 then c
  else match decimalDigit? c with
    | some value => Char.ofNat ('0'.toNat + value)
    | none => c

namespace Decimal

/-- The greatest exponent that a first digit may have. -/
def greatestAdjusted : Int := 999999999999999999

/-- The least exponent that a number may have. -/
def leastExponent : Int := -1999999999999999997

/-- Whether the exponents are within bounds. -/
def inBounds (d : Decimal) : Bool := leastExponent ≤ d.exponent && d.adjusted ≤ greatestAdjusted

/-- A sign and what follows it; without a sign the number is positive. -/
def splitSign : Text → Bool × Text
  | '-' :: t => (true, t)
  | '+' :: t => (false, t)
  | t => (false, t)

/-- Reads one or more ASCII digits. -/
def readDigits? (t : Text) : Option Nat :=
  if t ≠ [] ∧ t.all Char.isDigit then some (Numeral.value t) else none

/-- Reads digits with an optional sign. -/
def readSigned? (t : Text) : Option Int :=
  let (negative, digits) := splitSign t
  (readDigits? digits).map fun n => if negative then -(n : Int) else n

/-- Whether `c` opens an exponent. -/
def isExponentMark (c : Char) : Bool := c == 'e' || c == 'E'

/-- Reads the exponent that closes a number; without one it is zero. -/
def readExponent? : Text → Option Int
  | [] => some 0
  | _ :: t => readSigned? t

/-- The digits before and after the point. A second point stays among the digits. -/
def splitPoint (t : Text) : Text × Text := (t.before '.', t.after '.')

/-- Reads a number without its sign, whatever its exponent. -/
def readUnbounded? (negative : Bool) (t : Text) : Option Decimal := do
  let exponent ← readExponent? (t.dropWhile (!isExponentMark ·))
  let (whole, fraction) := splitPoint (t.takeWhile (!isExponentMark ·))
  let coefficient ← readDigits? (whole ++ fraction)
  return ⟨negative, coefficient, exponent - fraction.length⟩

/-- Reads a number without its sign. -/
def readFinite? (negative : Bool) (t : Text) : Option Decimal :=
  (readUnbounded? negative t).filter inBounds

end Decimal

namespace ExtendedDecimal

/-- Reads the payload of something that is no number: digits, without leading zeros. -/
def readPayload? (t : Text) : Option Text :=
  if t.all Char.isDigit then some (t.dropWhile (· == '0')) else none

/-- Reads a word for an infinity or for no number, in lower case. -/
def readSpecial? (negative : Bool) (t : Text) : Option ExtendedDecimal :=
  if t = "inf".toList ∨ t = "infinity".toList then some (.infinite negative)
  else if t.take 3 = "nan".toList then
    (readPayload? (t.drop 3)).map (.notANumber negative false)
  else if t.take 4 = "snan".toList then
    (readPayload? (t.drop 4)).map (.notANumber negative true)
  else none

/-- Reads a number, an infinity or no number. -/
def read? (t : Text) : Option ExtendedDecimal :=
  let (negative, unsigned) :=
    Decimal.splitSign ((t.strip.filter (· ≠ '_')).map plainDigit)
  ((Decimal.readFinite? negative unsigned).map .finite).or
    (readSpecial? negative (unsigned.map Char.toLower))

end ExtendedDecimal

end Numerus
