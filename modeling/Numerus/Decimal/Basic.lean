import Numerus.Numeral.Basic

/-!
Decimal numbers with their visible digits.

A decimal number is a sign, a coefficient and an exponent of ten, so 1.2 and 1.20 are different
decimal numbers of the same value. It is written plainly where its exponent is at most zero and
its first digit stands at the sixth place after the point or before; otherwise with an exponent.
-/

namespace Numerus

/-- The number `± coefficient * 10 ^ exponent`, with its digits as they stand. -/
structure Decimal where
  negative : Bool
  coefficient : Nat
  exponent : Int
  deriving DecidableEq

namespace Decimal

/-- The whole number `n`. -/
def ofNat (n : Nat) : Decimal := ⟨false, n, 0⟩

/-- The number without its sign. -/
def abs (d : Decimal) : Decimal := { d with negative := false }

/-- The number of digits after the point. -/
def scale (d : Decimal) : Nat := (-d.exponent).toNat

/-- The digits of the number, with zeros in front so that one stands before the point. -/
def digits (d : Decimal) : Text := Text.padded (d.scale + 1) '0' (Numeral.ofNat d.coefficient)

/-- The digits before the point. -/
def wholeDigits (d : Decimal) : Text := d.digits.span 0 (-d.scale)

/-- The digits after the point, of a number that has some. -/
def fractionDigits (d : Decimal) : Text := d.digits.span (-d.scale) d.digits.length

/-- The digits after the point without the zeros that close them. -/
def significantDigits (d : Decimal) : Text := d.fractionDigits.trimmedEnd '0'

/-- The exponent of the first digit. -/
def adjusted (d : Decimal) : Int := d.exponent + Numeral.length d.coefficient - 1

/-- The smallest exponent of the first digit in plain notation. -/
def leastPlain : Int := -6

/-- The digits `digits`, of which `places` stand before the point; a negative number of places
puts zeros between the point and the digits. -/
def pointed (digits : Text) (places : Int) : Text :=
  if places ≤ 0 then "0." ++ List.replicate (-places).toNat '0' ++ digits
  else if places.toNat < digits.length then
    digits.take places.toNat ++ '.' :: digits.drop places.toNat
  else digits ++ List.replicate (places.toNat - digits.length) '0'

/-- The written form of a non-zero exponent, with its sign; nothing for zero. -/
def exponentMark (e : Int) : Text :=
  if e = 0 then [] else 'E' :: (if e < 0 then '-' else '+') :: Numeral.ofNat e.natAbs

/-- The number without its sign, in the notation that fits it. -/
def magnitude (d : Decimal) : Text :=
  let digits := Numeral.ofNat d.coefficient
  if d.exponent ≤ 0 ∧ leastPlain ≤ d.adjusted then
    pointed digits (d.exponent + digits.length)
  else pointed digits 1 ++ exponentMark d.adjusted

/-- The number as text. -/
def write (d : Decimal) : Text := (if d.negative then ['-'] else []) ++ d.magnitude

end Decimal

/-- A decimal number, an infinity, or no number, quiet or signaling, with the digits of its
payload. -/
inductive ExtendedDecimal where
  | finite (value : Decimal)
  | infinite (negative : Bool)
  | notANumber (negative signaling : Bool) (payload : Text)
  deriving DecidableEq

namespace ExtendedDecimal

/-- The number as text. -/
def write : ExtendedDecimal → Text
  | finite value => value.write
  | infinite negative => (if negative then ['-'] else []) ++ "Infinity"
  | notANumber negative signaling payload =>
    (if negative then ['-'] else []) ++ (if signaling then ['s'] else []) ++ "NaN" ++ payload

end ExtendedDecimal

end Numerus
