import Numerus.Numeral.Power
import Numerus.Text.Basic

/-!
Decimal numerals: the digits of a number, and the number that digits stand for.

A numeral is written without leading zeros and read with any number of them.
-/

namespace Numerus.Numeral

/-- The decimal digits of `n`, the most significant one first. -/
def ofNat (n : Nat) : Text := Nat.toDigits 10 n

/-- The decimal numeral of `i`, with a minus sign in front if it is negative. -/
def ofInt (i : Int) : Text := if i < 0 then '-' :: ofNat i.natAbs else ofNat i.natAbs

/-- The number that the ASCII digits of `t` stand for. -/
def value (t : Text) : Nat := Nat.ofDigitChars 10 t 0

/-- The number of decimal digits of `n`; zero has one. -/
def length (n : Nat) : Nat := (ofNat n).length

/-- The hexadecimal digits of `n` in lower case, at least `width` of them. -/
def hexadecimal (width n : Nat) : Text := Text.padded width '0' (Nat.toDigits 16 n)

@[simp] theorem value_ofNat (n : Nat) : value (ofNat n) = n :=
  Nat.ofDigitChars_toDigits (by decide) (by decide)

theorem isDigit_of_mem_ofNat {n : Nat} {c : Char} (h : c ∈ ofNat n) : c.isDigit = true :=
  Nat.isDigit_of_mem_toDigits (by decide) (by decide) h

/-- A number has at most `k` digits exactly if it lies below the `k`-th power of ten. -/
theorem length_le_iff {n k : Nat} (h : 0 < k) : length n ≤ k ↔ n < powerOfTen k :=
  Nat.length_toDigits_le_iff (by decide) h

end Numerus.Numeral
