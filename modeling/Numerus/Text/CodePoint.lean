import Numerus.Text.Basic

/-!
Code points that are no characters.

The numbers from 0xD800 to 0xDFFF are halves of pairs, by which code points beyond U+FFFF may be
written. A half that stands alone is a code point and no character, so a sequence of code
points that may hold one is kept as a list of numbers and not as a text.
-/

namespace Numerus.CodePoint

/-- Whether a code point is the first half of a pair. -/
def isHighHalf (n : Nat) : Bool := 0xD800 ≤ n && n < 0xDC00

/-- Whether a code point is the second half of a pair. -/
def isLowHalf (n : Nat) : Bool := 0xDC00 ≤ n && n < 0xE000

/-- Whether a code point is a half of a pair. -/
def isHalf (n : Nat) : Bool := isHighHalf n || isLowHalf n

/-- The character of a code point; a half has none and is replaced. -/
def toChar (n : Nat) : Char := if isHalf n then '\ufffd' else Char.ofNat n

/-- The code points with a half and the other half after it put together. -/
def joinHalves : List Nat → List Nat
  | [] => []
  | [n] => [n]
  | high :: low :: rest =>
    if isHighHalf high && isLowHalf low then
      (0x10000 + (high - 0xD800) * 0x400 + (low - 0xDC00)) :: joinHalves rest
    else high :: joinHalves (low :: rest)

/-- No character is a half of a pair. -/
theorem isHalf_toNat (c : Char) : isHalf c.toNat = false := by
  have h : c.toNat < 0xD800 ∨ 0xDFFF < c.toNat ∧ c.toNat < 0x110000 := c.valid
  simp only [isHalf, isHighHalf, isLowHalf, Bool.or_eq_false_iff, Bool.and_eq_false_iff,
    decide_eq_false_iff_not]
  omega

@[simp] theorem toChar_toNat (c : Char) : toChar c.toNat = c := by
  simp [toChar, isHalf_toNat]

end Numerus.CodePoint
