import Numerus.Text.CodeSet

/-!
Digits in any script: decimal digits with their values (general category Nd), and the wider class of
characters that stand for a single digit, such as superscripts and circled digits (Unicode 15.1).
-/

namespace Numerus

/-- The zeros of the decimal scripts beyond ASCII; the digits one to nine follow each of them. -/
def zerosBeyondAscii : List Nat :=
  [0x660, 0x6F0, 0x7C0, 0x966, 0x9E6, 0xA66, 0xAE6, 0xB66, 0xBE6, 0xC66, 0xCE6, 0xD66, 0xDE6,
   0xE50, 0xED0, 0xF20, 0x1040, 0x1090, 0x17E0, 0x1810, 0x1946, 0x19D0, 0x1A80, 0x1A90, 0x1B50,
   0x1BB0, 0x1C40, 0x1C50, 0xA620, 0xA8D0, 0xA900, 0xA9D0, 0xA9F0, 0xAA50, 0xABF0, 0xFF10, 0x104A0,
   0x10D30, 0x11066, 0x110F0, 0x11136, 0x111D0, 0x112F0, 0x11450, 0x114D0, 0x11650, 0x116C0,
   0x11730, 0x118E0, 0x11950, 0x11C50, 0x11D50, 0x11DA0, 0x11F50, 0x16A60, 0x16AC0, 0x16B50,
   0x1D7CE, 0x1D7D8, 0x1D7E2, 0x1D7EC, 0x1D7F6, 0x1E140, 0x1E2F0, 0x1E4F0, 0x1E950, 0x1FBF0]

/-- The value of a decimal digit of any script. -/
def decimalDigit? (c : Char) : Option Nat :=
  if c.isDigit then some (c.toNat - '0'.toNat)
  else (zerosBeyondAscii.find? fun base => base ≤ c.toNat && c.toNat < base + 10).map (c.toNat - ·)

/-- The characters beyond ASCII that stand for a digit without being decimal digits. -/
def otherDigits : CodeSet := ⟨
  [50, 2, 5, 1, 4783, 9, 1640, 1, 1685, 1, 3, 6, 6, 10, 982, 9, 11, 9, 11, 9, 89, 1, 10, 9, 1, 1,
   630, 9, 1, 9, 1, 9, 58029, 4, 1052, 9, 489, 9, 57509, 11]⟩

/-- Whether `c` stands for a digit, decimal or not. -/
def isDigitSign (c : Char) : Bool := (decimalDigit? c).isSome || otherDigits.contains c

/-- Whether the text consists of characters that stand for digits, and of at least one. -/
def Text.isDigits (t : Text) : Bool := t != [] && t.all isDigitSign

end Numerus
