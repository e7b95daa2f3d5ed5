import Numerus.Text.CodePoint
import Numerus.Text.Printable
import Numerus.Numeral.Basic

/-!
Quoted texts and byte strings, as messages show them.

A text stands between apostrophes, or between quotation marks if it holds an apostrophe and no
quotation mark. The mark in use and the backslash stand behind a backslash; a character that is
not printable is written by its code point in hexadecimal, and so is a half of a pair.
-/

namespace Numerus

namespace Text

/-- The mark put around `t`. -/
def quotationMark (t : Text) : Char :=
  if t.contains '\'' && !t.contains '"' then '"' else '\''

/-- The written form of a code point by its number, in the shortest of the three widths. -/
def numbered (n : Nat) : Text :=
  if n ≤ 0xFF then "\\x" ++ Numeral.hexadecimal 2 n
  else if n ≤ 0xFFFF then "\\u" ++ Numeral.hexadecimal 4 n
  else "\\U" ++ Numeral.hexadecimal 8 n

/-- The written form of one character inside quotation marks `mark`; characters that fail `plain`
and have no letter of their own are written by their number. -/
def escaped (plain : Char → Bool) (mark c : Char) : Text :=
  if c = mark ∨ c = '\\' then ['\\', c]
  else if c = '\n' then ['\\', 'n']
  else if c = '\r' then ['\\', 'r']
  else if c = '\t' then ['\\', 't']
  else if plain c then [c]
  else numbered c.toNat

/-- The text between marks. -/
def quotedWith (plain : Char → Bool) (t : Text) : Text :=
  let mark := t.quotationMark
  mark :: t.flatMap (escaped plain mark) ++ [mark]

/-- The text as messages show it. -/
def quoted (t : Text) : Text := t.quotedWith isPrintable

end Text

/-- The written form of one code point inside quotation marks `mark`. -/
def CodePoint.escaped (mark : Char) (n : Nat) : Text :=
  if isHalf n then Text.numbered n else Text.escaped isPrintable mark (toChar n)

/-- A sequence of code points as messages show it. -/
def CodePoint.quoted (points : List Nat) : Text :=
  let mark := Text.quotationMark (points.map toChar)
  mark :: points.flatMap (escaped mark) ++ [mark]

/-- A byte string as messages show it: bytes outside printable ASCII by their number. -/
def quotedBytes (bytes : List UInt8) : Text :=
  'b' :: Text.quotedWith (fun c => 0x20 ≤ c.toNat && c.toNat < 0x7F)
    (bytes.map fun byte => Char.ofNat byte.toNat)

end Numerus
