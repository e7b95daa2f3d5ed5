import Numerus.Numeral.Basic

/-!
JSON objects of texts, numbers and nulls, on one line.

Members are separated by a comma and a space, a key and its value by a colon and a space. Inside
strings only the quotation mark, the backslash and the control characters below U+0020 are
escaped.
-/

namespace Numerus.Json

/-- The written form of one character inside a string. -/
def escape (c : Char) : Text :=
  if c = '"' ∨ c = '\\' then ['\\', c]
  else if c = '\n' then ['\\', 'n']
  else if c = '\r' then ['\\', 'r']
  else if c = '\t' then ['\\', 't']
  else if c = '\x0c' then ['\\', 'f']
  else if c = '\x08' then ['\\', 'b']
  else if c.toNat < 0x20 then "\\u" ++ Numeral.hexadecimal 4 c.toNat
  else [c]

/-- The string literal of `t`. -/
def quote (t : Text) : Text := '"' :: t.flatMap escape ++ ['"']

/-- A member's value. -/
inductive Scalar where
  | null
  | text (t : Text)
  | number (n : Nat)
  deriving DecidableEq

/-- The JSON text of a value. -/
def Scalar.write : Scalar → Text
  | .null => "null"
  | .text t => quote t
  | .number n => Numeral.ofNat n

/-- The JSON text of one member. -/
def writeMember (key : Text) (value : Scalar) : Text := quote key ++ ": " ++ value.write

/-- The JSON text of an object with the given members, in their order. -/
def writeObject (members : List (Text × Scalar)) : Text :=
  '\x7b' :: Text.joined ", " (members.map fun m => writeMember m.1 m.2) ++ ['\x7d']

end Numerus.Json
