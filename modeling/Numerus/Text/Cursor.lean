import Numerus.Failure.Basic

/-!
A cursor: a position in a text, moved forward only on demand.

A negative position counts from the end of the text, as it does for a single character and for a
part of the text; moving forward from it leads past zero to the end.
-/

namespace Numerus

/-- A text with a position. -/
structure Cursor where
  source : Text
  position : Int
  deriving DecidableEq

namespace Cursor

/-- Whether the position is at the end of the text or after it. -/
def atEnd (c : Cursor) : Bool := c.source.length ≤ c.position

/-- The character at the position. -/
def current (c : Cursor) : Except Failure Char :=
  if c.atEnd then .error (.pastEnd c.position)
  else match c.source.at? c.position with
    | some character => .ok character
    | none => .error .outOfBounds

/-- The cursor moved by `count`, at most to the end. -/
def advance (c : Cursor) (count : Int := 1) : Cursor :=
  { c with position := min (c.position + count) c.source.length }

/-- The text from the position up to, and without, `stop`. -/
def sliceTo (c : Cursor) (stop : Int) : Text := c.source.span c.position stop

/-- The cursor moved over the characters that satisfy `p`. -/
def skipWhile (p : Char → Bool) (c : Cursor) : Except Failure Cursor :=
  if _h : c.atEnd then .ok c
  else do
    let character ← c.current
    if p character then skipWhile p c.advance else return c
termination_by (c.source.length - c.position).toNat
decreasing_by
  simp [atEnd] at _h
  simp only [advance]
  omega

/-- Whether `c` is white space between the tokens of a rule: a space or a tab. -/
def isSpace (c : Char) : Bool := c == ' ' || c == '\t'

/-- The cursor moved over spaces and tabs. -/
def skipSpaces (c : Cursor) : Except Failure Cursor := c.skipWhile isSpace

end Cursor

end Numerus
