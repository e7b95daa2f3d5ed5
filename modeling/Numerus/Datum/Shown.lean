import Numerus.Datum.Basic
import Numerus.Machine
import Numerus.Text.Quoted

/-!
Data as messages show them.

Texts and byte strings are quoted, sequences stand in brackets and mappings in braces. A datum
cannot be shown if it holds an integer with more digits than may be written, or is nested more
deeply than calls can be.
-/

namespace Numerus

/-- The decimal number as messages show it. -/
def ExtendedDecimal.shown (d : ExtendedDecimal) : Text := "Decimal(" ++ Text.quoted d.write ++ ")"

namespace Locale

/-- The locale as messages show it. -/
def shown (l : Locale) : Text :=
  "LocaleId(canonical_name=" ++ l.name.quoted ++ ", language=" ++ l.language.quoted ++ ")"

end Locale

namespace Datum

/-- The datum as messages show it, with room for so many data one inside another. -/
def shownWithin : Nat → Datum → Except Failure Text
  | 0, _ => .error .tooDeep
  | room + 1, d =>
    match d with
    | absent => .ok "None"
    | truth value => .ok (if value then "True" else "False")
    | integer value => Numeral.write value
    | binary value => .ok value.write
    | decimal value => .ok value.shown
    | text value => .ok value.quoted
    | brokenText points => .ok (CodePoint.quoted points)
    | bytes value => .ok (quotedBytes value)
    | sequence items => do
      let items ← items.mapM (shownWithin room)
      return '[' :: Text.joined ", " items ++ [']']
    | mapping entries => do
      let entries ← entries.mapM fun entry => do
        let key ← shownWithin room entry.1
        let value ← shownWithin room entry.2
        return key ++ ": " ++ value
      return '\x7b' :: Text.joined ", " entries ++ ['\x7d']
    | locale value => .ok value.shown
    | localeObject value => .ok value.shown

/-- The datum as messages show it. -/
def shown (d : Datum) (machine : Machine := .usual) : Except Failure Text :=
  d.shownWithin machine.room

/-- The datum as text: a text as it is, a number or a locale by its written form, and anything else
as messages show it. -/
def written : Datum → Except Failure Text
  | text value => .ok value
  | brokenText points => .ok (points.map CodePoint.toChar)
  | decimal value => .ok value.write
  | locale value => .ok value.name
  | localeObject value => .ok value.name
  | datum => datum.shown

/-- The code points of the datum as text; halves of pairs in a text stay what they are. -/
def writtenPoints : Datum → Except Failure (List Nat)
  | brokenText points => .ok points
  | datum => do
    let name ← datum.written
    return name.map (·.toNat)

end Datum

end Numerus
