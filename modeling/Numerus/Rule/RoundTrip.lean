import Numerus.Rule.Compile
import Numerus.Rule.Nesting

/-!
Rule texts compiled, written again and compiled again.
-/

namespace Numerus.Rule

/-- What becomes of a rule text: its condition, that condition as rule text, and whether this text
has the same condition again. -/
structure RoundTrip where
  condition : Condition
  text : Text
  agrees : Bool

/-- Compiles a rule text, writes its condition with room for a number of nested calls, and compiles
what was written. -/
def roundTrip (room : Nat) (t : Text) : Except Failure RoundTrip := do
  let condition ← compile t
  let text ← condition.writeWithin room
  let again ← compile text
  return { condition, text, agrees := condition = again }

end Numerus.Rule
