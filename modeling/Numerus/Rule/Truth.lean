import Numerus.Rule.Condition

/-!
The truth of a condition for given operands.

Of all operands only `n` can have a fraction. It is taken as its whole part and the fact that it
has a fraction, and so all tests are tests of whole numbers.
-/

namespace Numerus

namespace Operands

/-- The whole part of an operand. -/
def whole (o : Operands) : Operand → Int
  | .n | .i => o.i
  | .v => o.v
  | .w => o.w
  | .f => o.f
  | .t => o.t
  | .c | .e => o.e

/-- Whether an operand has a fraction. -/
def hasFraction (o : Operands) : Operand → Bool
  | .n => o.f != 0
  | _ => false

end Operands

namespace Range

/-- Whether the whole number `n` lies in the range. -/
def contains (r : Range) (n : Int) : Bool := r.low ≤ n && n ≤ r.high

/-- Whether the numbers between `n` and `n + 1` lie in the range. -/
def containsAfter (r : Range) (n : Int) : Bool := r.low ≤ n && n < r.high

end Range

namespace Relation

/-- Whether a number with the given whole part, with or without a fraction, is a member of the
ranges. -/
def isMember (r : Relation) (whole : Int) (fractional : Bool) : Bool :=
  if fractional then r.within && r.ranges.any (·.containsAfter whole)
  else r.ranges.any (·.contains whole)

/-- The whole part of the operand asked for, reduced by the modulus; the result is not negative
then. -/
def reduced (r : Relation) (o : Operands) : Int :=
  match r.modulus with
  | some m => o.whole r.operand % m.val
  | none => o.whole r.operand

/-- Whether the relation holds. -/
def holds (r : Relation) (o : Operands) : Bool :=
  r.isMember (r.reduced o) (o.hasFraction r.operand) != r.negated

end Relation

/-- Whether the condition holds. -/
def Condition.holds (o : Operands) : Condition → Bool
  | .relation r => r.holds o
  | .and left right => left.holds o && right.holds o
  | .or left right => left.holds o || right.holds o
  | .literal value => value

end Numerus
