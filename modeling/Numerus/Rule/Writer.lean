import Numerus.Rule.Condition

/-!
Conditions written as rule texts.

The grammar has no grouping, so a disjunction under a conjunction cannot be written, and it has
no text for the condition that never holds. The condition that always holds is the empty text.
-/

namespace Numerus

/-- The range as rule text: one number, or two with two points between them. -/
def Range.write (r : Range) : Except Failure Text :=
  if r.isSingle then Numeral.write r.low
  else do
    let low ← Numeral.write r.low
    let high ← Numeral.write r.high
    return low ++ ".." ++ high

namespace Subject

/-- The operand and its modulus as rule text. -/
def expression (s : Subject) : Except Failure Text :=
  match s.modulus with
  | some m => do
    let m ← Numeral.write m.val
    return s.operand.symbol ++ " % " ++ m
  | none => .ok s.operand.symbol

/-- The operator as rule text. -/
def operator (s : Subject) : Text :=
  match s.within, s.negated with
  | true, true => "not within"
  | true, false => "within"
  | false, true => "!="
  | false, false => "="

end Subject

/-- The relation as rule text. -/
def Relation.write (r : Relation) : Except Failure Text := do
  let expression ← r.expression
  let ranges ← r.ranges.mapM Range.write
  return expression ++ ' ' :: r.operator ++ ' ' :: Text.joined "," ranges

namespace Condition

/-- Whether the condition is a disjunction. -/
def isOr : Condition → Bool
  | or .. => true
  | _ => false

/-- The condition as rule text. -/
def write : Condition → Except Failure Text
  | relation r => r.write
  | and left right => do
    if left.isOr then throw (.invalid .unwritableGrouping)
    let left ← left.write
    if right.isOr then throw (.invalid .unwritableGrouping)
    let right ← right.write
    return left ++ " and " ++ right
  | or left right => do
    let left ← left.write
    let right ← right.write
    return left ++ " or " ++ right
  | literal true => .ok []
  | literal false => .error (.invalid .unwritableFalse)

end Condition

end Numerus
