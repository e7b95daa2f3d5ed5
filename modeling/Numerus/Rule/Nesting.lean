import Numerus.Rule.Truth
import Numerus.Rule.Writer

/-!
Work on conditions within bounded room.

Writing a condition and asking for its truth go down into it by nested calls: one or two for each
condition under another, and a few more at a relation. There is room for so many nested calls as
there is where the work starts. `writeWithin` and `holdsWithin` take that number and refuse a
condition that goes deeper. Unless they refuse it they give the answer without a bound, as
`writeWithin_eq` and `holdsWithin_eq` say; and `writeWithin_of_depth_lt` and
`holdsWithin_of_depth_lt` say how much room is enough for a condition.
-/

namespace Numerus.Condition

/-- The number of conditions above the deepest one. -/
def depth : Condition → Nat
  | relation _ => 0
  | and left right => max left.depth right.depth + 1
  | or left right => max left.depth right.depth + 1
  | literal _ => 0

/-! ### Writing -/

/-- The calls that are nested at most in writing a relation: for the relation, for the list of its
ranges and for a range. -/
def writingSteps : Nat := 3

/-- The condition as rule text, with room for a number of nested calls. Each side of a conjunction
takes two of them, since a disjunction is looked for first. -/
def writeWithin : Nat → Condition → Except Failure Text
  | 0, _ => .error .tooDeep
  | room + 1, relation r => if room < writingSteps then .error .tooDeep else r.write
  | 1, and _ _ => .error .tooDeep
  | room + 2, and left right => do
    if left.isOr then throw (.invalid .unwritableGrouping)
    let left ← writeWithin room left
    if right.isOr then throw (.invalid .unwritableGrouping)
    let right ← writeWithin room right
    return left ++ " and " ++ right
  | room + 1, or left right => do
    let left ← writeWithin room left
    let right ← writeWithin room right
    return left ++ " or " ++ right
  | _ + 1, literal true => .ok []
  | _ + 1, literal false => .error (.invalid .unwritableFalse)

theorem writeWithin_eq (room : Nat) (c : Condition) :
    writeWithin room c = .error .tooDeep ∨ writeWithin room c = c.write := by
  induction c generalizing room with
  | relation r =>
    cases room with
    | zero => exact .inl rfl
    | succ room =>
      by_cases h : room < writingSteps
      · exact .inl (by simp [writeWithin, h])
      · exact .inr (by simp [writeWithin, write, h])
  | and left right ihl ihr =>
    match room with
    | 0 => exact .inl rfl
    | 1 => exact .inl rfl
    | room + 2 =>
      simp only [writeWithin, write]
      cases hl : left.isOr with
      | true => exact .inr rfl
      | false =>
        rcases ihl room with h | h
        · exact .inl (by rw [h]; rfl)
        · rw [h]
          cases left.write with
          | error e => exact .inr rfl
          | ok t =>
            cases hr : right.isOr with
            | true => exact .inr rfl
            | false =>
              rcases ihr room with h | h
              · exact .inl (by rw [h]; rfl)
              · exact .inr (by rw [h])
  | or left right ihl ihr =>
    cases room with
    | zero => exact .inl rfl
    | succ room =>
      simp only [writeWithin, write]
      rcases ihl room with h | h
      · exact .inl (by rw [h]; rfl)
      · rw [h]
        cases left.write with
        | error e => exact .inr rfl
        | ok t =>
          rcases ihr room with h | h
          · exact .inl (by rw [h]; rfl)
          · exact .inr (by rw [h])
  | literal b =>
    cases room with
    | zero => exact .inl rfl
    | succ room => cases b <;> exact .inr rfl

theorem writeWithin_of_depth_lt {room : Nat} {c : Condition}
    (h : 2 * c.depth + writingSteps < room) : writeWithin room c = c.write := by
  induction c generalizing room with
  | relation r =>
    match room with
    | room + 1 =>
      have : ¬ room < writingSteps := by simp only [depth] at h; omega
      simp [writeWithin, write, this]
  | and left right ihl ihr =>
    match room with
    | room + 2 =>
      simp only [depth] at h
      rw [writeWithin, ihl (by omega), ihr (by omega), write]
  | or left right ihl ihr =>
    match room with
    | room + 1 =>
      simp only [depth] at h
      rw [writeWithin, ihl (by omega), ihr (by omega), write]
  | literal b =>
    match room with
    | room + 1 => cases b <;> rfl

/-! ### Truth -/

/-- The calls that are nested at most in asking for the truth of a relation: for the relation, for
membership in its ranges and for a range. -/
def truthSteps : Nat := 3

/-- Whether the condition holds, with room for a number of nested calls. The right side is looked at
only where the left side does not decide. -/
def holdsWithin (o : Operands) : Nat → Condition → Except Failure Bool
  | 0, _ => .error .tooDeep
  | room + 1, relation r => if room < truthSteps then .error .tooDeep else .ok (r.holds o)
  | room + 1, and left right => do
    if ← holdsWithin o room left then holdsWithin o room right else return false
  | room + 1, or left right => do
    if ← holdsWithin o room left then return true else holdsWithin o room right
  | _ + 1, literal value => .ok value

theorem holdsWithin_eq (o : Operands) (room : Nat) (c : Condition) :
    holdsWithin o room c = .error .tooDeep ∨ holdsWithin o room c = .ok (c.holds o) := by
  induction c generalizing room with
  | relation r =>
    cases room with
    | zero => exact .inl rfl
    | succ room =>
      by_cases h : room < truthSteps
      · exact .inl (by simp [holdsWithin, h])
      · exact .inr (by simp [holdsWithin, holds, h])
  | and left right ihl ihr =>
    cases room with
    | zero => exact .inl rfl
    | succ room =>
      simp only [holdsWithin, holds]
      rcases ihl room with h | h
      · exact .inl (by rw [h]; rfl)
      · rw [h]
        rcases ihr room with h' | h' <;> rw [h'] <;> cases left.holds o <;>
          simp [bind, Except.bind, pure, Except.pure]
  | or left right ihl ihr =>
    cases room with
    | zero => exact .inl rfl
    | succ room =>
      simp only [holdsWithin, holds]
      rcases ihl room with h | h
      · exact .inl (by rw [h]; rfl)
      · rw [h]
        rcases ihr room with h' | h' <;> rw [h'] <;> cases left.holds o <;>
          simp [bind, Except.bind, pure, Except.pure]
  | literal b =>
    cases room with
    | zero => exact .inl rfl
    | succ room => exact .inr rfl

theorem holdsWithin_of_depth_lt {room : Nat} {c : Condition} (h : c.depth + truthSteps < room)
    (o : Operands) : holdsWithin o room c = .ok (c.holds o) := by
  induction c generalizing room with
  | relation r =>
    match room with
    | room + 1 =>
      have : ¬ room < truthSteps := by simp only [depth] at h; omega
      simp [holdsWithin, holds, this]
  | and left right ihl ihr =>
    match room with
    | room + 1 =>
      simp only [depth] at h
      rw [holdsWithin, ihl (by omega), ihr (by omega), holds]
      cases left.holds o <;> rfl
  | or left right ihl ihr =>
    match room with
    | room + 1 =>
      simp only [depth] at h
      rw [holdsWithin, ihl (by omega), ihr (by omega), holds]
      cases left.holds o <;> rfl
  | literal b =>
    match room with
    | room + 1 => rfl

end Numerus.Condition
