import Numerus.Category
import Numerus.Rule.Nesting

/-!
The rules of one locale: categories with their conditions, in the order in which they are tried.
-/

namespace Numerus

/-- The rules of one locale. -/
structure RuleSet where
  localeName : Text
  rules : List (Category × Condition)
  deriving DecidableEq

namespace RuleSet

/-- The categories of the locale, in order. -/
def categories (s : RuleSet) : List Category := s.rules.map (·.1)

/-- The category of a number: the first one whose condition holds. -/
def select (s : RuleSet) (o : Operands) : Category :=
  ((s.rules.find? (·.2.holds o)).map (·.1)).getD .other

/-- The category of a number, with room for a number of nested calls. The conditions of rules of any
origin may be nested too deeply for it; those of a catalog come from rule texts, and the length of
these bounds their depth. -/
def selectWithin (room : Nat) (s : RuleSet) (o : Operands) : Except Failure Category :=
  go s.rules
where
  go : List (Category × Condition) → Except Failure Category
    | [] => .ok .other
    | rule :: rules => do
      if ← rule.2.holdsWithin o room then return rule.1 else go rules

/-- Little room changes no answer: the category is the same, unless a condition is nested too deeply
for it. -/
theorem selectWithin_eq (room : Nat) (s : RuleSet) (o : Operands) :
    s.selectWithin room o = .error .tooDeep ∨ s.selectWithin room o = .ok (s.select o) := by
  simp only [selectWithin, select]
  induction s.rules with
  | nil => exact .inr rfl
  | cons rule rules ih =>
    rw [selectWithin.go]
    rcases Condition.holdsWithin_eq o room rule.2 with h | h
    · exact .inl (by rw [h]; rfl)
    · rw [h]
      cases hr : rule.2.holds o with
      | true => exact .inr (by simp [hr, bind, Except.bind, pure, Except.pure])
      | false => simpa [hr, bind, Except.bind] using ih

/-- The categories with their places, by which message catalogs number plural forms. -/
def numbered (s : RuleSet) : List (Category × Nat) := s.categories.zipIdx

/-- The categories with their conditions as rule texts, written with room for a number of nested
calls. -/
def write (room : Nat) (s : RuleSet) : Except Failure (List (Category × Text)) :=
  s.rules.mapM fun rule => do
    let text ← rule.2.writeWithin room
    return (rule.1, text)

end RuleSet

end Numerus
