import Numerus.Proofs.Acceptance
import Numerus.Rule.Nesting

/-!
Compiled conditions are not nested deeply.

Each relation of a rule text takes three characters and each "or" before one takes two, so the
limit on the length of rule texts is a limit on the nesting of their conditions, and on the room
that is needed to tell their truth.

* `Rule.compile_depth_lt` — the limit on the nesting of compiled conditions.
* `Condition.Tells` — that the truth of a condition is told with room for conditions of rule texts.
* `Rule.tells_of_compile` — the truth of a compiled condition is.
-/

namespace Numerus

namespace Rule

open Grammar

variable {ls : List Lexeme} {c : Condition} {t : Text}

/-- Lexemes have at least one character each. -/
theorem length_le_size (hne : ∀ l ∈ ls, l.text ≠ []) : ls.length ≤ Lexeme.size ls := by
  induction ls with
  | nil => exact Nat.le_refl _
  | cons l ls ih =>
    have hl := List.length_pos_iff.2 (hne l List.mem_cons_self)
    have := ih fun l' hl' => hne l' (List.mem_cons_of_mem _ hl')
    rw [List.length_cons, Lexeme.size_cons]
    omega

theorem Grammar.IsSubject.two_le_length {s : Subject} (h : IsSubject ls s) : 2 ≤ ls.length := by
  obtain ⟨he, ho⟩ := h
  have hexpression := List.length_pos_iff.2 he.ne_nil
  have hoperator := List.length_pos_iff.2 ho.ne_nil
  rw [List.length_append]
  omega

/-- A relation has an operand, an operator and a value. -/
theorem Grammar.IsRelation.three_le_length {r : Relation} (h : IsRelation ls r) :
    3 ≤ ls.length := by
  cases h with
  | list hs hrs =>
    have hsubject := hs.two_le_length
    have hranges := List.length_pos_iff.2 hrs.ne_nil
    rw [List.length_append]
    omega
  | is _ he =>
    have := List.length_pos_iff.2 he.ne_nil
    rw [List.length_append]
    exact Nat.add_le_add_right this 2
  | isNot _ he =>
    have := List.length_pos_iff.2 he.ne_nil
    rw [List.length_append]
    exact Nat.le_trans (Nat.add_le_add_right this 2) (Nat.le_succ _)

theorem Grammar.IsRelation.three_le_size {r : Relation} (h : IsRelation ls r)
    (hne : ∀ l ∈ ls, l.text ≠ []) : 3 ≤ Lexeme.size ls :=
  Nat.le_trans h.three_le_length (length_le_size hne)

theorem Grammar.IsConjunction.depth_le_size (h : IsConjunction ls c)
    (hne : ∀ l ∈ ls, l.text ≠ []) : 5 * c.depth + 3 ≤ Lexeme.size ls := by
  induction h with
  | one hr => exact hr.three_le_size hne
  | and _ hr ih =>
    have hleft := ih fun l hl => hne l (by simp [hl])
    have hright := hr.three_le_size fun l hl => hne l (by simp [hl])
    have hword : (Lexeme.word "and").text.length = 3 := rfl
    simp only [Condition.depth, Lexeme.size_append, Lexeme.size_cons, hword]
    omega

theorem Grammar.IsDisjunction.depth_le_size (h : IsDisjunction ls c)
    (hne : ∀ l ∈ ls, l.text ≠ []) : 5 * c.depth + 3 ≤ Lexeme.size ls := by
  induction h with
  | one hc => exact hc.depth_le_size hne
  | or _ hd ih =>
    have hleft := ih fun l hl => hne l (by simp [hl])
    have hright := hd.depth_le_size fun l hl => hne l (by simp [hl])
    have hword : (Lexeme.word "or").text.length = 2 := rfl
    simp only [Condition.depth, Lexeme.size_append, Lexeme.size_cons, hword]
    omega

/-- A text that compiles has admitted length. -/
theorem length_le_of_compile (h : compile t = .ok c) : t.length ≤ lengthLimit := by
  apply Nat.le_of_not_lt
  intro hlong
  rw [compile, if_pos hlong] at h
  exact Complaint.raise_ne_ok _ _ _ h

/-- Compiled conditions have less than this number of others above their deepest one: a connective
and the relation after it take five characters at least. -/
def depthLimit : Nat := lengthLimit / 5

theorem compile_depth_lt (h : compile t = .ok c) : c.depth < depthLimit := by
  have hlength := length_le_of_compile h
  obtain ⟨ls, hls⟩ := Lexes.exists (t.before '@')
  have hrule := (compile_eq_ok_iff hlength hls).1 h
  have hbefore : (t.before '@').length ≤ t.length := (List.takeWhile_sublist _).length_le
  have hlimit : lengthLimit = 4096 := rfl
  have hdepth : depthLimit = 819 := rfl
  cases hrule with
  | blank => decide
  | condition hc =>
    have := hc.depth_le_size hls.text_ne_nil
    have := hls.size_le
    omega

end Rule

namespace Condition

/-- Whether the truth of the condition is told as `b` wherever there is room for conditions as deep
as those of rule texts. -/
def Tells (c : Condition) (o : Operands) (b : Bool) : Prop :=
  ∀ room, Rule.depthLimit + truthSteps ≤ room → c.holdsWithin o room = .ok b

/-- A condition that is not deeper tells its truth. -/
theorem tells_of_depth_lt {c : Condition} (h : c.depth < Rule.depthLimit) (o : Operands) :
    c.Tells o (c.holds o) :=
  fun _ hroom => holdsWithin_of_depth_lt (by omega) o

end Condition

/-- The truth of a compiled condition is told. -/
theorem Rule.tells_of_compile {t : Text} {c : Condition} (h : compile t = .ok c) (o : Operands) :
    c.Tells o (c.holds o) :=
  Condition.tells_of_depth_lt (compile_depth_lt h) o

end Numerus
