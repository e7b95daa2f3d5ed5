import Numerus.Proofs.Written
import Numerus.Rule.Truth

/-!
Conditions nested to the left.

The grammar builds conjunctions and disjunctions from the left, whatever the nesting of the
condition was that a text is written for. `Condition.reassociated` nests a condition that way. It
keeps the alternatives of the condition, each with its relations in their order, and so it keeps
the text and the truth of the condition.

* `Condition.IsGrouped.reassociated` — the result is nested to the left.
* `Condition.alternatives_reassociated`, `Condition.text_reassociated`,
  `Condition.holds_reassociated` — what reassociation keeps.
* `Condition.IsLeftNested.reassociated_eq` — what is nested to the left stays as it is.
-/

namespace Numerus.Condition

/-- The conjunction of a condition and the conjuncts of another, taken one after the other. -/
def andThen (c : Condition) : Condition → Condition
  | and left right => (c.andThen left).andThen right
  | d => and c d

/-- The condition with its conjunctions nested to the left, down to the first that is none. -/
def conjoined : Condition → Condition
  | and left right => left.conjoined.andThen right
  | c => c

/-- The disjunction of a condition and the alternatives of another, taken one after the other. -/
def orThen (c : Condition) : Condition → Condition
  | or left right => (c.orThen left).orThen right
  | d => or c d.conjoined

/-- The condition with its disjunctions and conjunctions nested to the left. -/
def reassociated : Condition → Condition
  | or left right => left.reassociated.orThen right
  | c => c.conjoined

/-- Conjunctions of relations that are nested to the left. -/
inductive IsLeftConjunction : Condition → Prop where
  | relation (r : Relation) : IsLeftConjunction (relation r)
  | and {c : Condition} (r : Relation) :
      IsLeftConjunction c → IsLeftConjunction (and c (.relation r))

/-- Disjunctions that are nested to the left, of conjunctions that are. -/
inductive IsLeftNested : Condition → Prop where
  | conjunction {c : Condition} : IsLeftConjunction c → IsLeftNested c
  | or {c d : Condition} : IsLeftNested c → IsLeftConjunction d → IsLeftNested (or c d)

/-- The relations of a conjunction in their order. -/
def conjuncts : Condition → List Relation
  | relation r => [r]
  | and left right => left.conjuncts ++ right.conjuncts
  | _ => []

/-- The conjunctions of a disjunction in their order, each as its relations. -/
def alternatives : Condition → List (List Relation)
  | or left right => left.alternatives ++ right.alternatives
  | c => [c.conjuncts]

variable {c d : Condition}

/-! ### Conjunctions -/

theorem IsLeftConjunction.isConjunctive (h : c.IsLeftConjunction) : c.IsConjunctive := by
  induction h with
  | relation => trivial
  | and _ _ ih => exact ⟨ih, trivial⟩

theorem IsLeftConjunction.andThen (hc : c.IsLeftConjunction) (hd : d.IsConjunctive) :
    (c.andThen d).IsLeftConjunction := by
  induction d generalizing c with
  | relation r => exact .and r hc
  | and left right ihl ihr => exact ihr (ihl hc hd.1) hd.2
  | or => exact hd.elim
  | literal => exact hd.elim

theorem IsConjunctive.conjoined (h : c.IsConjunctive) : c.conjoined.IsLeftConjunction := by
  induction c with
  | relation r => exact .relation r
  | and left right ihl => exact (ihl h.1).andThen h.2
  | or => exact h.elim
  | literal => exact h.elim

theorem IsLeftConjunction.conjoined_eq (h : c.IsLeftConjunction) : c.conjoined = c := by
  induction h with
  | relation => rfl
  | and r _ ih => exact congrArg (Condition.and · (.relation r)) ih

theorem conjuncts_andThen (hd : d.IsConjunctive) :
    (c.andThen d).conjuncts = c.conjuncts ++ d.conjuncts := by
  induction d generalizing c with
  | relation => rfl
  | and left right ihl ihr =>
    rw [andThen, ihr hd.2, ihl hd.1, conjuncts, List.append_assoc]
  | or => exact hd.elim
  | literal => exact hd.elim

theorem conjuncts_conjoined (h : c.IsConjunctive) : c.conjoined.conjuncts = c.conjuncts := by
  induction c with
  | relation => rfl
  | and left right ihl => rw [conjoined, conjuncts_andThen h.2, ihl h.1, conjuncts]
  | or => exact h.elim
  | literal => exact h.elim

theorem text_andThen (c d : Condition) : (c.andThen d).text = c.text ++ " and " ++ d.text := by
  induction d generalizing c with
  | and left right ihl ihr => simp only [andThen, ihr, ihl, text, List.append_assoc]
  | _ => rfl

theorem text_conjoined (c : Condition) : c.conjoined.text = c.text := by
  induction c with
  | and left right ihl => rw [conjoined, text_andThen, ihl, text]
  | _ => rfl

theorem holds_andThen (o : Operands) (c d : Condition) :
    (c.andThen d).holds o = (c.holds o && d.holds o) := by
  induction d generalizing c with
  | and left right ihl ihr => rw [andThen, ihr, ihl, holds, Bool.and_assoc]
  | _ => rfl

theorem holds_conjoined (o : Operands) (c : Condition) : c.conjoined.holds o = c.holds o := by
  induction c with
  | and left right ihl => rw [conjoined, holds_andThen, ihl, holds]
  | _ => rfl

/-! ### Disjunctions -/

theorem IsLeftNested.isGrouped (h : c.IsLeftNested) : c.IsGrouped := by
  induction h with
  | conjunction hc => exact hc.isConjunctive.isGrouped
  | or _ hd ih => exact ⟨ih, hd.isConjunctive.isGrouped⟩

theorem IsLeftNested.orThen (hc : c.IsLeftNested) (hd : d.IsGrouped) :
    (c.orThen d).IsLeftNested := by
  induction d generalizing c with
  | relation r => exact .or hc (.relation r)
  | and left right => exact .or hc (IsConjunctive.conjoined (c := and left right) hd)
  | or left right ihl ihr => exact ihr (ihl hc hd.1) hd.2
  | literal => exact hd.elim

theorem IsGrouped.reassociated (h : c.IsGrouped) : c.reassociated.IsLeftNested := by
  induction c with
  | relation r => exact .conjunction (.relation r)
  | and left right => exact .conjunction (IsConjunctive.conjoined (c := and left right) h)
  | or left right ihl => exact (ihl h.1).orThen h.2
  | literal => exact h.elim

theorem IsLeftConjunction.reassociated_eq (h : c.IsLeftConjunction) : c.reassociated = c := by
  have := h.conjoined_eq
  cases h with
  | relation => rfl
  | and => exact this

theorem IsLeftConjunction.orThen_eq (c : Condition) (hd : d.IsLeftConjunction) :
    c.orThen d = or c d := by
  have := hd.conjoined_eq
  cases hd with
  | relation => rfl
  | and => exact congrArg (or c) this

theorem IsLeftNested.reassociated_eq (h : c.IsLeftNested) : c.reassociated = c := by
  induction h with
  | conjunction hc => exact hc.reassociated_eq
  | or _ hd ih =>
    rw [reassociated, ih, hd.orThen_eq]

/-- A conjunction is an alternative by itself. -/
theorem IsLeftConjunction.alternatives_eq (h : c.IsLeftConjunction) :
    c.alternatives = [c.conjuncts] := by
  cases h <;> rfl

theorem IsConjunctive.alternatives_conjoined (h : c.IsConjunctive) :
    c.conjoined.alternatives = [c.conjuncts] := by
  rw [h.conjoined.alternatives_eq, conjuncts_conjoined h]

theorem alternatives_orThen (hd : d.IsGrouped) :
    (c.orThen d).alternatives = c.alternatives ++ d.alternatives := by
  induction d generalizing c with
  | relation => rfl
  | and left right =>
    have hconjunctive : (and left right).IsConjunctive := hd
    have halternatives := hconjunctive.alternatives_conjoined
    exact congrArg (c.alternatives ++ ·) halternatives
  | or left right ihl ihr => rw [orThen, ihr hd.2, ihl hd.1, alternatives, List.append_assoc]
  | literal => exact hd.elim

theorem alternatives_reassociated (h : c.IsGrouped) :
    c.reassociated.alternatives = c.alternatives := by
  induction c with
  | relation => rfl
  | and left right =>
    have hconjunctive : (and left right).IsConjunctive := h
    exact hconjunctive.alternatives_conjoined
  | or left right ihl => rw [reassociated, alternatives_orThen h.2, ihl h.1, alternatives]
  | literal => exact h.elim

theorem text_orThen (c d : Condition) : (c.orThen d).text = c.text ++ " or " ++ d.text := by
  induction d generalizing c with
  | or left right ihl ihr => simp only [orThen, ihr, ihl, text, List.append_assoc]
  | _ => exact congrArg (c.text ++ " or " ++ ·) (text_conjoined _)

theorem text_reassociated (c : Condition) : c.reassociated.text = c.text := by
  induction c with
  | or left right ihl => rw [reassociated, text_orThen, ihl, text]
  | _ => exact text_conjoined _

theorem holds_orThen (o : Operands) (c d : Condition) :
    (c.orThen d).holds o = (c.holds o || d.holds o) := by
  induction d generalizing c with
  | or left right ihl ihr => rw [orThen, ihr, ihl, holds, Bool.or_assoc]
  | _ => exact congrArg (c.holds o || ·) (holds_conjoined o _)

theorem holds_reassociated (o : Operands) (c : Condition) :
    c.reassociated.holds o = c.holds o := by
  induction c with
  | or left right ihl => rw [reassociated, holds_orThen, ihl, holds]
  | _ => exact holds_conjoined o _

end Numerus.Condition
