import Numerus.Proofs.Reading

/-!
Beginnings of rules.

Lexemes begin a rule if more lexemes make a rule of them. At every stage of reading a rule there is
a way to complete it: a digit for a value, the low end again for a high end, an operand, an operator
and a value for what is missing of a relation. So all lexemes that have been read begin a rule.

* `Stage.Reads.completes` — every stage can be completed to a relation.
* `State.Reads.isBeginning` — what has been read begins a rule.
* `State.Reads.isBeginning_range` — and where a range is wanted, any range may follow.
-/

namespace Numerus.Rule

open Grammar

/-- Whether the lexemes are the first ones of a rule, or all of it. -/
def IsBeginning (ls : List Lexeme) : Prop := ∃ rest c, IsRule (ls ++ rest) c

/-- Whether no rule that begins with the lexemes goes on with the token, or ends there if the token
stands for the end. -/
def CannotFollow (ls : List Lexeme) (t : Token) : Prop :=
  match t.lexeme? with
  | some l => ¬ IsBeginning (ls ++ [l])
  | none => ∀ c, ¬ IsRule ls c

/-! ### Relations completed -/

variable {ls ls' ls'' here : List Lexeme}

/-- Where a range is wanted any range completes the relation. -/
theorem isRelation_of_range {s : Subject} {rs : List Range} {r : Range} (hs : IsSubject ls s)
    (hrs : RangesBefore ls' rs) (hr : IsRange ls'' r) :
    ∃ r, IsRelation (ls ++ (ls' ++ ls'')) r := by
  have hne : rs ++ [r] ≠ [] := by simp
  exact ⟨⟨s, rs ++ [r], hne⟩, .list hs (hrs.append hr)⟩

/-- An expression lacks an operator and a value. -/
theorem Grammar.IsExpression.completes {operand : Operand} {modulus : Option Modulus}
    (h : IsExpression ls operand modulus) : ∃ rest r, IsRelation (ls ++ rest) r := by
  obtain ⟨r, hr⟩ := isRelation_of_range (IsSubject.mk h .equal) .none (.single ['0'])
  refine ⟨[.symbol ['='], .number ['0']], r, ?_⟩
  simpa using hr

/-- Every stage can be completed to a relation. The cases are the stages. -/
theorem Stage.Reads.completes {stage : Stage} (h : stage.Reads here) :
    ∃ rest r, IsRelation (here ++ rest) r := by
  cases h with
  | operand =>
    obtain ⟨rest, r, hr⟩ := (IsExpression.plain .n).completes
    exact ⟨_, r, hr⟩
  | subject x => exact (IsExpression.plain x).completes
  | modulus x hsign =>
    have hpos : 0 < Numeral.value ['1'] := by decide
    obtain ⟨rest, r, hr⟩ := (IsExpression.reduced x ['1'] hsign hpos).completes
    exact ⟨.number ['1'] :: rest, r, hr⟩
  | operator he => exact he.completes
  | value he =>
    have hr := IsRelation.is ['0'] he
    exact ⟨[.number ['0']], _, by simpa using hr⟩
  | otherValue he =>
    have hr := IsRelation.isNot ['0'] he
    exact ⟨[.number ['0']], _, by simpa using hr⟩
  | keyword he =>
    obtain ⟨r, hr⟩ := isRelation_of_range (IsSubject.mk he .notIn) .none (.single ['0'])
    refine ⟨[.word "in", .number ['0']], r, ?_⟩
    simpa using hr
  | range hs hrs =>
    obtain ⟨r, hr⟩ := isRelation_of_range hs hrs (.single ['0'])
    refine ⟨[.number ['0']], r, ?_⟩
    simpa using hr
  | low digits start hs hrs =>
    obtain ⟨r, hr⟩ := isRelation_of_range hs hrs (.single digits)
    refine ⟨[], r, ?_⟩
    simpa using hr
  | high digits start stop hs hrs =>
    -- The low end itself is not too low for a high end.
    obtain ⟨r, hr⟩ := isRelation_of_range hs hrs (.bounds digits digits (Nat.le_refl _))
    refine ⟨[.number digits], r, ?_⟩
    simpa using hr
  | listed hs hrs => exact ⟨[], _, by simpa using IsRelation.list hs hrs⟩
  | complete hr => exact ⟨[], _, by simpa using hr⟩

/-! ### Rules completed -/

namespace State

variable {s : State}

/-- A relation after what has been read before it makes a rule. -/
theorem isRule_of_isRelation {alternatives conjuncts : List Lexeme} {r : Relation}
    (halt : ReadBefore (.word "or") IsDisjunction alternatives s.alternatives)
    (hconj : ReadBefore (.word "and") IsConjunction conjuncts s.conjuncts)
    (hr : IsRelation here r) :
    IsRule (alternatives ++ (conjuncts ++ here)) (s.conditionWith r) :=
  .condition (isDisjunction_joinedBy halt (isConjunction_joinedBy hconj hr))

/-- What has been read begins a rule. -/
theorem Reads.isBeginning (h : s.Reads ls) : IsBeginning ls := by
  obtain ⟨alternatives, conjuncts, here, halt, hconj, hstage, rfl⟩ := h
  obtain ⟨rest, r, hr⟩ := hstage.completes
  refine ⟨rest, s.conditionWith r, ?_⟩
  simpa using isRule_of_isRelation halt hconj hr

/-- Where a range is wanted any range may follow. -/
theorem Reads.isBeginning_range {x : Subject} {ranges : List Range} {r : Range} (h : s.Reads ls)
    (hstage : s.stage = .range x ranges) (hr : IsRange ls' r) : IsBeginning (ls ++ ls') := by
  obtain ⟨alternatives, conjuncts, here, halt, hconj, hreads, rfl⟩ := h
  rw [hstage] at hreads
  cases hreads with
  | range hs hrs =>
    obtain ⟨r', hr'⟩ := isRelation_of_range hs hrs hr
    refine ⟨[], s.conditionWith r', ?_⟩
    simpa using isRule_of_isRelation halt hconj hr'

end State

end Numerus.Rule
