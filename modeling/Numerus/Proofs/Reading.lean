import Numerus.Proofs.Grammar
import Numerus.Proofs.Steps

/-!
What has been read at each stage.

A stage and the two accumulators of a state describe the lexemes that led to them:
`State.Reads s ls` says which. It holds at the start, every step keeps it, and the step that
ends gives a derivation, so a run that ends with a condition has read a rule with that condition.

* `State.Reads.step` — what one step preserves.
* `State.Reads.run` — what a whole run has read.
-/

namespace Numerus.Rule

open Grammar

/-- The lexemes before the mark that promises one more phrase, if there are any: `c` is the
condition of the phrases before it. -/
def ReadBefore (mark : Lexeme) (P : List Lexeme → Condition → Prop) (ls : List Lexeme) :
    Option Condition → Prop
  | none => ls = []
  | some c => ∃ ls', P ls' c ∧ ls = ls' ++ [mark]

/-- The lexemes of a list of ranges up to the place where a range is wanted. -/
inductive RangesBefore : List Lexeme → List Range → Prop where
  | none : RangesBefore [] []
  | some {ls : List Lexeme} {rs : List Range} :
      IsRangeList ls rs → RangesBefore (ls ++ [.symbol [',']]) rs

/-- `Stage.Reads stage ls`: the lexemes `ls` of the relation at hand lead to the stage. -/
inductive Stage.Reads : Stage → List Lexeme → Prop where
  | operand : Reads .operand []
  | subject (x : Operand) : Reads (.subject { operand := x }) [.word x.symbol]
  | modulus (x : Operand) {sign : Lexeme} (hsign : sign = .symbol ['%'] ∨ sign = .word "mod") :
      Reads (.modulus { operand := x }) [.word x.symbol, sign]
  | operator {ls : List Lexeme} {operand : Operand} {modulus : Option Modulus} :
      IsExpression ls operand modulus → Reads (.operator { operand, modulus }) ls
  | value {ls : List Lexeme} {operand : Operand} {modulus : Option Modulus} :
      IsExpression ls operand modulus →
      Reads (.value { operand, modulus }) (ls ++ [.word "is"])
  | otherValue {ls : List Lexeme} {operand : Operand} {modulus : Option Modulus} :
      IsExpression ls operand modulus →
      Reads (.otherValue { operand, modulus, negated := true })
        (ls ++ [.word "is", .word "not"])
  | keyword {ls : List Lexeme} {operand : Operand} {modulus : Option Modulus} :
      IsExpression ls operand modulus →
      Reads (.keyword { operand, modulus, negated := true }) (ls ++ [.word "not"])
  | range {ls ls' : List Lexeme} {s : Subject} {rs : List Range} :
      IsSubject ls s → RangesBefore ls' rs → Reads (.range s rs) (ls ++ ls')
  | low {ls ls' : List Lexeme} {s : Subject} {rs : List Range} (digits : Text) (start : Nat) :
      IsSubject ls s → RangesBefore ls' rs →
      Reads (.low s rs start (Numeral.value digits)) (ls ++ (ls' ++ [.number digits]))
  | high {ls ls' : List Lexeme} {s : Subject} {rs : List Range} (digits : Text)
      (start stop : Nat) : IsSubject ls s → RangesBefore ls' rs →
      Reads (.high s rs start (Numeral.value digits) stop)
        (ls ++ (ls' ++ [.number digits, .symbol ['.', '.']]))
  | listed {ls ls' : List Lexeme} {r : Relation} :
      IsSubject ls r.toSubject → IsRangeList ls' r.ranges → Reads (.listed r) (ls ++ ls')
  | complete {ls : List Lexeme} {r : Relation} : IsRelation ls r → Reads (.complete r) ls

/-- `State.Reads s ls`: the lexemes `ls` lead to the state. -/
def State.Reads (s : State) (ls : List Lexeme) : Prop :=
  ∃ alternatives conjuncts here,
    ReadBefore (.word "or") IsDisjunction alternatives s.alternatives ∧
    ReadBefore (.word "and") IsConjunction conjuncts s.conjuncts ∧
    s.stage.Reads here ∧ ls = alternatives ++ (conjuncts ++ here)

/-- What a token after the lexemes `ls` has to be for an outcome: another lexeme where reading
goes on, and the end of a rule where it ends. -/
def Outcome.Follows (ls : List Lexeme) (t : Token) : Outcome → Prop
  | .next s => ∃ l, t.lexeme? = some l ∧ s.Reads (ls ++ [l])
  | .done c => t.lexeme? = none ∧ IsDisjunction ls c

/-! ### Phrases put together -/

theorem RangesBefore.append {ls ls' : List Lexeme} {rs : List Range} {r : Range}
    (h : RangesBefore ls rs) (hr : IsRange ls' r) : IsRangeList (ls ++ ls') (rs ++ [r]) := by
  cases h with
  | none => exact .one hr
  | some hrs => simpa using IsRangeList.more hrs hr

theorem isConjunction_joinedBy {ls ls' : List Lexeme} {before : Option Condition} {r : Relation}
    (h : ReadBefore (.word "and") IsConjunction ls before) (hr : IsRelation ls' r) :
    IsConjunction (ls ++ ls') (joinedBy .and before (.relation r)) := by
  cases before with
  | none =>
    obtain rfl : ls = [] := h
    exact .one hr
  | some c =>
    obtain ⟨ls₀, hc, rfl⟩ := h
    simpa [joinedBy] using IsConjunction.and hc hr

theorem isDisjunction_joinedBy {ls ls' : List Lexeme} {before : Option Condition}
    {c : Condition} (h : ReadBefore (.word "or") IsDisjunction ls before)
    (hc : IsConjunction ls' c) : IsDisjunction (ls ++ ls') (joinedBy .or before c) := by
  cases before with
  | none =>
    obtain rfl : ls = [] := h
    exact .one hc
  | some d =>
    obtain ⟨ls₀, hd, rfl⟩ := h
    simpa [joinedBy] using IsDisjunction.or hd hc

/-! ### Operators -/

/-- The first range is wanted right after the operator. -/
theorem Stage.Reads.firstRange {ls : List Lexeme} {s : Subject} (h : IsSubject ls s) :
    Stage.Reads (.range s []) ls := by
  simpa using Stage.Reads.range h .none

/-- An operator after an expression. -/
theorem reads_of_readOperator {source : Text} {t : Token} {ls : List Lexeme}
    {operand : Operand} {modulus : Option Modulus} {stage : Stage}
    (he : IsExpression ls operand modulus)
    (hread : readOperator source { operand, modulus } t = .ok stage) :
    ∃ l, t.lexeme? = some l ∧ stage.Reads (ls ++ [l]) := by
  rcases readOperator_eq_ok_iff.1 hread with
    ⟨hl | hl, rfl⟩ | ⟨hl, rfl⟩ | ⟨hl, rfl⟩ | ⟨hl, rfl⟩ | ⟨hl, rfl⟩
  · exact ⟨_, hl, .firstRange ⟨he, .equal⟩⟩
  · exact ⟨_, hl, .firstRange ⟨he, .isIn⟩⟩
  · exact ⟨_, hl, .firstRange ⟨he, .unequal⟩⟩
  · exact ⟨_, hl, .firstRange ⟨he, .within⟩⟩
  · exact ⟨_, hl, .value he⟩
  · exact ⟨_, hl, .keyword he⟩

namespace State

variable {source : Text} {t : Token} {state : State} {outcome : Outcome}
  {alternatives conjuncts here : List Lexeme}

/-- A step that stays in the relation at hand. -/
theorem Reads.follows_stage {stage : Stage} {l : Lexeme}
    (halt : ReadBefore (.word "or") IsDisjunction alternatives state.alternatives)
    (hconj : ReadBefore (.word "and") IsConjunction conjuncts state.conjuncts)
    (hl : t.lexeme? = some l) (hstage : stage.Reads (here ++ [l])) :
    Outcome.Follows (alternatives ++ (conjuncts ++ here)) t (.next { state with stage }) :=
  ⟨l, hl, alternatives, conjuncts, here ++ [l], halt, hconj, hstage, by simp⟩

/-- A step from the end of the relation `r`. -/
theorem Reads.follows_connect {r : Relation}
    (halt : ReadBefore (.word "or") IsDisjunction alternatives state.alternatives)
    (hconj : ReadBefore (.word "and") IsConjunction conjuncts state.conjuncts)
    (hr : IsRelation here r) (hstep : state.connect source r t = .ok outcome) :
    outcome.Follows (alternatives ++ (conjuncts ++ here)) t := by
  have hconjunction : IsConjunction (conjuncts ++ here) (state.conjunctionWith r) :=
    isConjunction_joinedBy hconj hr
  have hdisjunction : IsDisjunction (alternatives ++ (conjuncts ++ here)) (state.conditionWith r) :=
    isDisjunction_joinedBy halt hconjunction
  rcases connect_eq_ok_iff.1 hstep with ⟨hl, rfl⟩ | ⟨hl, rfl⟩ | ⟨hl, rfl⟩
  · exact ⟨_, hl, alternatives, conjuncts ++ here ++ [.word "and"], [], halt,
      ⟨_, hconjunction, rfl⟩, .operand, by simp⟩
  · exact ⟨_, hl, _, [], [], ⟨_, hdisjunction, rfl⟩, rfl, .operand, by simp⟩
  · exact ⟨hl, hdisjunction⟩

/-- A step from the end of a range of the relation `r`. -/
theorem Reads.follows_connectOrList {r : Relation} {ls ls' : List Lexeme}
    (halt : ReadBefore (.word "or") IsDisjunction alternatives state.alternatives)
    (hconj : ReadBefore (.word "and") IsConjunction conjuncts state.conjuncts)
    (hs : IsSubject ls r.toSubject) (hrs : IsRangeList ls' r.ranges)
    (hstep : state.connectOrList source r t = .ok outcome) :
    outcome.Follows (alternatives ++ (conjuncts ++ (ls ++ ls'))) t := by
  rcases connectOrList_eq_ok_iff.1 hstep with ⟨hl, rfl⟩ | hstep
  · exact follows_stage halt hconj hl (by simpa using Stage.Reads.range hs (.some hrs))
  · exact follows_connect halt hconj (.list hs hrs) hstep

/-- What one step preserves. The cases are the stages. -/
theorem Reads.step {ls : List Lexeme} {next : Option Token} (h : state.Reads ls)
    (hstep : state.step source t next = .ok outcome) : outcome.Follows ls t := by
  obtain ⟨alternatives, conjuncts, here, halt, hconj, hstage, rfl⟩ := h
  have stays {result : Except Failure Stage} (hproceed : state.proceed result = .ok outcome)
      (hreads : ∀ stage, result = .ok stage →
        ∃ l, t.lexeme? = some l ∧ stage.Reads (here ++ [l])) :
      outcome.Follows (alternatives ++ (conjuncts ++ here)) t := by
    obtain ⟨stage, hresult, rfl⟩ := proceed_eq_ok_iff.1 hproceed
    obtain ⟨l, hl, hnew⟩ := hreads stage hresult
    exact follows_stage halt hconj hl hnew
  unfold State.step at hstep
  generalize state.stage = stage at hstep hstage
  cases hstage with
  | operand =>
    apply stays hstep
    intro stage hread
    obtain ⟨x, hl, rfl⟩ := readOperand_eq_ok_iff.1 hread
    exact ⟨_, hl, .subject x⟩
  | subject x =>
    apply stays hstep
    intro stage hread
    rcases readSubject_eq_ok_iff.1 hread with ⟨hl | hl, rfl⟩ | hread
    · exact ⟨_, hl, .modulus x (.inl rfl)⟩
    · exact ⟨_, hl, .modulus x (.inr rfl)⟩
    · exact reads_of_readOperator (.plain x) hread
  | modulus x hsign =>
    apply stays hstep
    intro stage hread
    obtain ⟨digits, hpos, hl, -, rfl⟩ := readModulus_eq_ok_iff.1 hread
    exact ⟨_, hl, .operator (.reduced x digits hsign hpos)⟩
  | operator he => exact stays hstep fun stage hread => reads_of_readOperator he hread
  | value he =>
    apply stays hstep
    intro stage hread
    rcases readIs_eq_ok_iff.1 hread with ⟨hl, rfl⟩ | hread
    · exact ⟨_, hl, by simpa using Stage.Reads.otherValue he⟩
    · obtain ⟨digits, hl, -, rfl⟩ := readOtherValue_eq_ok_iff.1 hread
      exact ⟨_, hl, .complete (by simpa using IsRelation.is digits he)⟩
  | otherValue he =>
    apply stays hstep
    intro stage hread
    obtain ⟨digits, hl, -, rfl⟩ := readOtherValue_eq_ok_iff.1 hread
    exact ⟨_, hl, .complete (by simpa using IsRelation.isNot digits he)⟩
  | keyword he =>
    apply stays hstep
    intro stage hread
    rcases readKeyword_eq_ok_iff.1 hread with ⟨hl, rfl⟩ | ⟨hl, rfl⟩
    · exact ⟨_, hl, .firstRange (by simpa using IsSubject.mk he .notIn)⟩
    · exact ⟨_, hl, .firstRange (by simpa using IsSubject.mk he .notWithin)⟩
  | range hs hrs =>
    apply stays hstep
    intro stage hread
    obtain ⟨digits, hl, -, rfl⟩ := readLow_eq_ok_iff.1 hread
    exact ⟨_, hl, by simpa using Stage.Reads.low digits t.position hs hrs⟩
  | low digits start hs hrs =>
    rcases connectOrDots_eq_ok_iff.1 hstep with ⟨hl, rfl⟩ | hstep
    · refine follows_stage halt hconj hl ?_
      simpa using Stage.Reads.high digits start t.stop hs hrs
    · exact follows_connectOrList halt hconj hs (hrs.append (.single digits)) hstep
  | high digits start stop hs hrs =>
    apply stays hstep
    intro stage hread
    obtain ⟨high, hle, hl, -, rfl⟩ := readHigh_eq_ok_iff.1 hread
    refine ⟨_, hl, ?_⟩
    simpa using Stage.Reads.listed hs (hrs.append (.bounds digits high hle))
  | listed hs hrs => exact follows_connectOrList halt hconj hs hrs hstep
  | complete hr => exact follows_connect halt hconj hr hstep

/-- What a whole run has read: if it ends with a condition, a derivation of that condition. -/
theorem Reads.run {ls ls' : List Lexeme} {ts : List Token} {c : Condition} (h : state.Reads ls)
    (hts : Token.StandFor ts ls') (hrun : State.run source state ts = .ok c) :
    IsDisjunction (ls ++ ls') c := by
  induction hts generalizing state ls with
  | @stop t hstop =>
    rw [State.run, bind_eq_ok_iff] at hrun
    obtain ⟨outcome, hstep, hrest⟩ := hrun
    have hfollows := h.step hstep
    cases outcome with
    | next s =>
      obtain ⟨l, hl, -⟩ := hfollows
      simp [hl] at hstop
    | done d =>
      obtain rfl : d = c := pure_eq_ok_iff.1 hrest
      simpa using hfollows.2
  | cons hl _ ih =>
    rw [State.run, bind_eq_ok_iff] at hrun
    obtain ⟨outcome, hstep, hrest⟩ := hrun
    have hfollows := h.step hstep
    cases outcome with
    | next s =>
      obtain ⟨l', hl', hs⟩ := hfollows
      obtain rfl : l' = _ := Option.some.inj (hl'.symm.trans hl)
      simpa using ih hs hrest
    | done d =>
      have hnone := hfollows.1
      simp [hl] at hnone

/-- Nothing has been read at the start. -/
theorem reads_start : State.Reads {} [] :=
  ⟨[], [], [], rfl, rfl, .operand, rfl⟩

end State

end Numerus.Rule
