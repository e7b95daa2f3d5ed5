import Numerus.Proofs.Answer
import Numerus.Proofs.Lexeme
import Numerus.Rule.Stage

/-!
What a token leads to.

For each reading function of `Rule/Stage` one equivalence says which lexemes it takes and where
they lead. Together they say everything that a step can do short of refusing its token, so that
proofs about whole rules open none of these functions.
-/

namespace Numerus.Rule

variable {source : Text} {s : Subject} {stage : Stage} {t : Token} {next : Option Token}

section Refusals

variable {α : Type} {a : α}

@[simp] theorem refuse_ne_ok {c : Complaint} : refuse source t c ≠ .ok a :=
  c.raise_ne_ok _ a

@[simp] theorem refuseFor_ne_ok {expected : Text} : refuseFor expected source t ≠ .ok a :=
  refuse_ne_ok

@[simp] theorem refuseOperator_ne_ok : refuseOperator source t ≠ .ok a :=
  refuse_ne_ok

theorem refuseRange_ne_ok {start stop : Nat} : refuseRange source start stop ≠ .ok a := by
  unfold refuseRange
  exact Complaint.raise_ne_ok _ _ a

end Refusals

/-! ### Values and operands -/

theorem readValue_eq_ok_iff {n : Nat} :
    readValue source t = .ok n ↔
      ∃ digits, t.lexeme? = some (.number digits) ∧ digits.length ≤ Fault.digitLimit ∧
        n = Numeral.value digits := by
  unfold readValue
  by_cases h : t.kind = .number
  · simp [h, Numeral.read_eq_ok_iff, Token.lexeme?_eq_number_iff]
  · simp [h, Token.lexeme?_eq_number_iff]

theorem readOperand_eq_ok_iff :
    readOperand source t = .ok stage ↔
      ∃ x : Operand, t.lexeme? = some (.word x.symbol) ∧ stage = .subject { operand := x } := by
  unfold readOperand
  by_cases h : t.kind = .word
  · simp only [h, if_true, Token.lexeme?_eq_word_iff, true_and]
    cases hx : Operand.ofSymbol? t.text with
    | some x =>
      have := Operand.symbol_of_ofSymbol? hx
      constructor
      · intro heq
        exact ⟨x, this.symm, (Except.ok.inj heq).symm⟩
      · rintro ⟨y, hy, rfl⟩
        rw [hy, Operand.ofSymbol?_symbol] at hx
        rw [Option.some.inj hx]
    | none =>
      simp only [refuse_ne_ok, false_iff, not_exists, not_and]
      intro x hsymbol
      rw [hsymbol, Operand.ofSymbol?_symbol] at hx
      simp at hx
  · simp [h, Token.lexeme?_eq_word_iff]

theorem readModulus_eq_ok_iff :
    readModulus source s t = .ok stage ↔
      ∃ digits, ∃ hpos : 0 < Numeral.value digits, t.lexeme? = some (.number digits) ∧
        digits.length ≤ Fault.digitLimit ∧
        stage = .operator { s with modulus := some ⟨Numeral.value digits, hpos⟩ } := by
  simp only [readModulus, bind_eq_ok_iff, readValue_eq_ok_iff]
  constructor
  · rintro ⟨_, ⟨digits, hl, hshort, rfl⟩, heq⟩
    split at heq
    · next hpos => exact ⟨digits, hpos, hl, hshort, (Except.ok.inj heq).symm⟩
    · simp at heq
  · rintro ⟨digits, hpos, hl, hshort, rfl⟩
    exact ⟨_, ⟨digits, hl, hshort, rfl⟩, by simp [hpos, pure, Except.pure]⟩

theorem readOtherValue_eq_ok_iff :
    readOtherValue source s t = .ok stage ↔
      ∃ digits, t.lexeme? = some (.number digits) ∧ digits.length ≤ Fault.digitLimit ∧
        stage = .complete { s with ranges := [.single (Numeral.value digits)] } := by
  simp only [readOtherValue, bind_eq_ok_iff, readValue_eq_ok_iff, pure_eq_ok_iff]
  constructor
  · rintro ⟨_, ⟨digits, hl, hshort, rfl⟩, rfl⟩
    exact ⟨digits, hl, hshort, rfl⟩
  · rintro ⟨digits, hl, hshort, rfl⟩
    exact ⟨_, ⟨digits, hl, hshort, rfl⟩, rfl⟩

/-! ### Operators -/

theorem readOperator_eq_ok_iff :
    readOperator source s t = .ok stage ↔
      (t.lexeme? = some (.symbol ['=']) ∨ t.lexeme? = some (.word "in")) ∧
          stage = .range s [] ∨
        t.lexeme? = some (.symbol ['!', '=']) ∧ stage = .range { s with negated := true } [] ∨
        t.lexeme? = some (.word "within") ∧ stage = .range { s with within := true } [] ∨
        t.lexeme? = some (.word "is") ∧ stage = .value s ∨
        t.lexeme? = some (.word "not") ∧ stage = .keyword { s with negated := true } := by
  cases t with
  | mk kind text position =>
    cases kind with
    | word =>
      have is_word (w : Text) :
          Token.lexeme? ⟨.word, text, position⟩ = some (.word w) ↔ text = w := by
        simp [Token.lexeme?]
      have no_symbol (w : Text) :
          Token.lexeme? ⟨.word, text, position⟩ ≠ some (.symbol w) := by
        simp [Token.lexeme?]
      simp only [readOperator, is_word, no_symbol, false_or, false_and]
      generalize hrest : refuseOperator source _ = rest
      have refused : rest ≠ .ok stage := hrest ▸ refuseOperator_ne_ok
      rw [ite_ok_eq_ok_iff, ite_ok_eq_ok_iff, ite_ok_eq_ok_iff, ite_ok_eq_ok_iff,
        or_iff_left refused]
      · grind
      all_goals
        intro h
        simpa [h] using refused
    | symbol =>
      have is_symbol (w : Text) :
          Token.lexeme? ⟨.symbol, text, position⟩ = some (.symbol w) ↔ text = w := by
        simp [Token.lexeme?]
      have no_word (w : Text) :
          Token.lexeme? ⟨.symbol, text, position⟩ ≠ some (.word w) := by
        simp [Token.lexeme?]
      simp only [readOperator, is_symbol, no_word, or_false, false_and]
      generalize hrest : (if text ∈ foreignOperators then _ else _) = rest
      have refused : rest ≠ .ok stage := by
        rw [← hrest]
        split
        · exact refuseOperator_ne_ok
        · exact refuseFor_ne_ok
      rw [ite_ok_eq_ok_iff, ite_ok_eq_ok_iff, or_iff_left refused]
      · exact fun _ => refused
      · intro h
        simpa [h] using refused
    | number => simp [readOperator, Token.lexeme?]
    | stop => simp [readOperator, Token.lexeme?]

theorem readSubject_eq_ok_iff :
    readSubject source s t = .ok stage ↔
      (t.lexeme? = some (.symbol ['%']) ∨ t.lexeme? = some (.word "mod")) ∧
          stage = .modulus s ∨
        readOperator source s t = .ok stage := by
  unfold readSubject
  rw [ite_ok_eq_ok_iff, Bool.or_eq_true, Token.isSymbol_iff, Token.isWord_iff]
  intro hsign
  rw [Bool.or_eq_true, Token.isSymbol_iff, Token.isWord_iff] at hsign
  rw [Ne, readOperator_eq_ok_iff]
  rcases hsign with h | h <;> simp [h]

theorem readKeyword_eq_ok_iff :
    readKeyword source s t = .ok stage ↔
      t.lexeme? = some (.word "in") ∧ stage = .range s [] ∨
        t.lexeme? = some (.word "within") ∧ stage = .range { s with within := true } [] := by
  unfold readKeyword
  simp only [Token.isWord_iff]
  rw [ite_ok_eq_ok_iff, ite_ok_eq_ok_iff, or_iff_left refuseFor_ne_ok]
  · simp
  · intro h
    simp [h]

theorem readIs_eq_ok_iff :
    readIs source s t = .ok stage ↔
      t.lexeme? = some (.word "not") ∧ stage = .otherValue { s with negated := true } ∨
        readOtherValue source s t = .ok stage := by
  unfold readIs
  simp only [Token.isWord_iff]
  rw [ite_ok_eq_ok_iff]
  intro h
  simp [readOtherValue_eq_ok_iff, h]

/-! ### Ranges -/

variable {ranges : List Range} {start low stop : Nat}

theorem readLow_eq_ok_iff :
    readLow source s ranges t next = .ok stage ↔
      ∃ digits, t.lexeme? = some (.number digits) ∧ digits.length ≤ Fault.digitLimit ∧
        stage = .low s ranges t.position (Numeral.value digits) := by
  unfold readLow
  simp only [Token.isSymbol_iff]
  split
  · next h => simp [h, refuseRange_ne_ok]
  · simp only [bind_eq_ok_iff, readValue_eq_ok_iff, pure_eq_ok_iff]
    constructor
    · rintro ⟨_, ⟨digits, hl, hshort, rfl⟩, rfl⟩
      exact ⟨digits, hl, hshort, rfl⟩
    · rintro ⟨digits, hl, hshort, rfl⟩
      exact ⟨_, ⟨digits, hl, hshort, rfl⟩, rfl⟩

theorem readHigh_eq_ok_iff :
    readHigh source s ranges start low stop t next = .ok stage ↔
      ∃ digits, ∃ hle : low ≤ Numeral.value digits, t.lexeme? = some (.number digits) ∧
        digits.length ≤ Fault.digitLimit ∧
        stage = .listed { s with ranges := ranges ++ [⟨low, Numeral.value digits, hle⟩] } := by
  unfold readHigh
  split
  · next hkind =>
    simp only [bind_eq_ok_iff, Numeral.read_eq_ok_iff, Token.lexeme?_eq_number_iff]
    constructor
    · rintro ⟨_, ⟨hshort, rfl⟩, heq⟩
      split at heq
      · next hle => exact ⟨t.text, hle, ⟨hkind, rfl⟩, hshort, (Except.ok.inj heq).symm⟩
      · exact absurd heq refuseRange_ne_ok
    · rintro ⟨_, hle, ⟨-, rfl⟩, hshort, rfl⟩
      exact ⟨_, ⟨hshort, rfl⟩, by simp [hle, pure, Except.pure]⟩
  · next hkind => simp [Token.lexeme?_eq_number_iff, hkind, refuseRange_ne_ok]

/-! ### Connectives -/

namespace State

variable {state : State} {r : Relation} {outcome : Outcome}

/-- The conjunction at hand with the relation that closes it. -/
def conjunctionWith (state : State) (r : Relation) : Condition :=
  joinedBy .and state.conjuncts (.relation r)

/-- The condition read so far with the relation that closes it. -/
def conditionWith (state : State) (r : Relation) : Condition :=
  joinedBy .or state.alternatives (state.conjunctionWith r)

theorem connect_eq_ok_iff :
    state.connect source r t = .ok outcome ↔
      t.lexeme? = some (.word "and") ∧
          outcome = .next ⟨state.alternatives, some (state.conjunctionWith r), .operand⟩ ∨
        t.lexeme? = some (.word "or") ∧
          outcome = .next ⟨some (state.conditionWith r), none, .operand⟩ ∨
        t.lexeme? = none ∧ outcome = .done (state.conditionWith r) := by
  unfold connect conditionWith conjunctionWith
  simp only [Token.isWord_iff, ← Token.lexeme?_eq_none_iff]
  rw [ite_ok_eq_ok_iff, ite_ok_eq_ok_iff, ite_ok_eq_ok_iff, or_iff_left refuseFor_ne_ok]
  · simp
  · intro h
    simp [h]
  · intro h
    simp [h]

theorem connectOrList_eq_ok_iff :
    state.connectOrList source r t = .ok outcome ↔
      t.lexeme? = some (.symbol [',']) ∧
          outcome = .next { state with stage := .range r.toSubject r.ranges } ∨
        state.connect source r t = .ok outcome := by
  unfold connectOrList
  simp only [Token.isSymbol_iff]
  rw [ite_ok_eq_ok_iff]
  intro h
  simp [connect_eq_ok_iff, h]

theorem connectOrDots_eq_ok_iff :
    state.connectOrDots source s ranges start low t = .ok outcome ↔
      t.lexeme? = some (.symbol ['.', '.']) ∧
          outcome = .next { state with stage := .high s ranges start low t.stop } ∨
        state.connectOrList source { s with ranges := ranges ++ [.single low] } t
          = .ok outcome := by
  unfold connectOrDots
  simp only [Token.isSymbol_iff]
  rw [ite_ok_eq_ok_iff]
  intro h
  simp [connectOrList_eq_ok_iff, connect_eq_ok_iff, h]

theorem proceed_eq_ok_iff {result : Except Failure Stage} :
    state.proceed result = .ok outcome ↔
      ∃ stage, result = .ok stage ∧ outcome = .next { state with stage } := by
  simp only [proceed, bind_eq_ok_iff, pure_eq_ok_iff, eq_comm (a := outcome)]

end State

end Numerus.Rule
