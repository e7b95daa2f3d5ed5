import Numerus.Proofs.Steps
import Numerus.Rule.Descent

/-!
Reading by descent is reading by stages.

A stage is what a reader of phrases has yet to do, and so each reader does what a run does from the
stage at which its phrase is wanted: where the reader fails the run fails alike, and where the
reader ends the run goes on, in a state that holds what has been read. The readers look up tokens
by their indices and build their results by functions that check them, and the run does neither;
that they agree says that all look-ups and checks succeed.

* `more_bind_eq` — a loop of the descent, turn by turn.
* `run_range`, `run_listed`, `run_relation`, `run_conjunction` — a run reads one phrase.
* `rule_eq_ofTokens` — the two readings agree on tokens that end with one for the end.
-/

namespace Numerus

/-- A relation is accepted from its own parts. -/
theorem Relation.of_eq_ok (s : Subject) {rs : List Range} (hne : rs ≠ []) :
    Relation.of s.operand.symbol (s.modulus.map fun m => (m.val : Int)) s.negated s.within rs =
      .ok { s with ranges := rs, ranges_ne_nil := hne } := by
  have hoperand : operandOf s.operand.symbol = .ok s.operand := by
    rw [operandOf, Operand.ofSymbol?_symbol]
  have hmodulus : (s.modulus.map fun m => (m.val : Int)).mapM modulusOf = .ok s.modulus := by
    cases s.modulus with
    | none => rfl
    | some m =>
      obtain ⟨m, hpos⟩ := m
      simp [modulusOf, hpos, Functor.map, Except.map]
  rw [Relation.of, hoperand, hmodulus]
  simp [hne, bind, Except.bind, pure, Except.pure]

namespace Rule

section Refusals

variable {α β : Type} {source : Text} {t : Token} {f : α → Except Failure β}

/-- Nothing follows a complaint. -/
theorem raise_bind (c : Complaint) (kind : Notice → Failure) :
    (c.raise kind >>= f) = c.raise kind := by
  unfold Complaint.raise
  cases c.diagnostic <;> rfl

@[simp] theorem refuse_bind {c : Complaint} : (refuse source t c >>= f) = refuse source t c :=
  raise_bind c _

@[simp] theorem refuseFor_bind {expected : Text} :
    (refuseFor expected source t >>= f) = refuseFor expected source t := by
  unfold refuseFor
  exact refuse_bind

@[simp] theorem refuseOperator_bind : (refuseOperator source t >>= f) = refuseOperator source t := by
  unfold refuseOperator
  exact refuse_bind

@[simp] theorem refuseRange_bind {start stop : Nat} :
    (refuseRange source start stop >>= f) = refuseRange source start stop := by
  unfold refuseRange
  exact raise_bind _ _

end Refusals

namespace Descent

variable {α β γ : Type} {source : Text} {ts : List Token} {i : Nat} {t : Token} {s : State}

@[simp] theorem ok_bind {a : α} {f : α → Except Failure β} : (Except.ok a >>= f) = f a := rfl

theorem tokenAt_eq_ok_iff : tokenAt ts i = .ok t ↔ ts[i]? = some t := by
  unfold tokenAt
  cases ts[i]? <;> simp

/-! ### Loops -/

section Loops

variable {separates : Token → Bool} {item : (i : Nat) → Except Failure (Part α i)}
  {join : β → α → β} {start : Nat} {first : Part β start}

/-- One turn of a loop. -/
theorem more_eq : more ts separates item join first = (do
    let t ← tokenAt ts first.next
    if separates t then
      let a ← item (first.next + 1)
      more ts separates item join ⟨join first.value a.value, a.next,
        Nat.lt_trans first.start_lt_next (Nat.lt_of_succ_lt a.start_lt_next)⟩
    else .ok first) := by
  rw [more]
  by_cases h : first.next < ts.length
  · rw [dif_pos h, tokenAt, List.getElem?_eq_getElem h]
    rfl
  · rw [dif_neg h, tokenAt, List.getElem?_eq_none (Nat.not_lt.1 h)]
    rfl

/-- What reads an item after each separator, and finishes where there is none, does what the loop
does and finishes. `P` is what is known of the items put together. -/
theorem more_bind_eq (after finish : β → Nat → Except Failure γ) (P : β → Prop)
    (hjoin : ∀ b a, P (join b a))
    (hturn : ∀ b i, P b → after b i = (do
      let t ← tokenAt ts i
      if separates t then
        let a ← item (i + 1)
        after (join b a.value) a.next
      else finish b i))
    (hfirst : P first.value) : after first.value first.next = (do
      let p ← more ts separates item join first
      finish p.value p.next) := by
  -- every turn leaves less of the tokens
  induction hn : ts.length - first.next using Nat.strongRecOn generalizing first with
  | ind n ih =>
    rw [hturn _ _ hfirst, more_eq]
    cases ht : tokenAt ts first.next with
    | error e => rfl
    | ok t =>
      have hlt := (List.getElem?_eq_some_iff.1 (tokenAt_eq_ok_iff.1 ht)).1
      simp only [ok_bind]
      by_cases hseparates : separates t = true
      · simp only [hseparates, if_true, bind_assoc]
        refine bind_congr fun a => ?_
        have hlater := a.start_lt_next
        let joined : Part β start := ⟨join first.value a.value, a.next,
          Nat.lt_trans first.start_lt_next (Nat.lt_of_succ_lt a.start_lt_next)⟩
        exact @ih (ts.length - a.next) (by omega) joined (hjoin _ _) rfl
      · simp only [hseparates, Bool.false_eq_true, if_false, ok_bind]

end Loops

/-! ### Runs by index -/

/-- What an outcome leads to with the tokens from index `i` on. -/
def resume (source : Text) (ts : List Token) (i : Nat) : Outcome → Except Failure Condition
  | .next s => s.run source (ts.drop i)
  | .done c => .ok c

/-- A run takes the token at its index. -/
theorem run_drop : s.run source (ts.drop i) = (do
    let t ← tokenAt ts i
    let outcome ← s.step source t ts[i + 1]?
    resume source ts (i + 1) outcome) := by
  unfold tokenAt
  cases h : ts[i]? with
  | none =>
    rw [List.drop_eq_nil_of_le (List.getElem?_eq_none_iff.1 h)]
    rfl
  | some t =>
    obtain ⟨hlt, rfl⟩ := List.getElem?_eq_some_iff.1 h
    rw [List.drop_eq_getElem_cons hlt, State.run, List.head?_drop]
    exact bind_congr fun outcome => by cases outcome <;> rfl

/-- After a range: a comma and another range, or what follows the relation `r`. -/
def afterRange (source : Text) (ts : List Token) (s : State) (r : Relation) (i : Nat) :
    Except Failure Condition := do
  let t ← tokenAt ts i
  let outcome ← s.connectOrList source r t
  resume source ts (i + 1) outcome

/-- After the relation `r`: a connective, or the end. -/
def afterRelation (source : Text) (ts : List Token) (s : State) (r : Relation) (i : Nat) :
    Except Failure Condition := do
  let t ← tokenAt ts i
  let outcome ← s.connect source r t
  resume source ts (i + 1) outcome

/-- After a disjunction that no "or" goes on: the end. -/
def afterDisjunction (source : Text) (ts : List Token) (c : Condition) (i : Nat) :
    Except Failure Condition := do
  let t ← tokenAt ts i
  if t.kind = .stop then return c
  else refuseFor "'and', 'or' or end of rule" source t

/-- After a conjunction that no "and" goes on: an "or", or the end. -/
def afterConjunction (source : Text) (ts : List Token) (alternatives : Option Condition)
    (c : Condition) (i : Nat) : Except Failure Condition := do
  let t ← tokenAt ts i
  let d := joinedBy .or alternatives c
  if t.isWord "or" then State.run source { alternatives := some d } (ts.drop (i + 1))
  else afterDisjunction source ts d i

/-! ### Ranges -/

/-- Whether every token but one for the end has another token after it. -/
def Continues (ts : List Token) : Prop :=
  ∀ i t, ts[i]? = some t → t.kind ≠ .stop → ∃ next, ts[i + 1]? = some next

/-- After a token that is not the end, the end of a range is told without leaving the tokens. -/
theorem rangeEndAt_succ (hts : Continues ts) (ht : tokenAt ts i = .ok t) (hkind : t.kind ≠ .stop) :
    rangeEndAt ts (i + 1) = .ok (rangeEnd t ts[i + 1]?) := by
  obtain ⟨next, hnext⟩ := hts i t (tokenAt_eq_ok_iff.1 ht) hkind
  rw [rangeEndAt, tokenAt_eq_ok_iff.2 hnext, ok_bind, hnext, tokenBefore, ht, rangeEnd]
  split <;> rfl

/-- After the dots of a range a run reads the high end. -/
theorem run_highEnd (hts : Continues ts) {x : Subject} {rs : List Range} {start low : Nat}
    {dots : Token} (hdots : tokenAt ts i = .ok dots) (hsymbol : dots.isSymbol ['.', '.'] = true) :
    State.run source { s with stage := .high x rs start low dots.stop } (ts.drop (i + 1)) = (do
      let r ← highEnd source ts start low (i + 1)
      afterRange source ts s { x with ranges := rs ++ [r.value] } r.next) := by
  rw [run_drop, highEnd]
  cases ht : tokenAt ts (i + 1) with
  | error e => rfl
  | ok t =>
    by_cases hkind : t.kind = .number
    · have hnotStop : t.kind ≠ .stop := by simp [hkind]
      simp only [ok_bind, State.step, State.proceed, readHigh, value, ht, readValue, hkind, if_true]
      cases Numeral.read t.text with
      | error e => rfl
      | ok high =>
        simp only [ok_bind, pure_bind]
        by_cases hle : low ≤ high
        · simp only [hle, Nat.not_lt.2 hle, dite_true, if_false, Range.of_eq_ok hle, ok_bind,
            pure_bind, resume]
          exact run_drop
        · simp only [hle, Nat.not_le.1 hle, dite_false, if_true, refuseRange_bind, ok_bind,
            rangeEndAt_succ hts ht hnotStop]
    · have hstop : dots.stop = dots.position + 2 := by
        simp only [Token.isSymbol, Bool.and_eq_true, beq_iff_eq] at hsymbol
        simp [Token.stop, hsymbol.2]
      simp only [ok_bind, State.step, State.proceed, readHigh, hkind, if_false, tokenBefore, hdots,
        refuseRange_bind, hstop]

/-- Where a range is wanted a run reads a range. -/
theorem run_range (hts : Continues ts) {x : Subject} {rs : List Range} :
    State.run source { s with stage := .range x rs } (ts.drop i) = (do
      let r ← range source ts i
      afterRange source ts s { x with ranges := rs ++ [r.value] } r.next) := by
  rw [run_drop, range]
  cases ht : tokenAt ts i with
  | error e => rfl
  | ok t =>
    by_cases hdots : t.isSymbol ['.', '.'] = true
    · have hkind : t.kind ≠ .stop := by
        rw [Ne, ← Token.lexeme?_eq_none_iff, Token.isSymbol_iff.1 hdots]
        simp
      simp only [ok_bind, State.step, State.proceed, readLow, hdots, if_true, refuseRange_bind,
        rangeEndAt_succ hts ht hkind]
    · simp only [ok_bind, State.step, State.proceed, readLow, hdots, Bool.false_eq_true, if_false,
        value, ht]
      cases readValue source t with
      | error e => rfl
      | ok low =>
        simp only [ok_bind, pure_bind, resume]
        rw [run_drop]
        cases ht' : tokenAt ts (i + 1) with
        | error e => rfl
        | ok u =>
          simp only [ok_bind, State.step, State.connectOrDots]
          by_cases hdots' : u.isSymbol ['.', '.'] = true
          · simp only [hdots', if_true, ok_bind, pure_bind, bind_assoc, resume]
            exact run_highEnd hts ht' hdots'
          · simp only [hdots', Bool.false_eq_true, if_false, ok_bind, pure_bind,
              Range.of_eq_ok (Nat.le_refl low), afterRange, ht']
            rfl

/-! ### Relations -/

/-- The operand and the modulus as they are read. -/
def partsOf (x : Subject) : Text × Option Int :=
  (x.operand.symbol, x.modulus.map fun m => (m.val : Int))

/-- After a range a run reads more ranges, and a relation with all of them. -/
theorem afterRange_eq (hts : Continues ts) (x : Subject) {r : Range} {start : Nat}
    (hlt : start < i) : afterRange source ts s { x with ranges := [r] } i = (do
      let rs ← more ts (·.isSymbol [',']) (range source ts) (fun rs r => rs ++ [r]) ⟨[r], i, hlt⟩
      let r ← Relation.of (partsOf x).1 (partsOf x).2 x.negated x.within rs.value
      afterRelation source ts s r rs.next) := by
  let built (rs : List Range) := Relation.of (partsOf x).1 (partsOf x).2 x.negated x.within rs
  have hbuilt (rs : List Range) (hne : rs ≠ []) :
      built rs = .ok { x with ranges := rs, ranges_ne_nil := hne } := Relation.of_eq_ok x hne
  let after (rs : List Range) (i : Nat) := built rs >>= fun r => afterRange source ts s r i
  have hafter : afterRange source ts s { x with ranges := [r] } i = after [r] i := by
    simp only [after, hbuilt _ (List.cons_ne_nil _ _), ok_bind]
  rw [hafter]
  -- one range is known to be there, so that the relation can be built
  refine @more_bind_eq _ _ _ ts (·.isSymbol [',']) _ (fun rs r => rs ++ [r]) _ ⟨[r], i, hlt⟩ after
    (fun rs i => built rs >>= fun r => afterRelation source ts s r i) (· ≠ []) (by simp) ?_ (by simp)
  intro rs i hne
  simp only [after, hbuilt rs hne, ok_bind]
  rw [afterRange]
  cases ht : tokenAt ts i with
  | error e => rfl
  | ok t =>
    simp only [ok_bind, State.connectOrList]
    by_cases hcomma : t.isSymbol [','] = true
    · simp only [hcomma, if_true, ok_bind, resume]
      refine (run_range hts).trans (bind_congr fun r => ?_)
      simp only [hbuilt (rs ++ [r.value]) (by simp), ok_bind]
    · simp only [hcomma, Bool.false_eq_true, if_false, afterRelation, ht, ok_bind]

/-- After an operator with ranges a run reads these, and a relation with them. -/
theorem run_listed (hts : Continues ts) (x : Subject) :
    State.run source { s with stage := .range x [] } (ts.drop i) = (do
      let r ← listed source ts (partsOf x) x.negated x.within i
      afterRelation source ts s r.value r.next) := by
  rw [run_range hts, listed, ranges]
  simp only [bind_assoc, pure_bind]
  exact bind_congr fun first => afterRange_eq hts x first.start_lt_next

/-- Where one value is wanted a run reads it, and a relation with it. -/
theorem resume_otherValue (x : Subject) (hwithin : x.within = false) : (do
      let t ← tokenAt ts i
      let outcome ← s.proceed (readOtherValue source x t)
      resume source ts (i + 1) outcome) = (do
      let r ← single source ts (partsOf x) x.negated i
      afterRelation source ts s r.value r.next) := by
  rw [single, value]
  cases tokenAt ts i with
  | error e => rfl
  | ok t =>
    simp only [ok_bind, State.proceed, readOtherValue]
    cases readValue source t with
    | error e => rfl
    | ok n =>
      have hbuilt : Relation.of (partsOf x).1 (partsOf x).2 x.negated false [.single n] =
          .ok { x with ranges := [.single n] } :=
        hwithin ▸ Relation.of_eq_ok x (List.cons_ne_nil (Range.single n) [])
      have hrange : Range.of n n = .ok (.single n) := Range.of_eq_ok (Nat.le_refl n)
      simp only [ok_bind, pure_bind, hrange, hbuilt, resume]
      exact run_drop

/-- After "is" a run reads a value, perhaps with "not" before it. -/
theorem run_value (x : Subject) (hnegated : x.negated = false) (hwithin : x.within = false) :
    State.run source { s with stage := .value x } (ts.drop i) = (do
      let r ← afterIs source ts (partsOf x) i
      afterRelation source ts s r.value r.next) := by
  rw [run_drop, afterIs]
  cases ht : tokenAt ts i with
  | error e => rfl
  | ok t =>
    simp only [ok_bind, State.step, readIs]
    by_cases hnot : t.isWord "not" = true
    · simp only [hnot, if_true, State.proceed, ok_bind, pure_bind, bind_assoc, resume]
      rw [run_drop]
      exact resume_otherValue (s := s) { x with negated := true } hwithin
    · have hread := @resume_otherValue source ts i s x hwithin
      rw [ht, hnegated] at hread
      simp only [hnot, Bool.false_eq_true, if_false]
      exact hread

theorem not_isWord_within (hin : t.isWord "in" = true) : t.isWord "within" = false := by
  rw [Bool.eq_false_iff, Ne, Token.isWord_iff, Token.isWord_iff.1 hin]
  simp

/-- Where a keyword is wanted after "not" a run reads it, and ranges. -/
theorem run_keyword (hts : Continues ts) (x : Subject) (hnegated : x.negated = true)
    (hwithin : x.within = false) :
    State.run source { s with stage := .keyword x } (ts.drop i) = (do
      let r ← keyword source ts (partsOf x) true i
      afterRelation source ts s r.value r.next) := by
  rw [run_drop, keyword]
  cases tokenAt ts i with
  | error e => rfl
  | ok t =>
    simp only [ok_bind, State.step, readKeyword, State.proceed]
    by_cases hin : t.isWord "in" = true
    · have hnotWithin := not_isWord_within hin
      simp only [hin, hnotWithin, Bool.true_or, if_true, ok_bind, pure_bind, bind_assoc, resume]
      exact (run_listed hts x).trans (by rw [hwithin, hnegated])
    · by_cases hwithin' : t.isWord "within" = true
      · simp only [hin, hwithin', Bool.or_true, Bool.false_eq_true, if_true, if_false, ok_bind,
          pure_bind, bind_assoc, resume]
        exact (run_listed hts { x with within := true }).trans (by rw [hnegated]; rfl)
      · simp only [hin, hwithin', Bool.or_false, Bool.false_eq_true, if_true, if_false,
          refuseFor_bind]

/-- Where an operator is wanted after an expression a run reads it, and what follows it. -/
theorem resume_operator (hts : Continues ts) (operand : Operand) (modulus : Option Modulus) : (do
      let t ← tokenAt ts i
      let outcome ← s.proceed (readOperator source { operand, modulus } t)
      resume source ts (i + 1) outcome) = (do
      let r ← comparison source ts (partsOf { operand, modulus }) i
      afterRelation source ts s r.value r.next) := by
  rw [comparison]
  cases ht : tokenAt ts i with
  | error e => rfl
  | ok t =>
    simp only [ok_bind, State.proceed, readOperator]
    cases hkind : t.kind with
    | number => simp only [refuseFor_bind]
    | stop => simp only [refuseFor_bind]
    | symbol =>
      simp only
      by_cases hequal : t.text = ['=']
      · simp only [hequal, true_or, if_true, ok_bind, pure_bind, bind_assoc, resume]
        exact run_listed hts { operand, modulus }
      · by_cases hunequal : t.text = ['!', '=']
        · have hdifferent : (['!', '='] : Text) ≠ ['='] := by decide
          simp only [hunequal, hdifferent, or_true, if_true, if_false, pure_bind, bind_assoc, resume]
          exact run_listed hts { operand, modulus, negated := true }
        · by_cases hforeign : t.text ∈ foreignOperators
          · simp only [hequal, hunequal, hforeign, List.contains_iff_mem, or_false, if_true,
              if_false, refuseOperator_bind]
          · simp only [hequal, hunequal, hforeign, List.contains_iff_mem, or_false, if_false,
              refuseFor_bind]
    | word =>
      have hword (w : Text) : t.isWord w = true ↔ t.text = w := by
        rw [Token.isWord_iff, Token.lexeme?_eq_word_iff]
        simp [hkind]
      simp only
      by_cases his : t.text = "is".toList
      · simp only [his, if_true, pure_bind, bind_assoc, resume]
        exact run_value { operand, modulus } rfl rfl
      · by_cases hnot : t.text = "not".toList
        · rw [if_neg his, if_pos hnot, if_neg his, if_pos hnot]
          simp only [ok_bind, pure_bind, bind_assoc, resume]
          exact run_keyword hts { operand, modulus, negated := true } rfl rfl
        · rw [if_neg his, if_neg hnot, if_neg his, if_neg hnot, keyword, ht]
          by_cases hin : t.isWord "in" = true
          · have hnotWithin := not_isWord_within hin
            simp only [(hword _).1 hin, hin, hnotWithin, Bool.true_or, if_true, ok_bind, pure_bind,
              bind_assoc, resume]
            exact run_listed hts { operand, modulus }
          · by_cases hwithin : t.isWord "within" = true
            · rw [if_neg (mt (hword _).2 hin), if_pos ((hword _).1 hwithin)]
              simp only [hwithin, Bool.or_true, if_true, ok_bind, pure_bind, bind_assoc, resume]
              exact run_listed hts { operand, modulus, within := true }
            · rw [if_neg (mt (hword _).2 hin), if_neg (mt (hword _).2 hwithin)]
              simp only [hin, hwithin, Bool.or_false, Bool.false_eq_true, if_false, ok_bind,
                refuseOperator_bind]

/-- Where an operand is wanted a run reads a relation. -/
theorem run_relation (hts : Continues ts) :
    State.run source { s with stage := .operand } (ts.drop i) = (do
      let r ← relation source ts i
      afterRelation source ts s r.value r.next) := by
  rw [run_drop, relation, expression]
  cases ht : tokenAt ts i with
  | error e => rfl
  | ok t =>
    simp only [ok_bind, State.step, State.proceed]
    cases hread : readOperand source t with
    | error e => rfl
    | ok stage =>
      obtain ⟨x, hword, rfl⟩ := readOperand_eq_ok_iff.1 hread
      have htext : t.text = x.symbol := (Token.lexeme?_eq_word_iff.1 hword).2
      simp only [ok_bind, pure_bind, resume, bind_assoc]
      rw [run_drop]
      cases ht' : tokenAt ts (i + 1) with
      | error e => rfl
      | ok sign =>
        simp only [ok_bind, State.step, State.proceed, readSubject]
        by_cases hsign : (sign.isSymbol ['%'] || sign.isWord "mod") = true
        · simp only [hsign, if_true, ok_bind, pure_bind, resume]
          rw [run_drop, value]
          cases ht'' : tokenAt ts (i + 1 + 1) with
          | error e => rfl
          | ok numeral =>
            simp only [ok_bind, State.step, State.proceed, readModulus]
            cases readValue source numeral with
            | error e => rfl
            | ok m =>
              simp only [ok_bind, pure_bind]
              by_cases hm : m = 0
              · subst hm
                simp only [Nat.lt_irrefl, dite_false, if_true, refuse_bind]
              · have hpos : 0 < m := Nat.pos_of_ne_zero hm
                simp only [hpos, hm, dite_true, if_false, pure_bind, resume]
                rw [run_drop, htext]
                exact resume_operator hts x (some ⟨m, hpos⟩)
        · have hoperator := @resume_operator source ts (i + 1) s hts x none
          rw [ht'] at hoperator
          simp only [hsign, Bool.false_eq_true, if_false, pure_bind, htext]
          exact hoperator

/-! ### Rules -/

/-- Where an alternative is wanted a run reads a conjunction. -/
theorem run_conjunction (hts : Continues ts) {alternatives : Option Condition} :
    State.run source { alternatives } (ts.drop i) = (do
      let c ← conjunction source ts i
      afterConjunction source ts alternatives c.value c.next) := by
  let after (c : Condition) (i : Nat) := do
    let t ← tokenAt ts i
    if t.isWord "and" then State.run source ⟨alternatives, some c, .operand⟩ (ts.drop (i + 1))
    else afterConjunction source ts alternatives c i
  have hafter (conjuncts : Option Condition) (r : Relation) (i : Nat) :
      afterRelation source ts ⟨alternatives, conjuncts, .operand⟩ r i =
        after (joinedBy .and conjuncts (.relation r)) i := by
    simp only [after, afterRelation, afterConjunction, afterDisjunction]
    cases ht : tokenAt ts i with
    | error e => rfl
    | ok t =>
      simp only [ok_bind, State.connect]
      by_cases hand : t.isWord "and" = true
      · simp only [hand, if_true, ok_bind, resume]
      · by_cases hor : t.isWord "or" = true
        · simp only [hand, hor, Bool.false_eq_true, if_true, if_false, ok_bind, resume]
        · by_cases hstop : t.kind = .stop
          · simp only [hand, hor, hstop, Bool.false_eq_true, if_true, if_false, ok_bind, resume]
            rfl
          · simp only [hand, hor, hstop, Bool.false_eq_true, if_false, refuseFor_bind]
  have hrelation := @run_relation source ts i { alternatives } hts
  rw [hrelation, conjunction]
  simp only [bind_assoc]
  refine bind_congr fun r => ?_
  rw [hafter]
  refine @more_bind_eq _ _ _ ts (·.isWord "and") _ (fun c r => .and c (.relation r)) _
    ⟨.relation r.value, r.next, r.start_lt_next⟩ after (afterConjunction source ts alternatives)
    (fun _ => True) (fun _ _ => trivial) ?_ trivial
  intro c i _
  simp only [after]
  refine bind_congr fun t => ?_
  by_cases hand : t.isWord "and" = true
  · simp only [hand, if_true]
    refine (run_relation (s := ⟨alternatives, some c, .operand⟩) hts).trans ?_
    exact bind_congr fun r => hafter (some c) r.value r.next
  · simp only [hand, Bool.false_eq_true, if_false]

/-- At the start of a rule a run reads a disjunction, and then the end. -/
theorem run_disjunction (hts : Continues ts) :
    State.run source {} (ts.drop i) = (do
      let c ← disjunction source ts i
      afterDisjunction source ts c.value c.next) := by
  rw [run_conjunction hts, disjunction]
  simp only [bind_assoc]
  refine bind_congr fun c => ?_
  let after (c : Condition) (i : Nat) := do
    let t ← tokenAt ts i
    if t.isWord "or" then State.run source { alternatives := some c } (ts.drop (i + 1))
    else afterDisjunction source ts c i
  refine @more_bind_eq _ _ _ ts (·.isWord "or") _ .or _ c after (afterDisjunction source ts)
    (fun _ => True) (fun _ _ => trivial) ?_ trivial
  intro c i _
  simp only [after]
  refine bind_congr fun t => ?_
  by_cases hor : t.isWord "or" = true
  · simp only [hor, if_true]
    exact run_conjunction hts
  · simp only [hor, Bool.false_eq_true, if_false]

/-- **The two readings agree.** Tokens that end with one for the end stand for the same condition,
or are refused alike. -/
theorem rule_eq_ofTokens (hts : Continues ts) : rule source ts = ofTokens source ts := by
  have hrun := @run_disjunction source ts 0 hts
  rw [List.drop_zero] at hrun
  rw [rule, ofTokens, tokenAt, ← List.head?_eq_getElem?]
  cases ts.head? with
  | none => rfl
  | some t =>
    simp only [ok_bind]
    by_cases hstop : t.kind = .stop
    · simp only [hstop, if_true]
      rfl
    · simp only [hstop, if_false]
      exact hrun.symm

/-! ### Rule texts -/

/-- Tokens that stand for lexemes end with one for the end. -/
theorem continues_of_standFor {ls : List Lexeme} (h : Token.StandFor ts ls) : Continues ts := by
  induction h with
  | @stop t hstop =>
    intro i u hu hkind
    cases i with
    | zero =>
      obtain rfl : t = u := by simpa using hu
      exact absurd (Token.lexeme?_eq_none_iff.1 hstop) hkind
    | succ i => simp at hu
  | @cons t l ts ls _ htail ih =>
    intro i u hu hkind
    cases i with
    | zero =>
      cases htail with
      | stop => exact ⟨_, rfl⟩
      | cons => exact ⟨_, rfl⟩
    | succ i => exact ih i u (by simpa using hu) hkind

/-- A rule text compiles alike in both readings. -/
theorem compile_eq (t : Text) : Descent.compile t = Rule.compile t := by
  obtain ⟨ls, hls⟩ := Lexes.exists (t.before '@')
  have hts : Continues (Token.ofText t) := continues_of_standFor (Token.standFor_scan hls 0)
  rw [Descent.compile, Rule.compile, rule_eq_ofTokens hts]

end Descent

end Rule

end Numerus
