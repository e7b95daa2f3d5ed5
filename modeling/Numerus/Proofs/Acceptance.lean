import Numerus.Proofs.Reading
import Numerus.Rule.Compile

/-!
The compiler accepts exactly the grammar.

`Proofs/Reading` shows that what is accepted is a rule. Here is the converse: a derivation drives
the run. `State.Accepts s ls c` says that the lexemes `ls` lead from the state to the condition
`c`, step by step and wherever they stand in a text, and each phrase of the grammar passes on to
what is accepted after it. A stage after a value or a range does not know yet whether the relation
ends there, so the lemmas speak of all stages in which it may.

* `State.accepts_of_isDisjunction` — a derivation drives a run from its start to its condition.
* `compile_accepts_exactly_rules` — the condition of a rule text is the one of its derivation, and
  a rule text without a derivation is refused.
-/

namespace Numerus.Rule

open Grammar

/-- `State.Accepts s ls c`: from the state `s` the lexemes `ls` and the end lead to `c`, each in one
step. Nothing is said of a lexeme that is too long to be read, nor of those after it. -/
def State.Accepts (s : State) : List Lexeme → Condition → Prop
  | [], c => ∀ (source : Text) (t : Token) (next : Option Token), t.lexeme? = none →
    s.step source t next = .ok (.done c)
  | l :: ls, c => ∀ (source : Text) (t : Token) (next : Option Token), t.lexeme? = some l →
    l.text.length ≤ Fault.digitLimit →
    ∃ s', s.step source t next = .ok (.next s') ∧ State.Accepts s' ls c

/-- The stages in which an operator may follow, after the expression of `s`. -/
inductive Stage.WantsOperator : Stage → Subject → Prop where
  | subject (x : Operand) : WantsOperator (.subject { operand := x }) { operand := x }
  | operator (s : Subject) : WantsOperator (.operator s) s

/-- The stages in which the list of ranges of `r` may end. -/
inductive Stage.EndsRanges : Stage → Relation → Prop where
  | listed (r : Relation) : EndsRanges (.listed r) r
  | low (s : Subject) (rs : List Range) (start n : Nat) :
      EndsRanges (.low s rs start n) { s with ranges := rs ++ [.single n] }

/-- The stages in which the relation `r` may end. -/
inductive Stage.Ends : Stage → Relation → Prop where
  | complete (r : Relation) : Ends (.complete r) r
  | ranges {stage : Stage} {r : Relation} : stage.EndsRanges r → Ends stage r

namespace State

variable {alternatives conjuncts : Option Condition} {stage stage' : Stage} {s : Subject}
  {r : Relation} {l : Lexeme} {ls rest : List Lexeme} {c : Condition}

/-! ### Single steps -/

/-- A lexeme that leads to a state from which the rest is accepted. -/
theorem accepts_cons {state : State}
    (h : ∀ (source : Text) (t : Token) (next : Option Token), t.lexeme? = some l →
      l.text.length ≤ Fault.digitLimit →
      ∃ state', state.step source t next = .ok (.next state') ∧ state'.Accepts rest c) :
    state.Accepts (l :: rest) c := h

/-- A run over lexemes that are accepted. -/
theorem Accepts.run {state : State} {source : Text} {ts : List Token} (h : state.Accepts ls c)
    (hts : Token.StandFor ts ls) (hshort : ∀ l ∈ ls, l.text.length ≤ Fault.digitLimit) :
    State.run source state ts = .ok c := by
  induction hts generalizing state with
  | stop hstop => exact run_done (h source _ none hstop)
  | @cons t l ts ls hl _ ih =>
    obtain ⟨state', hstep, haccepts⟩ := h source t ts.head? hl (hshort l List.mem_cons_self)
    rw [run_next hstep]
    exact ih haccepts fun l' hl' => hshort l' (List.mem_cons_of_mem _ hl')

/-- A lexeme that leads to another stage of the relation at hand. -/
theorem step_of_proceed {source : Text} {t : Token} {next : Option Token} {state : State}
    {result : Except Failure Stage} (hstep : state.step source t next = state.proceed result)
    (hresult : result = .ok stage') :
    state.step source t next = .ok (.next { state with stage := stage' }) := by
  rw [hstep, hresult]
  rfl

theorem accepts_operand (x : Operand)
    (hrest : Accepts ⟨alternatives, conjuncts, .subject { operand := x }⟩ rest c) :
    Accepts ⟨alternatives, conjuncts, .operand⟩ (.word x.symbol :: rest) c :=
  accepts_cons fun _ _ _ hl _ =>
    ⟨_, step_of_proceed rfl (readOperand_eq_ok_iff.2 ⟨x, hl, rfl⟩), hrest⟩

theorem accepts_operator (hstage : stage.WantsOperator s)
    (hread : ∀ (source : Text) (t : Token), t.lexeme? = some l →
      readOperator source s t = .ok stage')
    (hrest : Accepts ⟨alternatives, conjuncts, stage'⟩ rest c) :
    Accepts ⟨alternatives, conjuncts, stage⟩ (l :: rest) c := by
  refine accepts_cons fun source t next hl _ => ⟨_, ?_, hrest⟩
  cases hstage with
  | subject x => exact step_of_proceed rfl (readSubject_eq_ok_iff.2 (.inr (hread source t hl)))
  | operator s => exact step_of_proceed rfl (hread source t hl)

theorem accepts_keyword
    (hread : ∀ (source : Text) (t : Token), t.lexeme? = some l →
      readKeyword source s t = .ok stage')
    (hrest : Accepts ⟨alternatives, conjuncts, stage'⟩ rest c) :
    Accepts ⟨alternatives, conjuncts, .keyword s⟩ (l :: rest) c :=
  accepts_cons fun source t _ hl _ => ⟨_, step_of_proceed rfl (hread source t hl), hrest⟩

/-- At the end of a relation a step is a step of `connect`. -/
theorem step_of_ends {source : Text} {t : Token} {next : Option Token} {outcome : Outcome}
    (hends : stage.Ends r)
    (hconnect : connect ⟨alternatives, conjuncts, stage⟩ source r t = .ok outcome) :
    step source ⟨alternatives, conjuncts, stage⟩ t next = .ok outcome := by
  rcases hends with _ | hranges
  · exact hconnect
  · rcases hranges with _ | _
    · exact connectOrList_eq_ok_iff.2 (.inr hconnect)
    · exact connectOrDots_eq_ok_iff.2 (.inr (connectOrList_eq_ok_iff.2 (.inr hconnect)))

theorem accepts_comma (hends : stage.EndsRanges r)
    (hrest : Accepts ⟨alternatives, conjuncts, .range r.toSubject r.ranges⟩ rest c) :
    Accepts ⟨alternatives, conjuncts, stage⟩ (.symbol [','] :: rest) c := by
  refine accepts_cons fun source t next hl _ => ⟨_, ?_, hrest⟩
  rcases hends with _ | _
  · exact connectOrList_eq_ok_iff.2 (.inl ⟨hl, rfl⟩)
  · exact connectOrDots_eq_ok_iff.2 (.inr (connectOrList_eq_ok_iff.2 (.inl ⟨hl, rfl⟩)))

theorem accepts_and (hends : stage.Ends r)
    (hrest : Accepts ⟨alternatives, some (joinedBy .and conjuncts (.relation r)), .operand⟩
      rest c) :
    Accepts ⟨alternatives, conjuncts, stage⟩ (.word "and" :: rest) c :=
  accepts_cons fun _ _ _ hl _ =>
    ⟨_, step_of_ends hends (connect_eq_ok_iff.2 (.inl ⟨hl, rfl⟩)), hrest⟩

theorem accepts_or (hends : stage.Ends r)
    (hrest : Accepts ⟨some (joinedBy .or alternatives (joinedBy .and conjuncts (.relation r))),
      none, .operand⟩ rest c) :
    Accepts ⟨alternatives, conjuncts, stage⟩ (.word "or" :: rest) c :=
  accepts_cons fun _ _ _ hl _ =>
    ⟨_, step_of_ends hends (connect_eq_ok_iff.2 (.inr (.inl ⟨hl, rfl⟩))), hrest⟩

/-- The end of a relation may be the end of the rule. -/
theorem accepts_end (hends : stage.Ends r) :
    Accepts ⟨alternatives, conjuncts, stage⟩ []
      (joinedBy .or alternatives (joinedBy .and conjuncts (.relation r))) := by
  intro source t next hstop
  exact step_of_ends hends (connect_eq_ok_iff.2 (.inr (.inr ⟨hstop, rfl⟩)))

/-! ### Phrases -/

theorem accepts_expression {operand : Operand} {modulus : Option Modulus}
    (h : IsExpression ls operand modulus)
    (hrest : ∀ stage : Stage, stage.WantsOperator { operand, modulus } →
      Accepts ⟨alternatives, conjuncts, stage⟩ rest c) :
    Accepts ⟨alternatives, conjuncts, .operand⟩ (ls ++ rest) c := by
  cases h with
  | plain => exact accepts_operand operand (hrest _ (.subject operand))
  | reduced _ digits hsign hpos =>
    refine accepts_operand operand (accepts_cons fun _ _ _ hl _ => ⟨_, step_of_proceed rfl
      (readSubject_eq_ok_iff.2 (.inl ⟨?_, rfl⟩)), ?_⟩)
    · rcases hsign with rfl | rfl
      · exact .inl hl
      · exact .inr hl
    · exact accepts_cons fun _ _ _ hl hshort => ⟨_, step_of_proceed rfl
        (readModulus_eq_ok_iff.2 ⟨digits, hpos, hl, hshort, rfl⟩), hrest _ (.operator _)⟩

theorem accepts_subject (h : IsSubject ls s)
    (hrest : Accepts ⟨alternatives, conjuncts, .range s []⟩ rest c) :
    Accepts ⟨alternatives, conjuncts, .operand⟩ (ls ++ rest) c := by
  obtain ⟨he, ho⟩ := h
  rw [List.append_assoc]
  apply accepts_expression he
  intro stage hstage
  cases ho with
  | equal =>
    exact accepts_operator hstage
      (fun _ _ hl => readOperator_eq_ok_iff.2 (.inl ⟨.inl hl, rfl⟩)) hrest
  | isIn =>
    exact accepts_operator hstage
      (fun _ _ hl => readOperator_eq_ok_iff.2 (.inl ⟨.inr hl, rfl⟩)) hrest
  | unequal =>
    exact accepts_operator hstage
      (fun _ _ hl => readOperator_eq_ok_iff.2 (.inr (.inl ⟨hl, rfl⟩))) hrest
  | within =>
    exact accepts_operator hstage
      (fun _ _ hl => readOperator_eq_ok_iff.2 (.inr (.inr (.inl ⟨hl, rfl⟩)))) hrest
  | notIn =>
    exact accepts_operator hstage
      (fun _ _ hl => readOperator_eq_ok_iff.2 (.inr (.inr (.inr (.inr ⟨hl, rfl⟩)))))
      (accepts_keyword (fun _ _ hl => readKeyword_eq_ok_iff.2 (.inl ⟨hl, rfl⟩)) hrest)
  | notWithin =>
    exact accepts_operator hstage
      (fun _ _ hl => readOperator_eq_ok_iff.2 (.inr (.inr (.inr (.inr ⟨hl, rfl⟩)))))
      (accepts_keyword (fun _ _ hl => readKeyword_eq_ok_iff.2 (.inr ⟨hl, rfl⟩)) hrest)

theorem accepts_range {range : Range} {ranges : List Range} (h : IsRange ls range)
    (hrest : ∀ stage : Stage, stage.EndsRanges { s with ranges := ranges ++ [range] } →
      Accepts ⟨alternatives, conjuncts, stage⟩ rest c) :
    Accepts ⟨alternatives, conjuncts, .range s ranges⟩ (ls ++ rest) c := by
  cases h with
  | single digits =>
    exact accepts_cons fun _ t _ hl hshort => ⟨_, step_of_proceed rfl
      (readLow_eq_ok_iff.2 ⟨digits, hl, hshort, rfl⟩), hrest _ (.low s ranges t.position _)⟩
  | bounds low high hle =>
    refine accepts_cons fun _ t _ hl hshort => ⟨_, step_of_proceed rfl
      (readLow_eq_ok_iff.2 ⟨low, hl, hshort, rfl⟩), ?_⟩
    refine accepts_cons fun _ t' _ hl _ =>
      ⟨_, connectOrDots_eq_ok_iff.2 (.inl ⟨hl, rfl⟩), ?_⟩
    exact accepts_cons fun _ _ _ hl hshort => ⟨_, step_of_proceed rfl
      (readHigh_eq_ok_iff.2 ⟨high, hle, hl, hshort, rfl⟩), hrest _ (.listed _)⟩

/-- The list grows to the right, so what follows it is general in the induction. -/
theorem accepts_rangeList {ranges : List Range} (h : IsRangeList ls ranges)
    (hrest : ∀ (stage : Stage) (r : Relation), r.toSubject = s → r.ranges = ranges →
      stage.EndsRanges r → Accepts ⟨alternatives, conjuncts, stage⟩ rest c) :
    Accepts ⟨alternatives, conjuncts, .range s []⟩ (ls ++ rest) c := by
  induction h generalizing rest with
  | one hrange => exact accepts_range hrange fun stage hends => hrest stage _ rfl rfl hends
  | more _ hrange ih =>
    rw [List.append_assoc]
    refine ih fun stage r hsubject hranges hends => accepts_comma hends ?_
    rw [hsubject, hranges]
    exact accepts_range hrange fun stage hends => hrest stage _ rfl rfl hends

theorem accepts_relation (h : IsRelation ls r)
    (hrest : ∀ stage : Stage, stage.Ends r → Accepts ⟨alternatives, conjuncts, stage⟩ rest c) :
    Accepts ⟨alternatives, conjuncts, .operand⟩ (ls ++ rest) c := by
  cases h with
  | list hs hrs =>
    rw [List.append_assoc]
    refine accepts_subject hs (accepts_rangeList hrs fun stage r' hsubject hranges hends => ?_)
    have : r' = r := by
      cases r; cases r'; simp_all
    exact hrest stage (.ranges (this ▸ hends))
  | is digits he =>
    rw [List.append_assoc]
    refine accepts_expression he fun stage hstage => accepts_operator hstage
      (fun _ _ hl => readOperator_eq_ok_iff.2 (.inr (.inr (.inr (.inl ⟨hl, rfl⟩))))) ?_
    exact accepts_cons fun _ _ _ hl hshort => ⟨_, step_of_proceed rfl (readIs_eq_ok_iff.2
      (.inr (readOtherValue_eq_ok_iff.2 ⟨digits, hl, hshort, rfl⟩))), hrest _ (.complete _)⟩
  | isNot digits he =>
    rw [List.append_assoc]
    refine accepts_expression he fun stage hstage => accepts_operator hstage
      (fun _ _ hl => readOperator_eq_ok_iff.2 (.inr (.inr (.inr (.inl ⟨hl, rfl⟩))))) ?_
    refine accepts_cons fun _ _ _ hl _ => ⟨_, step_of_proceed rfl (readIs_eq_ok_iff.2
      (.inl ⟨hl, rfl⟩)), ?_⟩
    exact accepts_cons fun _ _ _ hl hshort => ⟨_, step_of_proceed rfl
      (readOtherValue_eq_ok_iff.2 ⟨digits, hl, hshort, rfl⟩), hrest _ (.complete _)⟩

theorem accepts_conjunction {d : Condition} (h : IsConjunction ls d)
    (hrest : ∀ (before : Option Condition) (stage : Stage) (r : Relation),
      joinedBy .and before (.relation r) = d → stage.Ends r →
      Accepts ⟨alternatives, before, stage⟩ rest c) :
    Accepts ⟨alternatives, none, .operand⟩ (ls ++ rest) c := by
  induction h generalizing rest with
  | one hr => exact accepts_relation hr fun stage hends => hrest none stage _ rfl hends
  | and _ hr ih =>
    rw [List.append_assoc]
    refine ih fun before stage r heq hends => accepts_and hends ?_
    rw [heq]
    exact accepts_relation hr fun stage hends => hrest _ stage _ rfl hends

theorem accepts_disjunction {d : Condition} (h : IsDisjunction ls d)
    (hrest : ∀ (before : Option Condition) (before' : Option Condition) (stage : Stage)
      (r : Relation), joinedBy .or before (joinedBy .and before' (.relation r)) = d →
      stage.Ends r → Accepts ⟨before, before', stage⟩ rest c) :
    Accepts {} (ls ++ rest) c := by
  induction h generalizing rest with
  | one hc =>
    exact accepts_conjunction hc fun before' stage r heq hends =>
      hrest none before' stage r heq hends
  | or _ hc ih =>
    rw [List.append_assoc]
    refine ih fun before before' stage r heq hends => accepts_or hends ?_
    rw [heq]
    refine accepts_conjunction hc fun before' stage r heq hends =>
      hrest _ before' stage r (congrArg _ heq) hends

/-- A derivation drives a run to its condition. -/
theorem accepts_of_isDisjunction {d : Condition} (h : IsDisjunction ls d) : Accepts {} ls d := by
  have : Accepts {} (ls ++ []) d :=
    accepts_disjunction h fun before before' stage r heq hends => heq ▸ accepts_end hends
  rwa [List.append_nil] at this

end State

/-! ### Rule texts -/

/-- Tokens that stand for lexemes lead to the condition that these derive. -/
theorem ofTokens_eq_ok_iff {source : Text} {ts : List Token} {ls : List Lexeme} {c : Condition}
    (hts : Token.StandFor ts ls) (hshort : ∀ l ∈ ls, l.text.length ≤ Fault.digitLimit) :
    ofTokens source ts = .ok c ↔ IsRule ls c := by
  cases hts with
  | stop hstop =>
    rw [isRule_nil_iff]
    simp [ofTokens, Token.lexeme?_eq_none_iff.1 hstop, eq_comm]
  | @cons t l ts ls hl htail =>
    have hkind : t.kind ≠ .stop := by
      intro hstop
      rw [Token.lexeme?_eq_none_iff.2 hstop] at hl
      simp at hl
    have hrun : ofTokens source (t :: ts) = State.run source {} (t :: ts) := by
      simp [ofTokens, hkind]
    rw [hrun, isRule_cons_iff]
    constructor
    · intro h
      exact State.reads_start.run (.cons hl htail) h
    · intro h
      exact (State.accepts_of_isDisjunction h).run (.cons hl htail) hshort

/-- A rule text of admitted length compiles to the condition that its lexemes derive. -/
theorem compile_eq_ok_iff {t : Text} {ls : List Lexeme} {c : Condition}
    (hlength : t.length ≤ lengthLimit) (hls : Lexes (t.before '@') ls) :
    compile t = .ok c ↔ IsRule ls c := by
  have hshort : ∀ l ∈ ls, l.text.length ≤ Fault.digitLimit := by
    intro l hl
    have hbefore : (t.before '@').length ≤ t.length := (List.takeWhile_sublist _).length_le
    have hlimit : lengthLimit ≤ Fault.digitLimit := by decide
    have := hls.length_le hl
    omega
  rw [compile, if_neg (Nat.not_lt.2 hlength)]
  exact ofTokens_eq_ok_iff (Token.standFor_scan hls 0) hshort

/-- **The compiler accepts exactly the grammar.** A rule text of admitted length has one sequence
of lexemes before its samples, and it compiles to a condition exactly if these lexemes derive
that condition. -/
theorem compile_accepts_exactly_rules (t : Text) (hlength : t.length ≤ lengthLimit) :
    ∃ ls, (∀ ls', Lexes (t.before '@') ls' ↔ ls' = ls) ∧
      ∀ c, compile t = .ok c ↔ IsRule ls c := by
  obtain ⟨ls, hls⟩ := Lexes.exists (t.before '@')
  refine ⟨ls, fun ls' => ⟨fun hls' => hls'.unique hls, ?_⟩, fun c => compile_eq_ok_iff hlength hls⟩
  rintro rfl
  exact hls

theorem compile_accepts_exactly_rules_legacy :
    "v is not 0 or n mod 10 not within 2..4,7 @integer 1".toList.length ≤ lengthLimit ∧
      ∃ ls, (∀ ls', Lexes (Text.before '@'
          "v is not 0 or n mod 10 not within 2..4,7 @integer 1") ls' ↔ ls' = ls) ∧
        ∀ c, compile "v is not 0 or n mod 10 not within 2..4,7 @integer 1" = .ok c ↔
          IsRule ls c :=
  ⟨by decide, compile_accepts_exactly_rules _ (by decide)⟩

end Numerus.Rule
