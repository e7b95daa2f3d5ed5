import Numerus.Proofs.Placement
import Numerus.Proofs.Steps
import Numerus.Rule.Compile

/-!
What a refused token is blamed for.

A step that has no answer blames its token, except where a range is wanted: dots without a low end
are blamed as a range that starts there, and a high end that is missing or too low is blamed on the
range that it would close. A diagnostic always marks what is blamed, in the rule text itself.

* `Token.IsOf` — what the tokens of a rule text have in common.
* `Objection` — the complaints that refuse a token.
* `State.step_failsWith_of` — the complaints that a step may end with.
* `State.step_failsWith` — what a step blames if it has no answer.
-/

namespace Numerus

/-! ### Diagnostics on parts of rule texts -/

namespace Diagnostic

/-- Whether the diagnostic marks the part of a rule text with the given offset and length. -/
def Marks (d : Diagnostic) (source : Text) (position length : Nat) : Prop :=
  d.source = some source ∧ d.span = some ⟨position, position + length, Nat.le_add_right _ _⟩

/-- There is a diagnostic on each part of a rule text, and it marks this part. -/
theorem exists_ofRule_eq_ok (code : Code) (message source : Text) (position length : Nat)
    (hint : Option Text) :
    ∃ d, ofRule code message source position length hint = .ok d ∧
      d.Marks source position length ∧ d.code = code := by
  have hspan : spanOf position (position + length) =
      .ok ⟨position, position + length, Nat.le_add_right _ _⟩ := by
    have := Span.ofBounds_eq_ok (Nat.le_add_right position length)
    rw [Int.natCast_add] at this
    rw [spanOf, this]
    rfl
  rw [ofRule, hspan]
  exact ⟨_, rfl, ⟨rfl, rfl⟩, rfl⟩

end Diagnostic

/-! ### Tokens of a rule text -/

/-- What the tokens of the rule text `source` have in common. -/
structure Token.IsOf (source : Text) (t : Token) : Prop where
  standsIn : t.StandsIn source
  text_of_stop : t.lexeme? = none → t.text = []
  length_le : t.text.length ≤ Fault.digitLimit

/-- The tokens of a rule text of admitted length are not too long to be read. -/
theorem Token.isOf_of_mem_ofText {source : Text} {t : Token}
    (hlength : source.length ≤ Rule.lengthLimit) (h : t ∈ ofText source) : t.IsOf source where
  standsIn := ofText_standsIn source t h
  text_of_stop := by
    intro hstop
    rcases ofText_stop source t h with rfl | ⟨hsome, -⟩
    · rfl
    · exact absurd hstop hsome
  length_le := by
    have hshort := (ofText_standsIn source t h).length_text_le
    have hlimit : Rule.lengthLimit ≤ Fault.digitLimit := by decide
    omega

namespace Rule

/-! ### What is blamed -/

/-- `BlamesToken source t e`: the failure tells that the token is wrong where it stands. -/
inductive BlamesToken (source : Text) (t : Token) : Failure → Prop where
  | intro {d : Diagnostic} : d.Marks source t.position t.text.length → d.code ≠ .invalidRange →
      BlamesToken source t (.grammar (.diagnosed d) source t.text t.position)

/-- `BlamesRange source start stop e`: the failure tells that the range between two offsets is
wrong. -/
inductive BlamesRange (source : Text) (start stop : Nat) : Failure → Prop where
  | intro {d : Diagnostic} : d.Marks source start (source.slice start stop).length →
      d.code = .invalidRange →
      BlamesRange source start stop
        (.grammar (.diagnosed d) source (source.slice start stop) start)

/-- What a step from the state `s` blames when it refuses the token `t`, which `next` follows. -/
inductive State.Refuses (source : Text) (s : State) (t : Token) (next : Option Token) :
    Failure → Prop where
  | token {e : Failure} : BlamesToken source t e → Refuses source s t next e
  /-- Dots without a low end. -/
  | dots {x : Subject} {ranges : List Range} {e : Failure} : s.stage = .range x ranges →
      t.lexeme? = some (.symbol ['.', '.']) → BlamesRange source t.position (rangeEnd t next) e →
      Refuses source s t next e
  /-- A high end that is missing. -/
  | noHigh {x : Subject} {ranges : List Range} {start low stop : Nat} {e : Failure} :
      s.stage = .high x ranges start low stop → t.kind ≠ .number →
      BlamesRange source start stop e → Refuses source s t next e
  /-- A high end that is too low. -/
  | inverted {x : Subject} {ranges : List Range} {start low stop : Nat} {digits : Text}
      {e : Failure} : s.stage = .high x ranges start low stop →
      t.lexeme? = some (.number digits) → Numeral.value digits < low →
      BlamesRange source start (rangeEnd t next) e → Refuses source s t next e

/-! ### Complaints on tokens -/

/-- What readers of tokens want, as their complaints name it. -/
def wanted : List Text :=
  ["a number", "an operand", "a relational operator", "'in' or 'within'",
   "'and', 'or' or end of rule"]

/-- `Objection source t c`: the token of the rule text may be refused by the complaint. -/
inductive Objection (source : Text) (t : Token) : Complaint → Prop where
  | mismatch {expected : Text} : expected ∈ wanted → Objection source t (mismatch source t expected)
  | operand : Objection source t (.unknownOperand source t.text t.position)
  | operator : Objection source t (.unknownOperator source t.text t.position)
  | modulus : Objection source t (.invalidModulus source t.text t.position)

/-- `RefusesToken source t e`: the failure tells a complaint that refuses the token. -/
inductive RefusesToken (source : Text) (t : Token) : Failure → Prop where
  | intro {c : Complaint} {d : Diagnostic} : Objection source t c → c.diagnostic = .ok d →
      RefusesToken source t (.grammar (.diagnosed d) source t.text t.position)

/-- `RefusesRange source start stop e`: the failure tells the complaint that the range between two
offsets is wrong. -/
inductive RefusesRange (source : Text) (start stop : Nat) : Failure → Prop where
  | intro {d : Diagnostic} :
      (Complaint.invalidRange source (source.slice start stop) start).diagnostic = .ok d →
      RefusesRange source start stop
        (.grammar (.diagnosed d) source (source.slice start stop) start)

section Readers

variable {α : Type} {source : Text} {t : Token} {next : Option Token} {s : Subject}

/-- Where something else is wanted, the diagnostic is on the token; that it is a parenthesis is told
apart. -/
theorem exists_diagnostic_mismatch (ht : t.IsOf source) (expected : Text) :
    ∃ code message hint, code ≠ .invalidRange ∧ (mismatch source t expected).diagnostic =
      Diagnostic.ofRule code message source t.position t.text.length hint := by
  unfold mismatch
  split
  · next hstop =>
    have htext : t.text = [] := ht.text_of_stop (Token.lexeme?_eq_none_iff.2 hstop)
    rw [htext]
    exact ⟨_, _, _, by decide, rfl⟩
  · split
    · next hparenthesis =>
      obtain ⟨c, htext⟩ : ∃ c, t.text = [c] := by
        simp only [Token.isSymbol, Bool.or_eq_true, Bool.and_eq_true, beq_iff_eq] at hparenthesis
        rcases hparenthesis with ⟨-, htext⟩ | ⟨-, htext⟩
        · exact ⟨_, htext⟩
        · exact ⟨_, htext⟩
      rw [Complaint.diagnostic, ht.standsIn.at?_eq htext, htext]
      exact ⟨_, _, _, by decide, rfl⟩
    · exact ⟨_, _, _, by decide, rfl⟩

/-- A complaint on a token has a diagnostic, which is on the token and not on a range. -/
theorem Objection.exists_diagnostic {c : Complaint} (h : Objection source t c)
    (ht : t.IsOf source) : ∃ d, c.diagnostic = .ok d ∧
      d.Marks source t.position t.text.length ∧ d.code ≠ .invalidRange := by
  obtain ⟨code, message, hint, hcode, hrule⟩ : ∃ code message hint, code ≠ Code.invalidRange ∧
      c.diagnostic = Diagnostic.ofRule code message source t.position t.text.length hint := by
    cases h with
    | mismatch => exact exists_diagnostic_mismatch ht _
    | operand => exact ⟨_, _, _, by decide, rfl⟩
    | operator => exact ⟨_, _, _, by decide, rfl⟩
    | modulus => exact ⟨_, _, _, by decide, rfl⟩
  obtain ⟨d, hd, hmarks, rfl⟩ :=
    Diagnostic.exists_ofRule_eq_ok code message source t.position t.text.length hint
  exact ⟨d, hrule.trans hd, hmarks, hcode⟩

/-- A complaint on a token blames it. -/
theorem RefusesToken.blamesToken {e : Failure} (h : RefusesToken source t e) (ht : t.IsOf source) :
    BlamesToken source t e := by
  obtain ⟨hobjection, hc⟩ := h
  obtain ⟨d, hd, hmarks, hcode⟩ := hobjection.exists_diagnostic ht
  obtain rfl := Except.ok.inj (hd.symm.trans hc)
  exact .intro hmarks hcode

/-- A complaint on a range has a diagnostic, which is on the range. -/
theorem exists_diagnostic_invalidRange (source : Text) (start stop : Nat) :
    ∃ d, (Complaint.invalidRange source (source.slice start stop) start).diagnostic = .ok d ∧
      d.Marks source start (source.slice start stop).length ∧ d.code = .invalidRange :=
  Diagnostic.exists_ofRule_eq_ok .invalidRange ("Invalid range '" ++ source.slice start stop ++ "'")
    source start (source.slice start stop).length
    (some "Ranges are written low..high with low <= high")

/-- A complaint on a range blames it. -/
theorem RefusesRange.blamesRange {start stop : Nat} {e : Failure}
    (h : RefusesRange source start stop e) : BlamesRange source start stop e := by
  obtain ⟨hc⟩ := h
  obtain ⟨d, hd, hmarks, hcode⟩ := exists_diagnostic_invalidRange source start stop
  obtain rfl := Except.ok.inj (hd.symm.trans hc)
  exact .intro hmarks hcode

theorem refuse_failsWith {c : Complaint} (ht : t.IsOf source) (h : Objection source t c) :
    FailsWith (RefusesToken source t) (refuse source t c : Except Failure α) := by
  obtain ⟨d, hd, -, -⟩ := h.exists_diagnostic ht
  exact .raise hd (.intro h hd)

theorem refuseOperator_failsWith (ht : t.IsOf source) :
    FailsWith (RefusesToken source t) (refuseOperator source t : Except Failure α) :=
  refuse_failsWith ht .operator

theorem refuseFor_failsWith (ht : t.IsOf source) {expected : Text} (h : expected ∈ wanted) :
    FailsWith (RefusesToken source t) (refuseFor expected source t : Except Failure α) :=
  refuse_failsWith ht (.mismatch h)

theorem readValue_failsWith (ht : t.IsOf source) :
    FailsWith (RefusesToken source t) (readValue source t) := by
  unfold readValue
  split
  · rw [Numeral.read_eq_ok ht.length_le]
    exact .ok _
  · exact refuseFor_failsWith ht (by decide)

theorem readOperand_failsWith (ht : t.IsOf source) :
    FailsWith (RefusesToken source t) (readOperand source t) := by
  unfold readOperand
  split
  · split
    · exact .ok _
    · exact refuse_failsWith ht .operand
  · exact refuseFor_failsWith ht (by decide)

theorem readModulus_failsWith (ht : t.IsOf source) :
    FailsWith (RefusesToken source t) (readModulus source s t) := by
  refine (readValue_failsWith ht).bind fun m _ => ?_
  split
  · exact .pure _
  · exact refuse_failsWith ht .modulus

theorem readOperator_failsWith (ht : t.IsOf source) :
    FailsWith (RefusesToken source t) (readOperator source s t) := by
  have word : FailsWith (RefusesToken source t) (refuseOperator source t : Except Failure Stage) :=
    refuseOperator_failsWith ht
  have other : FailsWith (RefusesToken source t)
      (refuseFor "a relational operator" source t : Except Failure Stage) :=
    refuseFor_failsWith ht (by decide)
  have symbol : FailsWith (RefusesToken source t)
      (if t.text ∈ foreignOperators then refuseOperator source t
        else refuseFor "a relational operator" source t : Except Failure Stage) :=
    word.ite other
  unfold readOperator
  split
  · exact .ite (.ok _) (.ite (.ok _) symbol)
  · exact .ite (.ok _) (.ite (.ok _) (.ite (.ok _) (.ite (.ok _) word)))
  · exact other

theorem readSubject_failsWith (ht : t.IsOf source) :
    FailsWith (RefusesToken source t) (readSubject source s t) := by
  unfold readSubject
  exact .ite (.ok _) (readOperator_failsWith ht)

theorem readKeyword_failsWith (ht : t.IsOf source) :
    FailsWith (RefusesToken source t) (readKeyword source s t) := by
  unfold readKeyword
  exact .ite (.ok _) (.ite (.ok _) (refuseFor_failsWith ht (by decide)))

theorem readOtherValue_failsWith (ht : t.IsOf source) :
    FailsWith (RefusesToken source t) (readOtherValue source s t) :=
  (readValue_failsWith ht).bind fun _ _ => .pure _

theorem readIs_failsWith (ht : t.IsOf source) :
    FailsWith (RefusesToken source t) (readIs source s t) := by
  unfold readIs
  exact .ite (.ok _) (readOtherValue_failsWith ht)

theorem refuseRange_failsWith (start stop : Nat) :
    FailsWith (RefusesRange source start stop)
      (refuseRange source start stop : Except Failure α) := by
  obtain ⟨d, hd, -, -⟩ := exists_diagnostic_invalidRange source start stop
  rw [refuseRange, Complaint.raise, hd]
  exact .error (.intro hd)

/-- A high end is refused with the range that it would close: where it is missing up to the dots,
and where it is too low up to its own end, or to the end of a number after it. -/
theorem readHigh_failsWith (ht : t.IsOf source) (ranges : List Range) (start low stop : Nat) :
    FailsWith
      (fun e => t.kind ≠ .number ∧ RefusesRange source start stop e ∨
        ∃ digits, t.lexeme? = some (.number digits) ∧ Numeral.value digits < low ∧
          RefusesRange source start (rangeEnd t next) e)
      (readHigh source s ranges start low stop t next) := by
  unfold readHigh
  split
  · next hkind =>
    rw [Numeral.read_eq_ok ht.length_le]
    refine .bind (.ok _) fun high hhigh => ?_
    obtain rfl := Except.ok.inj hhigh
    split
    · exact .pure _
    · next hlow =>
      have hnumber : t.lexeme? = some (.number t.text) :=
        Token.lexeme?_eq_number_iff.2 ⟨hkind, rfl⟩
      exact (refuseRange_failsWith _ _).mono fun e he =>
        .inr ⟨t.text, hnumber, Nat.lt_of_not_le hlow, he⟩
  · next hkind => exact (refuseRange_failsWith _ _).mono fun e he => .inl ⟨hkind, he⟩

end Readers

/-! ### Steps -/

namespace State

variable {source : Text} {t : Token} {next : Option Token} {s : State} {P : Failure → Prop}

theorem proceed_failsWith {result : Except Failure Stage} (h : FailsWith P result) :
    FailsWith P (s.proceed result) :=
  h.bind fun _ _ => .pure _

theorem connect_failsWith (ht : t.IsOf source) (r : Relation) :
    FailsWith (RefusesToken source t) (s.connect source r t) := by
  unfold connect
  exact .ite (.ok _) (.ite (.ok _) (.ite (.ok _) (refuseFor_failsWith ht (by decide))))

theorem connectOrList_failsWith (ht : t.IsOf source) (r : Relation) :
    FailsWith (RefusesToken source t) (s.connectOrList source r t) := by
  unfold connectOrList
  exact .ite (.ok _) (connect_failsWith ht r)

theorem connectOrDots_failsWith (ht : t.IsOf source) (x : Subject) (ranges : List Range)
    (start low : Nat) :
    FailsWith (RefusesToken source t) (s.connectOrDots source x ranges start low t) := by
  unfold connectOrDots
  exact .ite (.ok _) (connectOrList_failsWith ht _)

/-- **What a step ends with.** A step that has no answer tells a complaint on its token or, where a
range is wanted, on the range at hand. -/
theorem step_failsWith_of (ht : t.IsOf source)
    (token : ∀ e, RefusesToken source t e → P e)
    (dots : ∀ x ranges e, s.stage = .range x ranges → t.lexeme? = some (.symbol ['.', '.']) →
      RefusesRange source t.position (rangeEnd t next) e → P e)
    (noHigh : ∀ x ranges start low stop e, s.stage = .high x ranges start low stop →
      t.kind ≠ .number → RefusesRange source start stop e → P e)
    (inverted : ∀ x ranges start low stop digits e, s.stage = .high x ranges start low stop →
      t.lexeme? = some (.number digits) → Numeral.value digits < low →
      RefusesRange source start (rangeEnd t next) e → P e) :
    FailsWith P (s.step source t next) := by
  have onToken {result : Except Failure Outcome} (h : FailsWith (RefusesToken source t) result) :
      FailsWith P result := h.mono token
  unfold step
  split
  · exact onToken (proceed_failsWith (readOperand_failsWith ht))
  · exact onToken (proceed_failsWith (readSubject_failsWith ht))
  · exact onToken (proceed_failsWith (readModulus_failsWith ht))
  · exact onToken (proceed_failsWith (readOperator_failsWith ht))
  · exact onToken (proceed_failsWith (readIs_failsWith ht))
  · exact onToken (proceed_failsWith (readOtherValue_failsWith ht))
  · exact onToken (proceed_failsWith (readKeyword_failsWith ht))
  · next x ranges hstage =>
    apply proceed_failsWith
    unfold readLow
    split
    · next hdots =>
      exact (refuseRange_failsWith _ _).mono fun e =>
        dots x ranges e hstage (Token.isSymbol_iff.1 hdots)
    · exact ((readValue_failsWith ht).bind fun _ _ => .pure _).mono token
  · exact onToken (connectOrDots_failsWith ht _ _ _ _)
  · next x ranges start low stop hstage =>
    refine (proceed_failsWith (readHigh_failsWith ht _ _ _ _)).mono fun e he => ?_
    rcases he with ⟨hkind, hrefuses⟩ | ⟨digits, hnumber, hlow, hrefuses⟩
    · exact noHigh x ranges start low stop e hstage hkind hrefuses
    · exact inverted x ranges start low stop digits e hstage hnumber hlow hrefuses
  · exact onToken (connectOrList_failsWith ht _)
  · exact onToken (connect_failsWith ht _)

/-- **What a step blames.** A step that has no answer blames its token, or the range at hand. -/
theorem step_failsWith (ht : t.IsOf source) :
    FailsWith (s.Refuses source t next) (s.step source t next) := by
  refine step_failsWith_of ht ?token ?dots ?noHigh ?inverted
  case token =>
    intro e hrefuses
    exact .token (hrefuses.blamesToken ht)
  case dots =>
    intro x ranges e hstage hdots hrefuses
    exact .dots hstage hdots hrefuses.blamesRange
  case noHigh =>
    intro x ranges start low stop e hstage hkind hrefuses
    exact .noHigh hstage hkind hrefuses.blamesRange
  case inverted =>
    intro x ranges start low stop digits e hstage hnumber hlow hrefuses
    exact .inverted hstage hnumber hlow hrefuses.blamesRange

end State

end Rule

end Numerus
