import Mathlib
import Numerus.Proofs.Acceptance
import Numerus.Proofs.Beginnings
import Numerus.Proofs.Refusals

/-!
Rule texts are refused at the first wrong token.

A run takes one token after the other, so a text is refused where a step has no answer. What was
read before begins a rule, since every stage can be completed; and no rule goes on with the refused
token, since a rule that did would have driven the run on. A range is blamed as a whole: what no
rule goes on with is then the token after its dots, or the dots themselves if they have no low end.

* `State.Leads` — the tokens that have been read on the way to a state.
* `State.Leads.cannotFollow` — a token without an answer cannot follow what was read.
* `State.Leads.of_high` — the way to a high end leads over the low end and the dots.
* `refused_at_first_wrong_token` — where and why rule texts are refused.
-/

namespace Numerus

namespace Token

/-- The lexemes of tokens; the end has none. -/
def lexemes (ts : List Token) : List Lexeme := ts.filterMap lexeme?

theorem lexemes_append (ts ts' : List Token) : lexemes (ts ++ ts') = lexemes ts ++ lexemes ts' :=
  List.filterMap_append

theorem lexemes_singleton {t : Token} {l : Lexeme} (h : t.lexeme? = some l) : lexemes [t] = [l] := by
  simp [lexemes, h]

theorem text_of_lexeme? {t : Token} {l : Lexeme} (h : t.lexeme? = some l) : l.text = t.text := by
  cases t with
  | mk kind text position =>
    cases kind <;> simp only [lexeme?, Option.some.injEq, reduceCtorEq] at h <;> subst h <;> rfl

end Token

namespace Rule

open Grammar
open Token (lexemes)

namespace State

variable {source : Text} {ts rest : List Token} {t : Token} {next : Option Token} {s s' : State}

/-- `Leads source ts s`: reading the tokens `ts` of the rule text leads to the state `s`. -/
inductive Leads (source : Text) : List Token → State → Prop where
  | start : Leads source [] {}
  | step {ts : List Token} {t : Token} {next : Option Token} {s s' : State} :
      Leads source ts s → s.step source t next = .ok (.next s') → Leads source (ts ++ [t]) s'

/-! ### What has been read -/

theorem Leads.reads (h : Leads source ts s) : s.Reads (lexemes ts) := by
  induction h with
  | start => exact reads_start
  | step _ hstep ih =>
    obtain ⟨l, hl, hreads⟩ := ih.step hstep
    rw [Token.lexemes_append, Token.lexemes_singleton hl]
    exact hreads

/-- A rule that begins with what has been read is accepted from there. -/
theorem Leads.accepts {ls : List Lexeme} {c : Condition} (h : Leads source ts s)
    (hts : ∀ t ∈ ts, t.IsOf source) (haccepts : Accepts {} (lexemes ts ++ ls) c) :
    s.Accepts ls c := by
  induction h generalizing ls with
  | start => exact haccepts
  | @step ts t next s s' hleads hstep ih =>
    obtain ⟨l, hl, -⟩ := hleads.reads.step hstep
    rw [Token.lexemes_append, Token.lexemes_singleton hl, List.append_assoc] at haccepts
    have hs := ih (fun u hu => hts u (by simp [hu])) haccepts
    have hshort : l.text.length ≤ Fault.digitLimit := by
      rw [Token.text_of_lexeme? hl]
      exact (hts t (by simp)).length_le
    obtain ⟨s'', hstep', hrest⟩ := hs source t next hl hshort
    rw [hstep] at hstep'
    cases hstep'
    exact hrest

/-- A token without an answer cannot follow what was read. The end is not refused before anything
was read. -/
theorem Leads.cannotFollow {e : Failure} (h : Leads source ts s) (hts : ∀ t ∈ ts, t.IsOf source)
    (ht : t.IsOf source) (hstart : t.lexeme? = none → lexemes ts ≠ [])
    (hstep : s.step source t next = .error e) : CannotFollow (lexemes ts) t := by
  unfold CannotFollow
  split
  · next l hl =>
    rintro ⟨rest, c, hrule⟩
    have hdrives := accepts_of_isDisjunction (hrule.isDisjunction (by simp))
    rw [List.append_assoc] at hdrives
    have hshort : l.text.length ≤ Fault.digitLimit := by
      rw [Token.text_of_lexeme? hl]
      exact ht.length_le
    obtain ⟨s', hanswer, -⟩ := h.accepts hts hdrives source t next hl hshort
    rw [hstep] at hanswer
    cases hanswer
  · next hl =>
    intro c hrule
    have hdrives := accepts_of_isDisjunction (hrule.isDisjunction (hstart hl))
    rw [← List.append_nil (lexemes ts)] at hdrives
    have hanswer := h.accepts hts hdrives source t next hl
    rw [hstep] at hanswer
    cases hanswer

/-! ### Where a run ends -/

/-- A run without an answer comes to a token that a step refuses. -/
theorem Leads.run_error {ls : List Lexeme} {before : List Token} {e : Failure}
    (h : Leads source before s) (hts : Token.StandFor ts ls)
    (hrun : run source s ts = .error e) :
    ∃ read t rest s', before ++ ts = read ++ t :: rest ∧ Leads source read s' ∧
      s'.step source t rest.head? = .error e := by
  induction hts generalizing before s with
  | @stop t hstop =>
    cases hstep : s.step source t ([] : List Token).head? with
    | error e' =>
      rw [State.run_error hstep] at hrun
      cases hrun
      exact ⟨before, t, [], s, rfl, h, hstep⟩
    | ok outcome =>
      have hfollows := h.reads.step hstep
      cases outcome with
      | next s' =>
        obtain ⟨l, hl, -⟩ := hfollows
        rw [hstop] at hl
        cases hl
      | done c =>
        rw [run_done hstep] at hrun
        cases hrun
  | @cons t l ts ls hl _ ih =>
    cases hstep : s.step source t ts.head? with
    | error e' =>
      rw [State.run_error hstep] at hrun
      cases hrun
      exact ⟨before, t, ts, s, rfl, h, hstep⟩
    | ok outcome =>
      cases outcome with
      | next s' =>
        rw [run_next hstep] at hrun
        have := ih (.step h hstep) hrun
        rwa [List.append_assoc] at this
      | done c =>
        rw [run_done hstep] at hrun
        cases hrun

/-! ### The way to a high end -/

/-- A low end is read where a range is wanted, and a high end is wanted after dots. Of all steps no
other leads to these two stages. -/
theorem stage_before_step (hstep : s.step source t next = .ok (.next s')) :
    (∀ x ranges start low, s'.stage = .low x ranges start low →
      s.stage = .range x ranges ∧ t.position = start ∧
        ∃ digits, t.lexeme? = some (.number digits) ∧ low = Numeral.value digits) ∧
    ∀ x ranges start low stop, s'.stage = .high x ranges start low stop →
      s.stage = .low x ranges start low ∧ t.stop = stop ∧
        t.lexeme? = some (.symbol ['.', '.']) := by
  unfold step at hstep
  split at hstep
  all_goals
    simp only [proceed_eq_ok_iff, readOperand_eq_ok_iff, readSubject_eq_ok_iff,
      readModulus_eq_ok_iff, readOperator_eq_ok_iff, readIs_eq_ok_iff, readOtherValue_eq_ok_iff,
      readKeyword_eq_ok_iff, readLow_eq_ok_iff, readHigh_eq_ok_iff, connectOrDots_eq_ok_iff,
      connectOrList_eq_ok_iff, connect_eq_ok_iff] at hstep
  all_goals
    constructor
    · grind
    · grind

variable {x : Subject} {ranges : List Range} {start low stop : Nat}

theorem Leads.of_low (h : Leads source ts s) (hstage : s.stage = .low x ranges start low) :
    ∃ before number s', ts = before ++ [number] ∧ Leads source before s' ∧
      s'.stage = .range x ranges ∧ number.position = start ∧
      ∃ digits, number.lexeme? = some (.number digits) ∧ low = Numeral.value digits := by
  cases h with
  | start => cases hstage
  | step hleads hstep =>
    obtain ⟨hrange, hposition, hnumber⟩ := (stage_before_step hstep).1 _ _ _ _ hstage
    exact ⟨_, _, _, rfl, hleads, hrange, hposition, hnumber⟩

/-- The way to a high end leads over the low end and the dots. -/
theorem Leads.of_high (h : Leads source ts s) (hstage : s.stage = .high x ranges start low stop) :
    ∃ before number dots s', ts = before ++ [number, dots] ∧ Leads source before s' ∧
      s'.stage = .range x ranges ∧ number.position = start ∧ dots.stop = stop ∧
      (∃ digits, number.lexeme? = some (.number digits) ∧ low = Numeral.value digits) ∧
      dots.lexeme? = some (.symbol ['.', '.']) := by
  cases h with
  | start => cases hstage
  | step hleads hstep =>
    obtain ⟨hlow, hstop, hdots⟩ := (stage_before_step hstep).2 _ _ _ _ _ hstage
    obtain ⟨before, number, s', rfl, hleads, hrange, hposition, hnumber⟩ := hleads.of_low hlow
    exact ⟨before, number, _, s', by simp, hleads, hrange, hposition, hstop, hnumber, hdots⟩

end State

/-! ### Rule texts -/

/-- Whether any range may follow the lexemes. -/
def RangeMayFollow (ls : List Lexeme) : Prop := ∀ ls' r, IsRange ls' r → IsBeginning (ls ++ ls')

/-- `RefusedAt before u rest code fragment`: of the tokens `before ++ u :: rest` a diagnostic with
the code is right to mark the fragment at `u`. -/
inductive RefusedAt (before : List Token) : Token → List Token → Code → Text → Prop where
  /-- No rule goes on with the token. -/
  | token {u : Token} {rest : List Token} {code : Code} : code ≠ .invalidRange →
      CannotFollow (lexemes before) u → RefusedAt before u rest code u.text
  /-- No rule goes on with dots where a range is wanted. -/
  | dots {u : Token} {rest : List Token} {fragment : Text} : RangeMayFollow (lexemes before) →
      u.lexeme? = some (.symbol ['.', '.']) → CannotFollow (lexemes before) u →
      RefusedAt before u rest .invalidRange fragment
  /-- No rule goes on with what stands after the dots of the range that opens with the number. -/
  | high {number dots high : Token} {rest : List Token} {digits fragment : Text} :
      RangeMayFollow (lexemes before) → number.lexeme? = some (.number digits) →
      dots.lexeme? = some (.symbol ['.', '.']) →
      CannotFollow (lexemes (before ++ [number, dots])) high →
      RefusedAt before number (dots :: high :: rest) .invalidRange fragment

/-- Where a range is wanted, a range may follow. -/
theorem State.Reads.rangeMayFollow {s : State} {ls : List Lexeme} {x : Subject}
    {ranges : List Range} (h : s.Reads ls) (hstage : s.stage = .range x ranges) :
    RangeMayFollow ls :=
  fun _ _ hr => h.isBeginning_range hstage hr

/-- A token that is no high end for the range at hand, with the tokens that led to it. -/
theorem State.Leads.refusedAt_high {source : Text} {read rest : List Token} {t : Token} {s : State}
    {x : Subject} {ranges : List Range} {start low stop stop' : Nat} {e : Failure}
    (h : State.Leads source read s) (hstage : s.stage = .high x ranges start low stop)
    (hcannot : CannotFollow (lexemes read) t) (hblames : BlamesRange source start stop' e) :
    ∃ d fragment before u rest', read ++ t :: rest = before ++ u :: rest' ∧
      e = .grammar (.diagnosed d) source fragment u.position ∧
      d.Marks source u.position fragment.length ∧ IsBeginning (lexemes before) ∧
      RefusedAt before u rest' d.code fragment := by
  obtain ⟨before, number, dots, s', rfl, hleads, hrange, rfl, -, ⟨digits, hnumber, -⟩, hdots⟩ :=
    h.of_high hstage
  obtain ⟨hmarks, hcode⟩ := hblames
  have hfollow : RangeMayFollow (lexemes before) := hleads.reads.rangeMayFollow hrange
  exact ⟨_, _, before, number, dots :: t :: rest, by simp, rfl, hmarks, hleads.reads.isBeginning,
    hcode ▸ .high hfollow hnumber hdots hcannot⟩

/-- A step without an answer, with the tokens that led to it. -/
theorem State.Leads.refusedAt {source : Text} {read rest : List Token} {t : Token} {s : State}
    {e : Failure} (h : State.Leads source read s) (hread : ∀ t ∈ read, t.IsOf source)
    (ht : t.IsOf source) (hstart : t.lexeme? = none → lexemes read ≠ [])
    (hstep : s.step source t rest.head? = .error e) :
    ∃ d fragment before u rest', read ++ t :: rest = before ++ u :: rest' ∧
      e = .grammar (.diagnosed d) source fragment u.position ∧
      d.Marks source u.position fragment.length ∧ IsBeginning (lexemes before) ∧
      RefusedAt before u rest' d.code fragment := by
  have hcannot := h.cannotFollow hread ht hstart hstep
  cases State.step_failsWith ht e hstep with
  | token hblames =>
    obtain ⟨hmarks, hcode⟩ := hblames
    exact ⟨_, _, read, t, rest, rfl, rfl, hmarks, h.reads.isBeginning, .token hcode hcannot⟩
  | dots hstage hdots hblames =>
    obtain ⟨hmarks, hcode⟩ := hblames
    have hrange : RangeMayFollow (lexemes read) := h.reads.rangeMayFollow hstage
    exact ⟨_, _, read, t, rest, rfl, rfl, hmarks, h.reads.isBeginning,
      hcode ▸ .dots hrange hdots hcannot⟩
  | noHigh hstage _ hblames => exact h.refusedAt_high hstage hcannot hblames
  | inverted hstage _ _ hblames => exact h.refusedAt_high hstage hcannot hblames

/-- A rule text that is refused has a token, and a run over its tokens has no answer. -/
theorem run_of_compile_error {t : Text} {e : Failure} (hlength : t.length ≤ lengthLimit)
    (h : compile t = .error e) :
    (∀ first ∈ (Token.ofText t).head?, first.lexeme? ≠ none) ∧
      State.run t {} (Token.ofText t) = .error e := by
  obtain ⟨ls, hls⟩ := Lexes.exists (t.before '@')
  have hts : Token.StandFor (Token.ofText t) ls := Token.standFor_scan hls 0
  rw [compile, if_neg (Nat.not_lt.2 hlength), ofTokens] at h
  generalize Token.ofText t = ts at hts h
  cases hts with
  | stop hstop =>
    simp [Token.lexeme?_eq_none_iff.1 hstop] at h
  | @cons first l ts _ hl =>
    have hkind : first.kind ≠ .stop := by
      intro hstop
      rw [Token.lexeme?_eq_none_iff.2 hstop] at hl
      cases hl
    refine ⟨?_, by simpa [hkind] using h⟩
    rintro _ ⟨⟩
    simp [hl]

/-- A rule text that is refused has a token that a step refuses, and this is not its end if it is
the first one. -/
theorem exists_step_error {t : Text} {e : Failure} (hlength : t.length ≤ lengthLimit)
    (h : compile t = .error e) :
    ∃ read wrong rest s, Token.ofText t = read ++ wrong :: rest ∧ State.Leads t read s ∧
      (wrong.lexeme? = none → lexemes read ≠ []) ∧
      s.step t wrong rest.head? = .error e := by
  obtain ⟨ls, hls⟩ := Lexes.exists (t.before '@')
  obtain ⟨hfirst, hrun⟩ := run_of_compile_error hlength h
  obtain ⟨read, wrong, rest, s, hread, hleads, hstep⟩ :=
    State.Leads.start.run_error (Token.standFor_scan hls 0) hrun
  refine ⟨read, wrong, rest, s, hread, hleads, ?_, hstep⟩
  intro hstop
  have htokens : Token.ofText t = read ++ wrong :: rest := hread
  rw [htokens] at hfirst
  cases read with
  | nil => exact absurd hstop (hfirst wrong rfl)
  | cons first read =>
    obtain ⟨l, hl⟩ := Option.ne_none_iff_exists'.1 (hfirst first rfl)
    simp [lexemes, hl]

/-- Compiling fails as steps over the tokens of a rule text do, or as a text that is too long is
refused. -/
theorem compile_failsWith_of {P : Failure → Prop} {t : Text}
    (hlong : FailsWith P ((Complaint.ruleTooLong (Numeral.ofNat t.length)
      (Numeral.ofNat lengthLimit)).raise (.grammar · (t.take lengthLimit) [] (-1)) :
        Except Failure Condition))
    (hsteps : ∀ (s : State) u next, u.IsOf t → FailsWith P (s.step t u next)) :
    FailsWith P (compile t) := by
  intro e he
  by_cases hlength : t.length ≤ lengthLimit
  · obtain ⟨read, wrong, rest, s, htokens, -, -, hstep⟩ := exists_step_error hlength he
    have hwrong : wrong.IsOf t := Token.isOf_of_mem_ofText hlength (by simp [htokens])
    exact hsteps s wrong _ hwrong e hstep
  · rw [compile, if_pos (Nat.not_le.1 hlength)] at he
    exact hlong e he

/-- **Rule texts are refused at the first wrong token.** If a rule text of admitted length does not
compile, its tokens are parted at the offset that the failure tells. The tokens before begin a rule.
No rule goes on with them and the token there, or, if a range is at fault, with them and the tokens
of the range up to the one after its dots. If the offset is the end of the rule, they are no rule.
-/
theorem refused_at_first_wrong_token {t : Text} {e : Failure} (hlength : t.length ≤ lengthLimit)
    (h : compile t = .error e) :
    ∃ (d : Diagnostic) (fragment : Text) (before : List Token) (u : Token) (rest : List Token),
      e = .grammar (.diagnosed d) t fragment u.position ∧
      d.Marks t u.position fragment.length ∧
      Token.ofText t = before ++ u :: rest ∧
      (∀ x ∈ before, x.position < u.position) ∧ (∀ x ∈ rest, u.position < x.position) ∧
      (u.lexeme? = none ↔ u.position = (t.before '@').length) ∧
      IsBeginning (lexemes before) ∧ RefusedAt before u rest d.code fragment := by
  obtain ⟨read, wrong, rest', s, hread, hleads, hstart, hstep⟩ := exists_step_error hlength h
  have hof : ∀ x ∈ read ++ wrong :: rest', x.IsOf t := by
    intro x hx
    exact Token.isOf_of_mem_ofText hlength (hread ▸ hx)
  obtain ⟨d, fragment, before, u, rest, hparted, heq, hmarks, hbeginning, hrefused⟩ :=
    hleads.refusedAt (fun x hx => hof x (List.mem_append_left _ hx)) (hof wrong (by simp)) hstart
      hstep
  have htokens : Token.ofText t = before ++ u :: rest := hread.trans hparted
  have hascend := Token.ofText_pairwise t
  rw [htokens, List.pairwise_append, List.pairwise_cons] at hascend
  obtain ⟨-, ⟨hrest, -⟩, hbefore⟩ := hascend
  have hend : u.lexeme? = none ↔ u.position = (t.before '@').length := by
    rcases Token.ofText_stop t u (by simp [htokens]) with rfl | ⟨hsome, hlt⟩
    · exact ⟨fun _ => rfl, fun _ => rfl⟩
    · exact ⟨fun hstop => absurd hstop hsome, fun hposition => absurd hposition (Nat.ne_of_lt hlt)⟩
  exact ⟨d, fragment, before, u, rest, heq, hmarks, htokens,
    fun x hx => hbefore x hx u List.mem_cons_self, hrest, hend, hbeginning, hrefused⟩

/-- The diagnostic on a range with its ends in the wrong order. -/
def invertedRange : Diagnostic where
  code := .invalidRange
  message := "Invalid range '9..03'"
  span := some ⟨10, 15, by decide⟩
  source := some "n = 1..4, 9..03 @integer 1".toList
  hint := some "Ranges are written low..high with low <= high".toList
  helpUrl := some grammarPage

theorem refused_at_first_wrong_token_inverted :
    "n = 1..4, 9..03 @integer 1".toList.length ≤ lengthLimit ∧
      compile "n = 1..4, 9..03 @integer 1" = .error
        (.grammar (.diagnosed invertedRange) "n = 1..4, 9..03 @integer 1" "9..03" 10) ∧
      ∃ before u rest, Token.ofText "n = 1..4, 9..03 @integer 1" = before ++ u :: rest ∧
        u.position = 10 ∧ IsBeginning (lexemes before) ∧
        RefusedAt before u rest .invalidRange "9..03" := by
  have h : compile "n = 1..4, 9..03 @integer 1" = .error
      (.grammar (.diagnosed invertedRange) "n = 1..4, 9..03 @integer 1" "9..03" 10) := by cbv
  have hlength : "n = 1..4, 9..03 @integer 1".toList.length ≤ lengthLimit := by decide
  obtain ⟨d, fragment, before, u, rest, heq, -, htokens, -, -, -, hbeginning, hrefused⟩ :=
    refused_at_first_wrong_token hlength h
  injection heq with hnotice _ hfragment hposition
  cases hnotice
  cases hfragment
  exact ⟨hlength, h, before, u, rest, htokens, (Int.ofNat_inj.1 hposition).symm, hbeginning,
    hrefused⟩

end Rule

end Numerus
