import Numerus.Proofs.RoundTrip
import Numerus.Proofs.Shallow

/-!
What becomes of conditions without rule text.

The grammar has no text for three kinds of conditions: for one that contains the constant that never
holds, for one with a disjunction somewhere below a conjunction, and for one that contains the
constant that always holds below others. Writing refuses the first two, wherever they are, although
it looks for a disjunction only right below a conjunction. The third it does not refuse: the
constant becomes an empty text beside "and" or "or", and what is written has fewer operands than
these join, so it is no rule. Apart from that what is written is a rule with the truth of the
condition.

* `Condition.write_eq_ok` — what is written, and of which conditions.
* `Condition.balance_lexemes`, `Rule.Grammar.IsDisjunction.balance_eq` — the count of operands that
  tells texts with constants from rules.
* `Condition.written_as_rule_unless_constant` — which conditions are refused, and which are written
  as texts that compile.
* `Condition.constant_written_not_rule` — a constant that is written below a conjunction.
-/

namespace Numerus

open Rule Rule.Grammar

/-! ### Conditions without rule text -/

namespace Condition

/-- The constants of a condition in their order. -/
def constants : Condition → List Bool
  | relation _ => []
  | and left right => left.constants ++ right.constants
  | or left right => left.constants ++ right.constants
  | literal value => [value]

/-- Whether the condition contains a disjunction. -/
def HasOr : Condition → Prop
  | relation _ => False
  | and left right => left.HasOr ∨ right.HasOr
  | or .. => True
  | literal _ => False

/-- Whether the condition contains a disjunction below a conjunction, at whatever distance. -/
def HasOrBelowAnd : Condition → Prop
  | relation _ => False
  | and left right => left.HasOr ∨ right.HasOr
  | or left right => left.HasOrBelowAnd ∨ right.HasOrBelowAnd
  | literal _ => False

variable {c : Condition} {t : Text}

theorem isConjunctive_iff : c.IsConjunctive ↔ c.constants = [] ∧ ¬ c.HasOr := by
  induction c with
  | relation => simp [IsConjunctive, constants, HasOr]
  | and left right ihl ihr =>
    rw [IsConjunctive, ihl, ihr, constants, HasOr, List.append_eq_nil_iff, not_or,
      and_and_and_comm]
  | or => simp [IsConjunctive, HasOr]
  | literal => simp [IsConjunctive, constants]

/-- Conditions of relations with no disjunction below a conjunction have neither constants nor such
a disjunction. -/
theorem isGrouped_iff : c.IsGrouped ↔ c.constants = [] ∧ ¬ c.HasOrBelowAnd := by
  induction c with
  | relation => simp [IsGrouped, constants, HasOrBelowAnd]
  | and left right =>
    rw [IsGrouped, isConjunctive_iff, isConjunctive_iff, constants, HasOrBelowAnd,
      List.append_eq_nil_iff, not_or, and_and_and_comm]
  | or left right ihl ihr =>
    rw [IsGrouped, ihl, ihr, constants, HasOrBelowAnd, List.append_eq_nil_iff, not_or,
      and_and_and_comm]
  | literal => simp [IsGrouped, constants]

/-- A disjunction in a condition stands below a conjunction or right at its root. -/
theorem not_hasOr (hroot : c.isOr = false) (hbelow : ¬ c.HasOrBelowAnd) : ¬ c.HasOr := by
  cases c with
  | and => exact hbelow
  | or => cases hroot
  | _ => exact id

end Condition

/-! ### What is written -/

theorem Numeral.text_of_write {n : Nat} {t : Text} (h : write n = .ok t) : t = ofNat n := by
  unfold write at h
  split at h
  · exact (Except.ok.inj h).symm.trans (if_neg (by omega))
  · cases h

theorem Range.text_of_write {r : Range} {t : Text} (h : r.write = .ok t) : t = r.text := by
  unfold Range.write at h
  unfold Range.text
  split at h
  · next hsingle =>
    rw [if_pos hsingle]
    exact Numeral.text_of_write h
  · next hpair =>
    simp only [bind_eq_ok_iff, pure_eq_ok_iff] at h
    obtain ⟨low, hlow, high, hhigh, rfl⟩ := h
    rw [if_neg hpair, Numeral.text_of_write hlow, Numeral.text_of_write hhigh]

theorem Range.texts_of_mapM_write {rs : List Range} {ts : List Text}
    (h : rs.mapM Range.write = .ok ts) : ts = rs.map Range.text := by
  induction rs generalizing ts with
  | nil =>
    cases h
    rfl
  | cons r rs ih =>
    simp only [List.mapM_cons, bind_eq_ok_iff, pure_eq_ok_iff] at h
    obtain ⟨t, ht, ts, hts, rfl⟩ := h
    rw [Range.text_of_write ht, ih hts, List.map_cons]

theorem Subject.expressionText_of_expression {s : Subject} {t : Text}
    (h : s.expression = .ok t) : t = s.expressionText := by
  cases hm : s.modulus with
  | none =>
    rw [expression, hm] at h
    rw [expressionText, hm]
    exact (Except.ok.inj h).symm
  | some m =>
    rw [expression, hm] at h
    rw [expressionText, hm]
    simp only [bind_eq_ok_iff, pure_eq_ok_iff] at h
    obtain ⟨digits, hdigits, rfl⟩ := h
    rw [Numeral.text_of_write hdigits]

theorem Relation.text_of_write {r : Relation} {t : Text} (h : r.write = .ok t) : t = r.text := by
  simp only [write, bind_eq_ok_iff, pure_eq_ok_iff] at h
  obtain ⟨expression, hexpression, ranges, hranges, rfl⟩ := h
  rw [text, Subject.expressionText_of_expression hexpression, Range.texts_of_mapM_write hranges]

/-- A relation that is not written has a number that is too long. -/
theorem Relation.write_failsWith (r : Relation) :
    FailsWith (· = .invalid .numberTooLong) r.write := by
  have hexpression : FailsWith (· = .invalid .numberTooLong) r.expression := by
    unfold Subject.expression
    split
    · exact (Numeral.write_failsWith _).bind fun _ _ => .pure _
    · exact .ok _
  have hrange (s : Range) : FailsWith (· = .invalid .numberTooLong) s.write := by
    unfold Range.write
    refine .ite (Numeral.write_failsWith _) ?_
    exact (Numeral.write_failsWith _).bind fun _ _ =>
      (Numeral.write_failsWith _).bind fun _ _ => .pure _
  rw [write]
  exact hexpression.bind fun _ _ => (FailsWith.mapM fun s _ => hrange s).bind fun _ _ => .pure _

namespace Condition

variable {c d : Condition} {t : Text}

/-- Both sides of a conjunction that is written are written, and neither is a disjunction. -/
theorem write_and_eq_ok (h : (and c d).write = .ok t) :
    c.isOr = false ∧ d.isOr = false ∧
      ∃ tc td, c.write = .ok tc ∧ d.write = .ok td ∧ t = tc ++ " and " ++ td := by
  simp only [write] at h
  cases hc : c.isOr with
  | true =>
    rw [hc] at h
    cases h
  | false =>
    rw [hc, if_neg Bool.false_ne_true, bind_eq_ok_iff] at h
    obtain ⟨tc, htc, h⟩ := h
    cases hd : d.isOr with
    | true =>
      rw [hd] at h
      cases h
    | false =>
      rw [hd, if_neg Bool.false_ne_true, bind_eq_ok_iff] at h
      obtain ⟨td, htd, h⟩ := h
      exact ⟨rfl, rfl, tc, td, htc, htd, (Except.ok.inj h).symm⟩

/-- What is written is the text of the condition, and the condition contains neither the constant
that never holds nor a disjunction below a conjunction. -/
theorem write_eq_ok (h : c.write = .ok t) :
    t = c.text ∧ false ∉ c.constants ∧ ¬ c.HasOrBelowAnd := by
  induction c generalizing t with
  | relation r => exact ⟨Relation.text_of_write h, by simp [constants], id⟩
  | and left right ihl ihr =>
    obtain ⟨horl, horr, tl, tr, hl, hr, rfl⟩ := write_and_eq_ok h
    obtain ⟨rfl, hfalsel, hbelowl⟩ := ihl hl
    obtain ⟨rfl, hfalser, hbelowr⟩ := ihr hr
    refine ⟨rfl, ?_, ?_⟩
    · simp [constants, hfalsel, hfalser]
    · simp [HasOrBelowAnd, not_hasOr horl hbelowl, not_hasOr horr hbelowr]
  | or left right ihl ihr =>
    simp only [write, bind_eq_ok_iff, pure_eq_ok_iff] at h
    obtain ⟨tl, hl, tr, hr, rfl⟩ := h
    obtain ⟨rfl, hfalsel, hbelowl⟩ := ihl hl
    obtain ⟨rfl, hfalser, hbelowr⟩ := ihr hr
    refine ⟨rfl, ?_, ?_⟩
    · simp [constants, hfalsel, hfalser]
    · simp [HasOrBelowAnd, hbelowl, hbelowr]
  | literal value =>
    cases value with
    | false => cases h
    | true => exact ⟨(Except.ok.inj h).symm, by simp [constants], id⟩

/-- A condition that is not written is refused as invalid. -/
theorem write_failsWith (c : Condition) :
    FailsWith (fun e => ∃ fault, e = .invalid fault) c.write := by
  induction c with
  | relation r => exact r.write_failsWith.mono fun e he => ⟨_, he⟩
  | and left right ihl ihr =>
    rw [write]
    refine .ite (.error ⟨_, rfl⟩) (ihl.bind fun _ _ => ?_)
    exact .ite (.error ⟨_, rfl⟩) (ihr.bind fun _ _ => .pure _)
  | or left right ihl ihr =>
    rw [write]
    exact ihl.bind fun _ _ => ihr.bind fun _ _ => .pure _
  | literal value =>
    cases value with
    | false => exact .error ⟨_, rfl⟩
    | true => exact .ok _

end Condition

/-! ### Counting operands -/

namespace Lexeme

/-- An operand counts one, and a word that joins relations takes one off. -/
def balance : Lexeme → Int
  | .word letters =>
    if (Operand.ofSymbol? letters).isSome then 1
    else if letters = "and".toList ∨ letters = "or".toList then -1
    else 0
  | _ => 0

/-- The operands of some lexemes less the words that join relations. -/
def balanceOf : List Lexeme → Int
  | [] => 0
  | l :: ls => l.balance + balanceOf ls

@[simp] theorem balanceOf_nil : balanceOf [] = 0 := rfl

@[simp] theorem balanceOf_cons (l : Lexeme) (ls : List Lexeme) :
    balanceOf (l :: ls) = l.balance + balanceOf ls := rfl

@[simp] theorem balanceOf_append (ls ls' : List Lexeme) :
    balanceOf (ls ++ ls') = balanceOf ls + balanceOf ls' := by
  induction ls with
  | nil => exact (Int.zero_add _).symm
  | cons l ls ih => rw [List.cons_append, balanceOf_cons, balanceOf_cons, ih, Int.add_assoc]

@[simp] theorem balance_symbol_word (x : Operand) : (word x.symbol).balance = 1 := by
  simp [balance]

@[simp] theorem balance_number (digits : Text) : (number digits).balance = 0 := rfl

@[simp] theorem balance_symbol (characters : Text) : (symbol characters).balance = 0 := rfl

theorem balance_and : (word "and").balance = -1 := by decide

theorem balance_or : (word "or").balance = -1 := by decide

end Lexeme

namespace Rule.Grammar

variable {ls : List Lexeme} {c : Condition}

theorem IsExpression.balance_eq {x : Operand} {modulus : Option Modulus}
    (h : IsExpression ls x modulus) : Lexeme.balanceOf ls = 1 := by
  cases h with
  | plain => simp
  | @reduced _ sign _ hsign =>
    have : sign.balance = 0 := by rcases hsign with rfl | rfl <;> decide
    simp [this]

theorem IsOperator.balance_eq {negated within : Bool} (h : IsOperator ls negated within) :
    Lexeme.balanceOf ls = 0 := by
  cases h <;> decide

theorem IsSubject.balance_eq {s : Subject} (h : IsSubject ls s) : Lexeme.balanceOf ls = 1 := by
  obtain ⟨he, ho⟩ := h
  simp [he.balance_eq, ho.balance_eq]

theorem IsRange.balance_eq {r : Range} (h : IsRange ls r) : Lexeme.balanceOf ls = 0 := by
  cases h <;> simp

theorem IsRangeList.balance_eq {rs : List Range} (h : IsRangeList ls rs) :
    Lexeme.balanceOf ls = 0 := by
  induction h with
  | one hr => exact hr.balance_eq
  | more _ hr ih => simp [ih, hr.balance_eq]

/-- A relation has one operand, and no word that joins relations. -/
theorem IsRelation.balance_eq {r : Relation} (h : IsRelation ls r) : Lexeme.balanceOf ls = 1 := by
  cases h with
  | list hs hrs => rw [Lexeme.balanceOf_append, hs.balance_eq, hrs.balance_eq, Int.add_zero]
  | is _ he =>
    rw [Lexeme.balanceOf_append, he.balance_eq]
    rfl
  | isNot _ he =>
    rw [Lexeme.balanceOf_append, he.balance_eq]
    rfl

theorem IsConjunction.balance_eq (h : IsConjunction ls c) : Lexeme.balanceOf ls = 1 := by
  induction h with
  | one hr => exact hr.balance_eq
  | and _ hr ih =>
    rw [Lexeme.balanceOf_append, Lexeme.balanceOf_cons, ih, hr.balance_eq]
    rfl

/-- Relations joined by "and" and "or" have one operand more than there are such words. -/
theorem IsDisjunction.balance_eq (h : IsDisjunction ls c) : Lexeme.balanceOf ls = 1 := by
  induction h with
  | one hc => exact hc.balance_eq
  | or _ hd ih =>
    rw [Lexeme.balanceOf_append, Lexeme.balanceOf_cons, ih, hd.balance_eq]
    rfl

end Rule.Grammar

namespace Condition

variable {c d : Condition} {t : Text}

/-- What is written for a condition lacks one operand for each of its constants. -/
theorem balance_lexemes (c : Condition) :
    Lexeme.balanceOf c.lexemes = 1 - c.constants.length := by
  induction c with
  | relation r => simp [lexemes, constants, r.isRelation.balance_eq]
  | and left right ihl ihr =>
    simp only [lexemes, constants, Lexeme.balanceOf_append, Lexeme.balanceOf_cons, ihl, ihr,
      Lexeme.balance_and, List.length_append]
    omega
  | or left right ihl ihr =>
    simp only [lexemes, constants, Lexeme.balanceOf_append, Lexeme.balanceOf_cons, ihl, ihr,
      Lexeme.balance_or, List.length_append]
    omega
  | literal => rfl

/-- Only a constant is written without lexemes. -/
theorem exists_of_lexemes_eq_nil (h : c.lexemes = []) : ∃ value, c = literal value := by
  cases c with
  | relation r => exact absurd h r.isRelation.ne_nil
  | literal value => exact ⟨value, rfl⟩
  | _ => simp [lexemes] at h

/-- The lexemes of a condition with a constant below others are no rule. -/
theorem constants_eq_nil_of_isRule (h : IsRule c.lexemes d) :
    c.constants = [] ∨ ∃ value, c = literal value := by
  by_cases hne : c.lexemes = []
  · exact .inr (exists_of_lexemes_eq_nil hne)
  · have hbalance := (h.isDisjunction hne).balance_eq
    rw [balance_lexemes] at hbalance
    exact .inl (List.eq_nil_of_length_eq_zero (by omega))

/-! ### What is written and compiled -/

/-- A text that is written compiles exactly if the condition has no constant or is the one that
always holds. -/
theorem exists_compile_write_iff (h : c.write = .ok t) (hlength : t.length ≤ lengthLimit) :
    (∃ d, compile t = .ok d) ↔ (true ∈ c.constants → c = .always) := by
  obtain ⟨rfl, hfalse, hbelow⟩ := write_eq_ok h
  have hlexes := c.lexes_before_text
  constructor
  · -- The operands that the constants lack are missed wherever there is anything else.
    rintro ⟨d, hd⟩ htrue
    rcases constants_eq_nil_of_isRule ((compile_eq_ok_iff hlength hlexes).1 hd) with
      hnil | ⟨value, rfl⟩
    · rw [hnil] at htrue
      cases htrue
    · cases value with
      | true => rfl
      | false => simp [constants] at hfalse
  · intro halways
    by_cases hnil : c.constants = []
    · exact ⟨_, compile_text (isGrouped_iff.2 ⟨hnil, hbelow⟩) hlength⟩
    · obtain ⟨value, hvalue⟩ := List.exists_mem_of_ne_nil _ hnil
      cases value with
      | true =>
        obtain rfl := halways hvalue
        exact ⟨_, (compile_eq_ok_iff hlength hlexes).2 .blank⟩
      | false => exact absurd hvalue hfalse

/-- What compiles of the texts that are written has the truth of the condition. -/
theorem tells_of_compile_write (h : c.write = .ok t) (hlength : t.length ≤ lengthLimit)
    (hd : compile t = .ok d) (o : Operands) :
    d.Tells o (c.holds o) ∧ c.Tells o (c.holds o) := by
  have halways := (exists_compile_write_iff h hlength).1 ⟨d, hd⟩
  have htells := tells_of_compile hd o
  obtain ⟨rfl, hfalse, hbelow⟩ := write_eq_ok h
  by_cases hnil : c.constants = []
  · have hgrouped := isGrouped_iff.2 ⟨hnil, hbelow⟩
    obtain rfl := Except.ok.inj ((compile_text hgrouped hlength).symm.trans hd)
    rw [holds_reassociated] at htells
    exact ⟨htells, hgrouped.tells hlength o⟩
  · obtain ⟨value, hvalue⟩ := List.exists_mem_of_ne_nil _ hnil
    cases value with
    | true =>
      obtain rfl := halways hvalue
      have hblank := (compile_eq_ok_iff hlength (lexes_before_text _)).2 .blank
      obtain rfl := Except.ok.inj (hblank.symm.trans hd)
      exact ⟨htells, htells⟩
    | false => exact absurd hvalue hfalse

/-- A condition that no text is written for is refused, as invalid unless it is too deep. -/
theorem exists_writeWithin_eq_error (h : ∀ t, c.write ≠ .ok t) (room : Nat) :
    ∃ e, c.writeWithin room = .error e ∧ (e = .tooDeep ∨ ∃ fault, e = .invalid fault) ∧
      (2 * c.depth + writingSteps < room → e ≠ .tooDeep) := by
  obtain ⟨fault, hfault⟩ : ∃ fault, c.write = .error (.invalid fault) := by
    cases hwrite : c.write with
    | ok t => exact absurd hwrite (h t)
    | error e =>
      obtain ⟨fault, rfl⟩ := c.write_failsWith e hwrite
      exact ⟨fault, rfl⟩
  rcases writeWithin_eq room c with hdeep | hwrite
  · refine ⟨_, hdeep, .inl rfl, fun hroom => ?_⟩
    rw [writeWithin_of_depth_lt hroom, hfault] at hdeep
    cases hdeep
  · exact ⟨_, hwrite.trans hfault, .inr ⟨fault, rfl⟩, fun _ => Failure.noConfusion⟩

/-- **What is written is a rule, apart from constants.** A condition that contains the constant that
never holds, or a disjunction anywhere below a conjunction, is refused, and as invalid unless it is
too deep for the room that there is. Of the conditions that are written with admitted length, those
that contain the constant that always holds below others are written as texts that do not compile,
and all others as texts that do, into conditions of the same truth. -/
theorem written_as_rule_unless_constant (c : Condition) (room : Nat) :
    (false ∈ c.constants ∨ c.HasOrBelowAnd →
      ∃ e, c.writeWithin room = .error e ∧ (e = .tooDeep ∨ ∃ fault, e = .invalid fault) ∧
        (2 * c.depth + writingSteps < room → e ≠ .tooDeep)) ∧
    ∀ t, c.writeWithin room = .ok t → t.length ≤ lengthLimit →
      ((∃ d, compile t = .ok d) ↔ (true ∈ c.constants → c = .always)) ∧
      ∀ d, compile t = .ok d → ∀ o, d.Tells o (c.holds o) ∧ c.Tells o (c.holds o) := by
  constructor
  · intro hunwritable
    refine exists_writeWithin_eq_error (fun t h => ?_) room
    obtain ⟨-, hfalse, hbelow⟩ := write_eq_ok h
    exact hunwritable.elim hfalse hbelow
  · intro t h hlength
    have hwrite : c.write = .ok t := by
      rcases writeWithin_eq room c with hdeep | hwrite
      · rw [hdeep] at h
        cases h
      · rwa [hwrite] at h
    exact ⟨exists_compile_write_iff hwrite hlength,
      fun d hd => tells_of_compile_write hwrite hlength hd⟩

/-- The relation `n = 2`. -/
def isTwo : Condition := relation ⟨{ operand := .n }, [.single 2], List.cons_ne_nil _ _⟩

theorem write_isTwo : isTwo.write = .ok "n = 2".toList :=
  Relation.write_eq_text (r := ⟨{ operand := .n }, [.single 2], List.cons_ne_nil _ _⟩) (by decide)

/-- A disjunction two levels below a conjunction is refused; above one it is written, and compiles
back. -/
theorem written_as_rule_unless_constant_or :
    (∃ fault, (and isTwo (and (or isTwo isTwo) isTwo)).writeWithin 1000 =
      .error (.invalid fault)) ∧
    (or (and isTwo isTwo) isTwo).writeWithin 1000 = .ok "n = 2 and n = 2 or n = 2".toList ∧
      ∃ d, compile "n = 2 and n = 2 or n = 2" = .ok d := by
  have hwrite : (or (and isTwo isTwo) isTwo).writeWithin 1000 =
      .ok "n = 2 and n = 2 or n = 2".toList := by
    rw [writeWithin_of_depth_lt (by decide), write, write, write_isTwo]
    rfl
  refine ⟨?_, hwrite, ((written_as_rule_unless_constant _ _).2 _ hwrite (by decide)).1.2 (by decide)⟩
  obtain ⟨e, herror, hdeep | ⟨fault, rfl⟩, hroom⟩ :=
    (written_as_rule_unless_constant (and isTwo (and (or isTwo isTwo) isTwo)) 1000).1
      (.inr (.inr (.inl trivial)))
  · exact absurd hdeep (hroom (by decide))
  · exact ⟨fault, herror⟩

/-- The constant that always holds is written below a conjunction, as nothing. What is written is no
rule. -/
theorem constant_written_not_rule :
    (and always isTwo).writeWithin 1000 = .ok " and n = 2".toList ∧
      " and n = 2".toList.length ≤ lengthLimit ∧ ∀ d, compile " and n = 2" ≠ .ok d := by
  have hwrite : (and always isTwo).write = .ok " and n = 2".toList := by
    rw [write, write_isTwo]
    rfl
  refine ⟨?_, by decide, fun d hd => ?_⟩
  · rw [writeWithin_of_depth_lt (by decide), hwrite]
  · have halways := (exists_compile_write_iff hwrite (by decide)).1 ⟨d, hd⟩ (by decide)
    cases halways

end Condition

end Numerus
