import Numerus.Proofs.Canonical
import Numerus.Proofs.Digits
import Numerus.Proofs.Spacing

/-!
The spellings of conditions.

A condition that is nested to the left can be spelled in many ways: with signs or the words of the
older syntax, a single value with "is" or as a range with two equal bounds, numbers with zeros in
front, spaces wherever they are not needed, and samples at the end. All of these are compiled to the
condition, and nothing else is: what is spelled is what the grammar derives the condition from, with
numbers that have digits.

* `Condition.SpelledAs`, `Condition.IsSpelling` — lexemes and texts that spell a condition.
* `Condition.SpelledAs.isDisjunction`, `Rule.Grammar.IsDisjunction.spelledAs` — what is spelled is
  derived, and what is derived is spelled.
* `Condition.SpelledAs.fit` — of the lexemes that spell a condition only words have to be parted.
* `Condition.compiles_exactly_spellings` — a text compiles to a condition exactly if it spells it.
-/

namespace Numerus

open Rule Rule.Grammar

/-! ### Spellings -/

/-- The number is spelled with the given digits: its own, with any zeros in front. -/
def Numeral.SpelledAs (n : Nat) (digits : Text) : Prop :=
  ∃ zeros, digits = List.replicate zeros '0' ++ ofNat n

namespace Range

/-- The range is spelled as a value, if it has one only, or with both bounds. -/
inductive SpelledAs : Range → List Lexeme → Prop where
  | value {n : Nat} {digits : Text} :
      Numeral.SpelledAs n digits → SpelledAs (.single n) [.number digits]
  | bounds {r : Range} {low high : Text} :
      Numeral.SpelledAs r.low low → Numeral.SpelledAs r.high high →
      SpelledAs r [.number low, .symbol ['.', '.'], .number high]

/-- The ranges are spelled in their order, with commas between them. -/
inductive ListSpelledAs : List Range → List Lexeme → Prop where
  | one {r : Range} {ls : List Lexeme} : r.SpelledAs ls → ListSpelledAs [r] ls
  | more {rs : List Range} {r : Range} {ls ls' : List Lexeme} :
      ListSpelledAs rs ls → r.SpelledAs ls' →
      ListSpelledAs (rs ++ [r]) (ls ++ .symbol [','] :: ls')

end Range

namespace Subject

/-- The operand is spelled with its symbol, and the modulus after a sign or a word. -/
inductive ExpressionSpelledAs : Subject → List Lexeme → Prop where
  | plain {s : Subject} : s.modulus = none → s.ExpressionSpelledAs [.word s.operand.symbol]
  | reduced {s : Subject} {m : Modulus} {sign : Lexeme} {digits : Text} :
      s.modulus = some m → sign = .symbol ['%'] ∨ sign = .word "mod" →
      Numeral.SpelledAs m.val digits →
      s.ExpressionSpelledAs [.word s.operand.symbol, sign, .number digits]

/-- The spellings of an operator before a list of ranges. -/
def operatorSpellings (s : Subject) : List (List Lexeme) :=
  match s.within, s.negated with
  | false, false => [[.symbol ['=']], [.word "in"]]
  | false, true => [[.symbol ['!', '=']], [.word "not", .word "in"]]
  | true, false => [[.word "within"]]
  | true, true => [[.word "not", .word "within"]]

/-- The spelling of an operator before one value. -/
def valueOperator (s : Subject) : List Lexeme :=
  if s.negated then [.word "is", .word "not"] else [.word "is"]

end Subject

/-- The relation is spelled with a list of ranges, or with one value if it has no more. -/
inductive Relation.SpelledAs : Relation → List Lexeme → Prop where
  | list {r : Relation} {ls operator ls' : List Lexeme} :
      r.ExpressionSpelledAs ls → operator ∈ r.operatorSpellings → Range.ListSpelledAs r.ranges ls' →
      r.SpelledAs (ls ++ operator ++ ls')
  | is {r : Relation} {n : Nat} {ls : List Lexeme} {digits : Text} :
      r.within = false → r.ranges = [.single n] → r.ExpressionSpelledAs ls →
      Numeral.SpelledAs n digits → r.SpelledAs (ls ++ r.valueOperator ++ [.number digits])

namespace Condition

/-- The condition is spelled with the words "and" and "or" between its relations; the spelling of
each of them is free. -/
inductive SpelledAs : Condition → List Lexeme → Prop where
  | relation {r : Relation} {ls : List Lexeme} : r.SpelledAs ls → SpelledAs (.relation r) ls
  | and {c d : Condition} {ls ls' : List Lexeme} :
      c.SpelledAs ls → d.SpelledAs ls' → SpelledAs (.and c d) (ls ++ .word "and" :: ls')
  | or {c d : Condition} {ls ls' : List Lexeme} :
      c.SpelledAs ls → d.SpelledAs ls' → SpelledAs (.or c d) (ls ++ .word "or" :: ls')

/-- `c.IsSpelling t`: the text spells the condition, perhaps with samples behind it. -/
inductive IsSpelling (c : Condition) : Text → Prop where
  | plain {t : Text} {ls : List Lexeme} : c.SpelledAs ls → Spaced t ls → c.IsSpelling t
  | sampled {t : Text} {ls : List Lexeme} (samples : Text) :
      c.SpelledAs ls → Spaced t ls → c.IsSpelling (t ++ '@' :: samples)

end Condition

/-! ### Numbers -/

/-- Digits spell the number that they stand for. -/
theorem Numeral.spelledAs_iff {n : Nat} {digits : Text} :
    SpelledAs n digits ↔ Lexeme.HasDigits (.number digits) ∧ value digits = n := by
  constructor
  · rintro ⟨zeros, rfl⟩
    refine ⟨⟨List.append_ne_nil_of_right_ne_nil _ (ofNat_ne_nil n), ?_⟩, ?_⟩
    · intro c hc
      rcases List.mem_append.1 hc with hc | hc
      · exact isDigit_of_mem_zeros hc
      · exact isDigit_of_mem_ofNat hc
    · rw [value_zeros_append, value_ofNat]
  · rintro ⟨⟨hne, hdigits⟩, rfl⟩
    exact exists_eq_zeros_append hne hdigits

theorem Numeral.spelledAs_value {digits : Text} (h : Lexeme.HasDigits (.number digits)) :
    SpelledAs (value digits) digits :=
  spelledAs_iff.2 ⟨h, rfl⟩

/-! ### What is spelled is derived -/

section Derivation

variable {ls : List Lexeme}

theorem Range.SpelledAs.isRange {r : Range} (h : r.SpelledAs ls) : IsRange ls r := by
  cases h with
  | value hn =>
    obtain ⟨-, rfl⟩ := Numeral.spelledAs_iff.1 hn
    exact .single _
  | bounds hlow hhigh =>
    obtain ⟨low, high, hle⟩ := r
    obtain ⟨-, rfl⟩ := Numeral.spelledAs_iff.1 hlow
    obtain ⟨-, rfl⟩ := Numeral.spelledAs_iff.1 hhigh
    exact .bounds _ _ hle

theorem Range.ListSpelledAs.isRangeList {rs : List Range} (h : ListSpelledAs rs ls) :
    IsRangeList ls rs := by
  induction h with
  | one hr => exact .one hr.isRange
  | more _ hr ih => exact .more ih hr.isRange

theorem Subject.ExpressionSpelledAs.isExpression {s : Subject} (h : s.ExpressionSpelledAs ls) :
    IsExpression ls s.operand s.modulus := by
  cases h with
  | plain hnone =>
    rw [hnone]
    exact .plain _
  | @reduced m sign digits hsome hsign hm =>
    obtain ⟨m, hpos⟩ := m
    obtain ⟨-, rfl⟩ := Numeral.spelledAs_iff.1 hm
    rw [hsome]
    exact .reduced _ digits hsign hpos

theorem Subject.isOperator_of_mem {s : Subject} (h : ls ∈ s.operatorSpellings) :
    IsOperator ls s.negated s.within := by
  obtain ⟨operand, modulus, negated, within⟩ := s
  cases within <;> cases negated <;>
    simp only [operatorSpellings, List.mem_cons, List.not_mem_nil, or_false] at h
  · rcases h with rfl | rfl
    · exact .equal
    · exact .isIn
  · rcases h with rfl | rfl
    · exact .unequal
    · exact .notIn
  · exact h ▸ .within
  · exact h ▸ .notWithin

theorem Relation.SpelledAs.isRelation {r : Relation} (h : r.SpelledAs ls) : IsRelation ls r := by
  cases h with
  | list he ho hrs =>
    exact .list (.mk he.isExpression (Subject.isOperator_of_mem ho)) hrs.isRangeList
  | @is n ls digits hwithin hranges he hn =>
    obtain ⟨⟨operand, modulus, negated, within⟩, ranges, hne⟩ := r
    obtain ⟨-, rfl⟩ := Numeral.spelledAs_iff.1 hn
    obtain rfl : within = false := hwithin
    obtain rfl : ranges = [.single (Numeral.value digits)] := hranges
    rw [List.append_assoc]
    cases negated with
    | false => exact .is digits he.isExpression
    | true => exact .isNot digits he.isExpression

variable {c : Condition}

theorem Condition.SpelledAs.isConjunction (hc : c.IsLeftConjunction) (h : c.SpelledAs ls) :
    IsConjunction ls c := by
  induction hc generalizing ls with
  | relation r =>
    obtain ⟨hr⟩ := h
    exact .one hr.isRelation
  | and r _ ih =>
    cases h with
    | and hleft hright =>
      obtain ⟨hr⟩ := hright
      exact .and (ih hleft) hr.isRelation

theorem Condition.SpelledAs.isDisjunction (hc : c.IsLeftNested) (h : c.SpelledAs ls) :
    IsDisjunction ls c := by
  induction hc generalizing ls with
  | conjunction hc => exact .one (h.isConjunction hc)
  | or _ hd ih =>
    cases h with
    | or hleft hright => exact .or (ih hleft) (hright.isConjunction hd)

end Derivation

/-! ### What is derived is spelled -/

section Spelling

variable {ls : List Lexeme}

theorem Rule.Grammar.IsRange.spelledAs {r : Range} (h : IsRange ls r)
    (hdigits : ∀ l ∈ ls, l.HasDigits) : r.SpelledAs ls := by
  cases h with
  | single digits => exact .value (Numeral.spelledAs_value (hdigits _ (by simp)))
  | bounds low high =>
    exact .bounds (Numeral.spelledAs_value (hdigits _ (by simp)))
      (Numeral.spelledAs_value (hdigits _ (by simp)))

theorem Rule.Grammar.IsRangeList.spelledAs {rs : List Range} (h : IsRangeList ls rs)
    (hdigits : ∀ l ∈ ls, l.HasDigits) : Range.ListSpelledAs rs ls := by
  induction h with
  | one hr => exact .one (hr.spelledAs hdigits)
  | more _ hr ih =>
    exact .more (ih fun l hl => hdigits l (by simp [hl]))
      (hr.spelledAs fun l hl => hdigits l (by simp [hl]))

theorem Rule.Grammar.IsExpression.spelledAs {operand : Operand} {modulus : Option Modulus}
    (h : IsExpression ls operand modulus) (hdigits : ∀ l ∈ ls, l.HasDigits)
    (negated within : Bool) :
    Subject.ExpressionSpelledAs { operand, modulus, negated, within } ls := by
  cases h with
  | plain => exact .plain rfl
  | reduced _ digits hsign =>
    exact .reduced rfl hsign (Numeral.spelledAs_value (hdigits _ (by simp)))

theorem Rule.Grammar.IsOperator.mem_operatorSpellings {negated within : Bool}
    (h : IsOperator ls negated within) (operand : Operand) (modulus : Option Modulus) :
    ls ∈ Subject.operatorSpellings { operand, modulus, negated, within } := by
  cases h <;> simp [Subject.operatorSpellings]

theorem Rule.Grammar.IsRelation.spelledAs {r : Relation} (h : IsRelation ls r)
    (hdigits : ∀ l ∈ ls, l.HasDigits) : r.SpelledAs ls := by
  cases h with
  | list hs hrs =>
    obtain ⟨⟨operand, modulus, negated, within⟩, ranges, hne⟩ := r
    obtain ⟨hsubject, hranges⟩ := List.forall_mem_append.1 hdigits
    cases hs with
    | mk he ho =>
      obtain ⟨hexpression, -⟩ := List.forall_mem_append.1 hsubject
      exact .list (he.spelledAs hexpression negated within) (ho.mem_operatorSpellings _ _)
        (hrs.spelledAs hranges)
  | @is ls operand modulus digits he =>
    obtain ⟨hexpression, hvalue⟩ := List.forall_mem_append.1 hdigits
    have hspelled := Relation.SpelledAs.is (r := ⟨{ operand, modulus },
      [.single (Numeral.value digits)], List.cons_ne_nil _ _⟩) rfl rfl
      (he.spelledAs hexpression false false)
      (Numeral.spelledAs_value (hvalue (.number digits) (by simp)))
    rwa [List.append_assoc] at hspelled
  | @isNot ls operand modulus digits he =>
    obtain ⟨hexpression, hvalue⟩ := List.forall_mem_append.1 hdigits
    have hspelled := Relation.SpelledAs.is (r := ⟨{ operand, modulus, negated := true },
      [.single (Numeral.value digits)], List.cons_ne_nil _ _⟩) rfl rfl
      (he.spelledAs hexpression true false)
      (Numeral.spelledAs_value (hvalue (.number digits) (by simp)))
    rwa [List.append_assoc] at hspelled

variable {c : Condition}

theorem Rule.Grammar.IsConjunction.spelledAs (h : IsConjunction ls c)
    (hdigits : ∀ l ∈ ls, l.HasDigits) : c.SpelledAs ls := by
  induction h with
  | one hr => exact .relation (hr.spelledAs hdigits)
  | and _ hr ih =>
    exact .and (ih fun l hl => hdigits l (by simp [hl]))
      (.relation (hr.spelledAs fun l hl => hdigits l (by simp [hl])))

theorem Rule.Grammar.IsDisjunction.spelledAs (h : IsDisjunction ls c)
    (hdigits : ∀ l ∈ ls, l.HasDigits) : c.SpelledAs ls := by
  induction h with
  | one hc => exact hc.spelledAs hdigits
  | or _ hd ih =>
    exact .or (ih fun l hl => hdigits l (by simp [hl]))
      (hd.spelledAs fun l hl => hdigits l (by simp [hl]))

end Spelling

/-! ### Only words have to be parted -/

namespace Lexeme

variable {rest : List Lexeme}

theorem fit_word (letters : Text) (hne : letters ≠ []) (hletters : letters.all Char.isAlpha = true)
    (h : Fit rest) : Fit (.word letters :: rest) :=
  ⟨⟨hne, List.all_eq_true.1 hletters⟩, fun _ _ => trivial, h⟩

theorem fit_symbol {characters : Text} (hsymbol : characters ∈ ruleSymbols)
    (hrest : ∀ l ∈ rest.head?, l.kind = .number) (h : Fit rest) :
    Fit (.symbol characters :: rest) :=
  ⟨hsymbol, hrest, h⟩

theorem fit_number {n : Nat} {digits : Text} (hn : Numeral.SpelledAs n digits)
    (hrest : ∀ l ∈ rest.head?, l.kind ≠ .number) (h : Fit rest) :
    Fit (.number digits :: rest) :=
  ⟨(Numeral.spelledAs_iff.1 hn).1, hrest, h⟩

end Lexeme

section Fit

open Lexeme

variable {ls rest : List Lexeme}

theorem Range.SpelledAs.exists_eq_cons {r : Range} (h : r.SpelledAs ls) :
    ∃ digits ls', ls = .number digits :: ls' := by
  cases h <;> exact ⟨_, _, rfl⟩

theorem Range.ListSpelledAs.exists_eq_cons {rs : List Range} (h : ListSpelledAs rs ls) :
    ∃ digits ls', ls = .number digits :: ls' := by
  induction h with
  | one hr => exact hr.exists_eq_cons
  | more _ _ ih =>
    obtain ⟨digits, ls', rfl⟩ := ih
    exact ⟨digits, _, rfl⟩

theorem Range.SpelledAs.fit {r : Range} (h : r.SpelledAs ls)
    (hrest : ∀ l ∈ rest.head?, l.kind ≠ .number) (hfit : Fit rest) : Fit (ls ++ rest) := by
  cases h with
  | value hn => exact fit_number hn hrest hfit
  | bounds hlow hhigh =>
    refine fit_number hlow (by simp [kind]) (fit_symbol (by decide) (by simp [kind]) ?_)
    exact fit_number hhigh hrest hfit

/-- The list grows to the right, so what follows it is general in the induction. -/
theorem Range.ListSpelledAs.fit {rs : List Range} (h : ListSpelledAs rs ls)
    (hrest : ∀ l ∈ rest.head?, l.kind ≠ .number) (hfit : Fit rest) : Fit (ls ++ rest) := by
  induction h generalizing rest with
  | one hr => exact hr.fit hrest hfit
  | more _ hr ih =>
    obtain ⟨digits, ls', rfl⟩ := hr.exists_eq_cons
    rw [List.append_assoc]
    exact ih (by simp [kind]) (fit_symbol (by decide) (by simp [kind]) (hr.fit hrest hfit))

theorem Subject.ExpressionSpelledAs.fit {s : Subject} (h : s.ExpressionSpelledAs ls)
    (hrest : ∀ l ∈ rest.head?, l.kind ≠ .number) (hfit : Fit rest) : Fit (ls ++ rest) := by
  have hne : s.operand.symbol ≠ [] := by cases s.operand <;> decide
  have halpha : s.operand.symbol.all Char.isAlpha = true := by cases s.operand <;> decide
  cases h with
  | plain => exact fit_word _ hne halpha hfit
  | @reduced _ _ digits _ hsign hm =>
    refine fit_word _ hne halpha ?_
    have hnumber := fit_number hm hrest hfit
    rcases hsign with rfl | rfl
    · exact fit_symbol (by decide) (by simp [kind]) hnumber
    · exact fit_word "mod" (by decide) (by decide) hnumber

/-- Operators stand after an expression and before a number. -/
theorem Rule.Grammar.IsOperator.fit {negated within : Bool} (h : IsOperator ls negated within)
    (hrest : ∀ l ∈ rest.head?, l.kind = .number) (hfit : Fit rest) :
    Fit (ls ++ rest) ∧ ∀ l ∈ (ls ++ rest).head?, l.kind ≠ .number := by
  have hin : Fit (.word "in" :: rest) := fit_word "in" (by decide) (by decide) hfit
  have hwithin : Fit (.word "within" :: rest) := fit_word "within" (by decide) (by decide) hfit
  cases h with
  | equal => exact ⟨fit_symbol (by decide) hrest hfit, by simp [kind]⟩
  | unequal => exact ⟨fit_symbol (by decide) hrest hfit, by simp [kind]⟩
  | isIn => exact ⟨hin, by simp [kind]⟩
  | notIn => exact ⟨fit_word "not" (by decide) (by decide) hin, by simp [kind]⟩
  | within => exact ⟨hwithin, by simp [kind]⟩
  | notWithin => exact ⟨fit_word "not" (by decide) (by decide) hwithin, by simp [kind]⟩

theorem Subject.fit_valueOperator (s : Subject) (hfit : Fit rest) :
    Fit (s.valueOperator ++ rest) ∧ ∀ l ∈ (s.valueOperator ++ rest).head?, l.kind ≠ .number := by
  have hnot : Fit (.word "not" :: rest) := fit_word "not" (by decide) (by decide) hfit
  unfold valueOperator
  split
  · exact ⟨fit_word "is" (by decide) (by decide) hnot, by simp [kind]⟩
  · exact ⟨fit_word "is" (by decide) (by decide) hfit, by simp [kind]⟩

theorem Relation.SpelledAs.fit {r : Relation} (h : r.SpelledAs ls)
    (hrest : ∀ l ∈ rest.head?, l.kind ≠ .number) (hfit : Fit rest) : Fit (ls ++ rest) := by
  cases h with
  | list he ho hrs =>
    obtain ⟨digits, ls', rfl⟩ := hrs.exists_eq_cons
    obtain ⟨hoperator, hopens⟩ :=
      (Subject.isOperator_of_mem ho).fit (by simp [kind]) (hrs.fit hrest hfit)
    simpa [List.append_assoc] using he.fit hopens hoperator
  | is _ _ he hn =>
    obtain ⟨hoperator, hopens⟩ := r.fit_valueOperator (fit_number hn hrest hfit)
    simpa [List.append_assoc] using he.fit hopens hoperator

/-- Of the lexemes that spell a condition only words have to be parted. -/
theorem Condition.SpelledAs.fit {c : Condition} (h : c.SpelledAs ls)
    (hrest : ∀ l ∈ rest.head?, l.kind ≠ .number) (hfit : Fit rest) : Fit (ls ++ rest) := by
  induction h generalizing rest with
  | relation hr => exact hr.fit hrest hfit
  | and _ _ ihl ihr =>
    have hright := fit_word "and" (by decide) (by decide) (ihr hrest hfit)
    simpa [List.append_assoc] using ihl (by simp [kind]) hright
  | or _ _ ihl ihr =>
    have hright := fit_word "or" (by decide) (by decide) (ihr hrest hfit)
    simpa [List.append_assoc] using ihl (by simp [kind]) hright

end Fit

/-! ### Rule texts -/

namespace Condition

variable {c : Condition} {t : Text} {ls : List Lexeme}

/-- The lexemes of a text that spells a condition. -/
theorem IsSpelling.exists_lexes (h : c.IsSpelling t) :
    ∃ ls, c.SpelledAs ls ∧ Lexes (t.before '@') ls := by
  have hconsists {t : Text} {ls : List Lexeme} (hc : c.SpelledAs ls) (ht : Spaced t ls) :
      Lexes t ls ∧ '@' ∉ t := by
    have hfit : Lexeme.Fit (ls ++ []) := hc.fit (by simp) trivial
    rw [List.append_nil] at hfit
    exact ⟨hfit.lexes ht, ht.notMem hfit⟩
  cases h with
  | plain hc ht =>
    obtain ⟨hlexes, hmark⟩ := hconsists hc ht
    exact ⟨_, hc, by rwa [Text.before_eq_self_iff.2 hmark]⟩
  | sampled samples hc ht =>
    obtain ⟨hlexes, hmark⟩ := hconsists hc ht
    exact ⟨_, hc, by rwa [Text.before_append_of_notMem hmark]⟩

/-- A text with lexemes that spell a condition spells it, samples or not. -/
theorem isSpelling_of_lexes (hc : c.SpelledAs ls) (h : Lexes (t.before '@') ls) :
    c.IsSpelling t := by
  by_cases hmark : '@' ∈ t
  · obtain ⟨rule, samples, rfl, hrule⟩ := List.eq_append_cons_of_mem hmark
    rw [Text.before_append_of_notMem hrule] at h
    exact .sampled samples hc h.spaced
  · rw [Text.before_eq_self_iff.2 hmark] at h
    exact .plain hc h.spaced

/-- **A rule text compiles to a condition exactly if it spells it.** Let a condition be a
disjunction nested to the left, and its sides conjunctions of relations that are nested so too. The
texts of admitted length that compile to it are its spellings: for each of its relations either
syntax may be chosen, for each of its numbers any zeros in front, for each single value one bound or
two, any spaces as long as words are parted, and any samples. -/
theorem compiles_exactly_spellings (hc : c.IsLeftNested) (t : Text) :
    compile t = .ok c ↔ t.length ≤ lengthLimit ∧ c.IsSpelling t := by
  constructor
  · intro h
    obtain ⟨ls, hls, hrule⟩ := isRule_of_compile h
    refine ⟨length_le_of_compile h, isSpelling_of_lexes ?_ hls⟩
    cases hrule with
    | blank => exact hc.isGrouped.elim
    | condition hd => exact hd.spelledAs hls.hasDigits
  · rintro ⟨hlength, hspelling⟩
    obtain ⟨ls, hspelled, hlexes⟩ := hspelling.exists_lexes
    exact (compile_eq_ok_iff hlength hlexes).2 (.condition (hspelled.isDisjunction hc))

/-- A condition with a spelling of each kind. -/
def mixed : Condition :=
  or
    (and
      (relation ⟨{ operand := .n, modulus := some ⟨100, by decide⟩, negated := true }, [.single 11],
        List.cons_ne_nil _ _⟩)
      (relation ⟨{ operand := .v }, [⟨3, 4, by decide⟩, .single 5], List.cons_ne_nil _ _⟩))
    (relation ⟨{ operand := .i, negated := true, within := true }, [.single 3],
      List.cons_ne_nil _ _⟩)

/-- Zeros in front, words beside numbers without a space, a tab, equal bounds and samples. -/
theorem compiles_exactly_spellings_mixed :
    mixed.IsLeftNested ∧
      compile "n%0100 is not 0011and\tv in 3..4,05..5or i not within 3@integer 1" = .ok mixed ∧
      mixed.IsSpelling "n%0100 is not 0011and\tv in 3..4,05..5or i not within 3@integer 1" := by
  have hnested : mixed.IsLeftNested := .or (.conjunction (.and _ (.relation _))) (.relation _)
  have hcompile :
      compile "n%0100 is not 0011and\tv in 3..4,05..5or i not within 3@integer 1" = .ok mixed := by
    cbv
  exact ⟨hnested, hcompile, ((compiles_exactly_spellings hnested _).1 hcompile).2⟩

end Condition

end Numerus
