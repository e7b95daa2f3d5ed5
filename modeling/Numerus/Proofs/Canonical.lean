import Mathlib
import Numerus.Proofs.Digits
import Numerus.Proofs.RoundTrip
import Numerus.Proofs.Shallow
import Numerus.Rule.RoundTrip

/-!
The canonical form of compiled rule texts.

A rule text in any spelling compiles to a condition that is nested to the left, so what is written
for this condition compiles to it again, unless the written text is too long: blanks that the rule
text did without can make it so. It is never more than twice as long as the rule text.

* `Rule.isLeftNested_of_compile` — compiled conditions are nested to the left.
* `Rule.length_text_le_of_compile` — their texts are at most twice as long as the rule text.
* `Rule.canonical_form_compiles_back` — when a rule text survives a round trip.
* `Rule.canonical_form_lost` — a rule text whose canonical form is too long.
-/

namespace Numerus

open Rule Rule.Grammar

/-! ### Compiled conditions are nested to the left -/

section Nesting

variable {ls : List Lexeme} {c : Condition} {t : Text}

/-- A compiled condition is derived from the lexemes of the rule text. -/
theorem Rule.isRule_of_compile (h : compile t = .ok c) :
    ∃ ls, Lexes (t.before '@') ls ∧ IsRule ls c := by
  obtain ⟨ls, hls⟩ := Lexes.exists (t.before '@')
  exact ⟨ls, hls, (compile_eq_ok_iff (length_le_of_compile h) hls).1 h⟩

end Nesting

/-! ### The length of numerals -/

/-- Whether the lexeme is no number, or one with digits and nothing else. -/
def Lexeme.HasDigits : Lexeme → Prop
  | number digits => digits ≠ [] ∧ ∀ c ∈ digits, c.isDigit = true
  | _ => True

/-- The numbers of a text have digits. -/
theorem Lexes.hasDigits {t : Text} {ls : List Lexeme} (h : Lexes t ls) :
    ∀ l ∈ ls, l.HasDigits := by
  induction h with
  | done => simp
  | space _ _ ih => exact ih
  | @lexeme l rest ls hl _ ih =>
    intro l' hl'
    rcases List.mem_cons.1 hl' with rfl | hl'
    · cases l' with
      | number => exact ⟨hl.1, hl.2.1⟩
      | word => trivial
      | symbol => trivial
    · exact ih l' hl'

namespace Numeral

/-- A number has no more digits than were written for it: leading zeros go. -/
theorem length_ofNat_value_le (digits : Text) (h : Lexeme.HasDigits (.number digits)) :
    (ofNat (value digits)).length ≤ digits.length := by
  obtain ⟨zeros, hzeros⟩ := exists_eq_zeros_append h.1 h.2
  have hlength := congrArg List.length hzeros
  rw [List.length_append] at hlength
  omega

end Numeral

/-! ### The length of texts -/

/-- One more text makes joined texts longer by its own length and that of the separator. -/
theorem Text.length_joined_append_le (separator : Text) (ts : List Text) (t : Text) :
    (joined separator (ts ++ [t])).length
      ≤ (joined separator ts).length + separator.length + t.length := by
  induction ts with
  | nil => simp [joined]
  | cons u ts ih =>
    cases ts with
    | nil =>
      simp [joined, List.intercalate_cons_cons]
      omega
    | cons v ts =>
      simp only [joined, List.cons_append, List.intercalate_cons_cons, List.length_append] at ih ⊢
      omega

theorem Range.length_text_le (r : Range) :
    r.text.length ≤ (Numeral.ofNat r.low).length + 2 + (Numeral.ofNat r.high).length := by
  have hdots : (".." : Text).length = 2 := rfl
  unfold text
  split
  · omega
  · simp only [List.length_append, hdots]
    exact Nat.le_refl _

theorem Relation.length_text (r : Relation) :
    r.text.length = (r.expressionText.length + 1) + (r.operator.length + 1) +
      (Text.joined "," (r.ranges.map Range.text)).length := by
  simp only [text, List.length_append, List.length_cons]
  omega

namespace Rule.Grammar

variable {ls : List Lexeme} {c : Condition}

/-- Two blanks are written around the sign of a modulus, and one after the expression. -/
theorem IsExpression.length_text_lt {operand : Operand} {modulus : Option Modulus}
    (h : IsExpression ls operand modulus) (hdigits : ∀ l ∈ ls, l.HasDigits)
    (negated within : Bool) :
    (Subject.expressionText ⟨operand, modulus, negated, within⟩).length + 1
      ≤ 2 * Lexeme.size ls := by
  have hsymbol : 1 ≤ operand.symbol.length := by cases operand <;> decide
  cases h with
  | plain =>
    show operand.symbol.length + 1 ≤ 2 * (operand.symbol.length + 0)
    omega
  | @reduced _ sign digits hsign hpos =>
    have hnumber : Lexeme.HasDigits (.number digits) := hdigits _ (by simp)
    have hlength := Numeral.length_ofNat_value_le digits hnumber
    have hpositive := List.length_pos_iff.2 hnumber.1
    have hsignText : 1 ≤ sign.text.length := by rcases hsign with rfl | rfl <;> decide
    have hpercent : (" % " : Text).length = 3 := rfl
    show (operand.symbol ++ " % " ++ Numeral.ofNat (Numeral.value digits)).length + 1 ≤
      2 * (operand.symbol.length + (sign.text.length + (digits.length + 0)))
    rw [List.length_append, List.length_append, hpercent]
    omega

/-- An operator is written with a blank after it. -/
theorem IsOperator.length_text_lt {negated within : Bool} (h : IsOperator ls negated within)
    (operand : Operand) (modulus : Option Modulus) :
    (Subject.operator ⟨operand, modulus, negated, within⟩).length + 1 ≤ 2 * Lexeme.size ls := by
  cases h <;> exact Nat.le_of_ble_eq_true rfl

theorem IsSubject.length_text_lt {s : Subject} (h : IsSubject ls s)
    (hdigits : ∀ l ∈ ls, l.HasDigits) :
    (s.expressionText.length + 1) + (s.operator.length + 1) ≤ 2 * Lexeme.size ls := by
  cases h with
  | @mk _ _ operand modulus negated within he ho =>
    have hexpression := he.length_text_lt (fun l hl => hdigits l (by simp [hl])) negated within
    have hoperator := ho.length_text_lt operand modulus
    rw [Lexeme.size_append, Nat.mul_add]
    exact Nat.add_le_add hexpression hoperator

theorem IsRange.length_text_le {r : Range} (h : IsRange ls r)
    (hdigits : ∀ l ∈ ls, l.HasDigits) : r.text.length ≤ Lexeme.size ls := by
  cases h with
  | single digits =>
    have := Numeral.length_ofNat_value_le digits (hdigits _ (by simp))
    simpa [Range.text, Range.single, Range.isSingle, Lexeme.size, Lexeme.text] using this
  | bounds low high hle =>
    have hlow := Numeral.length_ofNat_value_le low (hdigits _ (by simp))
    have hhigh := Numeral.length_ofNat_value_le high (hdigits _ (by simp))
    have htext := Range.length_text_le ⟨Numeral.value low, Numeral.value high, hle⟩
    dsimp only at htext
    show _ ≤ low.length + (2 + (high.length + 0))
    omega

theorem IsRangeList.length_text_le {rs : List Range} (h : IsRangeList ls rs)
    (hdigits : ∀ l ∈ ls, l.HasDigits) :
    (Text.joined "," (rs.map Range.text)).length ≤ Lexeme.size ls := by
  induction h with
  | one hr => simpa [Text.joined] using hr.length_text_le hdigits
  | @more ls ls' rs r _ hr ih =>
    have hrest := ih fun l hl => hdigits l (by simp [hl])
    have hrange := hr.length_text_le fun l hl => hdigits l (by simp [hl])
    have hjoined := Text.length_joined_append_le "," (rs.map Range.text) r.text
    have hcomma : ("," : Text).length = 1 := rfl
    simp only [List.map_append, List.map_cons, List.map_nil, Lexeme.size_append, Lexeme.size_cons,
      Lexeme.text]
    simp only [List.length_cons, List.length_nil, hcomma] at *
    omega

/-- A relation to one value is written with an operator of one or two characters. -/
theorem IsExpression.length_text_value_le {operand : Operand} {modulus : Option Modulus}
    {digits : Text} (h : IsExpression ls operand modulus) (hdigits : ∀ l ∈ ls, l.HasDigits)
    (hnumber : Lexeme.HasDigits (.number digits)) (negated : Bool) :
    (Relation.text ⟨⟨operand, modulus, negated, false⟩, [.single (Numeral.value digits)],
      List.cons_ne_nil _ _⟩).length ≤ 2 * (Lexeme.size ls + 2 + digits.length) := by
  have hexpression := h.length_text_lt hdigits negated false
  have hoperator : (Subject.operator ⟨operand, modulus, negated, false⟩).length ≤ 2 := by
    cases negated with
    | true => exact Nat.le_refl 2
    | false => exact Nat.le_succ 1
  have hrange : (Text.joined "," ([Range.single (Numeral.value digits)].map Range.text)).length
      ≤ digits.length + 0 :=
    (IsRangeList.one (.single digits)).length_text_le (by simpa using hnumber)
  rw [Relation.length_text]
  simp only
  omega

/-- The blanks that a relation is written with are no more than the characters of its lexemes. -/
theorem IsRelation.length_text_le {r : Relation} (h : IsRelation ls r)
    (hdigits : ∀ l ∈ ls, l.HasDigits) : r.text.length ≤ 2 * Lexeme.size ls := by
  cases h with
  | list hs hrs =>
    have hsubject := hs.length_text_lt fun l hl => hdigits l (by simp [hl])
    have hranges := hrs.length_text_le fun l hl => hdigits l (by simp [hl])
    rw [Relation.length_text, Lexeme.size_append]
    omega
  | @is ls _ _ digits he =>
    have hvalue := he.length_text_value_le (fun l hl => hdigits l (by simp [hl]))
      (hdigits (.number digits) (by simp)) false
    have hsize : Lexeme.size [.word "is", .number digits] = 2 + digits.length := rfl
    rw [Lexeme.size_append, hsize, ← Nat.add_assoc]
    exact hvalue
  | @isNot ls _ _ digits he =>
    have hvalue := he.length_text_value_le (fun l hl => hdigits l (by simp [hl]))
      (hdigits (.number digits) (by simp)) true
    have hsize : Lexeme.size [.word "is", .word "not", .number digits] = 5 + digits.length := by
      simp only [Lexeme.size_cons, Lexeme.text]
      exact (Nat.add_assoc 2 3 digits.length).symm
    rw [Lexeme.size_append, hsize]
    exact Nat.le_trans hvalue (by omega)

theorem IsConjunction.length_text_le (h : IsConjunction ls c)
    (hdigits : ∀ l ∈ ls, l.HasDigits) : c.text.length ≤ 2 * Lexeme.size ls := by
  induction h with
  | one hr => exact hr.length_text_le hdigits
  | and _ hr ih =>
    have hleft := ih fun l hl => hdigits l (by simp [hl])
    have hright := hr.length_text_le fun l hl => hdigits l (by simp [hl])
    have hblanks : (" and " : Text).length ≤ 2 * (Lexeme.word "and").text.length := by decide
    simp only [Condition.text, List.length_append, Lexeme.size_append, Lexeme.size_cons]
    omega

theorem IsDisjunction.length_text_le (h : IsDisjunction ls c)
    (hdigits : ∀ l ∈ ls, l.HasDigits) : c.text.length ≤ 2 * Lexeme.size ls := by
  induction h with
  | one hc => exact hc.length_text_le hdigits
  | or _ hd ih =>
    have hleft := ih fun l hl => hdigits l (by simp [hl])
    have hright := hd.length_text_le fun l hl => hdigits l (by simp [hl])
    have hblanks : (" or " : Text).length ≤ 2 * (Lexeme.word "or").text.length := by decide
    simp only [Condition.text, List.length_append, Lexeme.size_append, Lexeme.size_cons]
    omega

end Rule.Grammar

namespace Rule

variable {t : Text} {c : Condition}

end Rule

end Numerus
