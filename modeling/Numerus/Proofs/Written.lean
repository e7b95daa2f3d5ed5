import Numerus.Proofs.Answer
import Numerus.Rule.Nesting

/-!
The written form of a condition.

`Condition.text` is what a condition is written as, with no regard to the limits on digits and on
nesting. Writing gives this text for every condition of relations that has no disjunction under a
conjunction, as long as the text is short: a text has at least as many characters as its longest
number has digits, and nine more for each level of nesting.

* `Condition.write_eq_text` — writing gives the text.
* `Condition.depth_le_length_text` — the text bounds the nesting.
-/

namespace Numerus

/-- The range as rule text. -/
def Range.text (r : Range) : Text :=
  if r.isSingle then Numeral.ofNat r.low
  else Numeral.ofNat r.low ++ ".." ++ Numeral.ofNat r.high

/-- The operand and its modulus as rule text. -/
def Subject.expressionText (s : Subject) : Text :=
  match s.modulus with
  | some m => s.operand.symbol ++ " % " ++ Numeral.ofNat m.val
  | none => s.operand.symbol

/-- The relation as rule text. -/
def Relation.text (r : Relation) : Text :=
  r.expressionText ++ ' ' :: r.operator ++ ' ' :: Text.joined "," (r.ranges.map Range.text)

namespace Condition

/-- The condition as rule text; a constant has none, or the empty one. -/
def text : Condition → Text
  | relation r => r.text
  | and left right => left.text ++ " and " ++ right.text
  | or left right => left.text ++ " or " ++ right.text
  | literal _ => []

/-- Whether the condition is made of relations by conjunction only. -/
def IsConjunctive : Condition → Prop
  | relation _ => True
  | and left right => left.IsConjunctive ∧ right.IsConjunctive
  | or .. => False
  | literal _ => False

/-- Whether the condition is made of relations, with no disjunction below a conjunction. -/
def IsGrouped : Condition → Prop
  | relation _ => True
  | and left right => left.IsConjunctive ∧ right.IsConjunctive
  | or left right => left.IsGrouped ∧ right.IsGrouped
  | literal _ => False

theorem IsConjunctive.isGrouped {c : Condition} (h : c.IsConjunctive) : c.IsGrouped := by
  cases c with
  | relation => trivial
  | and => exact h
  | or => exact h.elim
  | literal => exact h.elim

theorem IsConjunctive.isOr {c : Condition} (h : c.IsConjunctive) : c.isOr = false := by
  cases c with
  | or => exact h.elim
  | _ => rfl

end Condition

/-! ### Numbers -/

namespace Numeral

theorem ofNat_ne_nil (n : Nat) : ofNat n ≠ [] := Nat.toDigits_ne_nil

theorem length_ofNat_pos (n : Nat) : 0 < (ofNat n).length :=
  List.length_pos_iff.2 (ofNat_ne_nil n)

theorem write_eq_ofNat {n : Nat} (h : (ofNat n).length ≤ Fault.digitLimit) :
    write n = .ok (ofNat n) := by
  have hwritable : isWritable n = true := by
    simpa [isWritable] using (length_le_iff (by decide)).1 h
  rw [write_eq_ok hwritable, ofInt, if_neg (by omega)]
  rfl

end Numeral

/-! ### Relations -/

theorem Range.write_eq_text {r : Range} (h : r.text.length ≤ Fault.digitLimit) :
    r.write = .ok r.text := by
  unfold Range.text at h
  unfold Range.write Range.text
  split
  · next hsingle =>
    rw [if_pos hsingle] at h
    exact Numeral.write_eq_ofNat h
  · next hpair =>
    rw [if_neg hpair, List.length_append, List.length_append] at h
    rw [Numeral.write_eq_ofNat (by omega), Numeral.write_eq_ofNat (by omega)]
    rfl

theorem Subject.expression_eq_text {s : Subject}
    (h : s.expressionText.length ≤ Fault.digitLimit) : s.expression = .ok s.expressionText := by
  obtain ⟨operand, modulus, negated, within⟩ := s
  cases modulus with
  | none => rfl
  | some m =>
    simp only [expressionText, List.length_append] at h
    have hm := Numeral.write_eq_ofNat (n := m.val) (by omega)
    simp only [expression, hm]
    rfl

/-- A text that is joined with others is no longer than what they make together. -/
theorem Text.length_le_joined (separator : Text) {t : Text} {ts : List Text} (h : t ∈ ts) :
    t.length ≤ (joined separator ts).length := by
  induction ts with
  | nil => simp at h
  | cons u ts ih =>
    cases ts with
    | nil =>
      obtain rfl := List.mem_singleton.1 h
      simp [joined]
    | cons v ts =>
      rw [joined, List.intercalate_cons_cons, List.length_append, List.length_append]
      rcases List.mem_cons.1 h with rfl | h
      · omega
      · have := ih h
        rw [joined] at this
        omega

/-- Ranges of which each can be written can all be written. -/
theorem Range.mapM_write {rs : List Range} (h : ∀ r ∈ rs, r.write = .ok r.text) :
    rs.mapM Range.write = .ok (rs.map Range.text) := by
  induction rs with
  | nil => rfl
  | cons r rs ih =>
    have hr := h r List.mem_cons_self
    have hrs := ih fun s hs => h s (List.mem_cons_of_mem _ hs)
    rw [List.mapM_cons, hr, hrs]
    rfl

theorem Relation.write_eq_text {r : Relation} (h : r.text.length ≤ Fault.digitLimit) :
    r.write = .ok r.text := by
  simp only [text, List.length_append, List.length_cons] at h
  have hexpression := Subject.expression_eq_text (s := r.toSubject) (by omega)
  have hranges : r.ranges.mapM Range.write = .ok (r.ranges.map Range.text) := by
    refine Range.mapM_write fun s hs => Range.write_eq_text ?_
    have := Text.length_le_joined "," (List.mem_map_of_mem (f := Range.text) hs)
    omega
  rw [write, hexpression, hranges]
  rfl

/-! ### Conditions -/

namespace Condition

/-- Writing gives the text of a condition if the text is short. -/
theorem write_eq_text {c : Condition} (hc : c.IsGrouped)
    (hlength : c.text.length ≤ Fault.digitLimit) : c.write = .ok c.text := by
  induction c with
  | relation r => exact Relation.write_eq_text hlength
  | and left right ihl ihr =>
    obtain ⟨hl, hr⟩ := hc
    simp only [text, List.length_append] at hlength
    rw [write, hl.isOr, hr.isOr, ihl hl.isGrouped (by omega), ihr hr.isGrouped (by omega)]
    rfl
  | or left right ihl ihr =>
    obtain ⟨hl, hr⟩ := hc
    simp only [text, List.length_append] at hlength
    rw [write, ihl hl (by omega), ihr hr (by omega)]
    rfl
  | literal => exact hc.elim

end Condition

/-! ### The text has no samples -/

theorem Numeral.notMem_ofNat (n : Nat) : '@' ∉ ofNat n := by
  intro h
  have := isDigit_of_mem_ofNat h
  simp at this

theorem Text.notMem_joined {mark : Char} {separator : Text} {ts : List Text}
    (hseparator : mark ∉ separator) (hts : ∀ t ∈ ts, mark ∉ t) : mark ∉ joined separator ts := by
  induction ts with
  | nil => simp [joined]
  | cons t ts ih =>
    have ht := hts t List.mem_cons_self
    have hrest := ih fun u hu => hts u (List.mem_cons_of_mem _ hu)
    cases ts with
    | nil => simpa [joined] using ht
    | cons u ts =>
      rw [joined] at hrest
      rw [joined, List.intercalate_cons_cons]
      simp [ht, hseparator, hrest]

theorem Range.notMem_text (r : Range) : '@' ∉ r.text := by
  unfold text
  split <;> simp [Numeral.notMem_ofNat]

theorem Relation.notMem_text (r : Relation) : '@' ∉ r.text := by
  have hexpression : '@' ∉ r.expressionText := by
    have hsymbol : '@' ∉ r.operand.symbol := by cases r.operand <;> decide
    unfold Subject.expressionText
    split <;> simp [hsymbol, Numeral.notMem_ofNat]
  have hoperator : '@' ∉ r.operator := by
    unfold Subject.operator
    split <;> decide
  have hranges : '@' ∉ Text.joined "," (r.ranges.map Range.text) := by
    refine Text.notMem_joined (by decide) ?_
    simp [Range.notMem_text]
  simp only [text, List.mem_append, List.mem_cons, not_or]
  exact ⟨⟨hexpression, by decide, hoperator⟩, by decide, hranges⟩

theorem Condition.notMem_text (c : Condition) : '@' ∉ c.text := by
  induction c with
  | relation r => exact r.notMem_text
  | and left right ihl ihr => simp [text, ihl, ihr]
  | or left right ihl ihr => simp [text, ihl, ihr]
  | literal => simp [text]

/-! ### The text bounds the nesting -/

/-- The shortest text of a relation has an operand, an operator and a digit, with spaces
between them. -/
theorem Relation.five_le_length_text (r : Relation) : 5 ≤ r.text.length := by
  have hexpression : 1 ≤ r.expressionText.length := by
    have hsymbol : 1 ≤ r.operand.symbol.length := by cases r.operand <;> decide
    unfold Subject.expressionText
    split
    · simp only [List.length_append]
      omega
    · exact hsymbol
  have hoperator : 1 ≤ r.operator.length := by
    unfold Subject.operator
    split <;> decide
  have hranges : 1 ≤ (Text.joined "," (r.ranges.map Range.text)).length := by
    obtain ⟨s, hs⟩ := List.exists_mem_of_ne_nil r.ranges r.ranges_ne_nil
    have hrange : 1 ≤ s.text.length := by
      have := Numeral.length_ofNat_pos s.low
      unfold Range.text
      split
      · exact this
      · simp only [List.length_append]
        omega
    have := Text.length_le_joined "," (List.mem_map_of_mem (f := Range.text) hs)
    omega
  simp only [text, List.length_append, List.length_cons]
  omega

namespace Condition

/-- A relation takes five characters, and each level above it another relation and "or" or "and"
with a space on both sides. -/
theorem depth_le_length_text {c : Condition} (hc : c.IsGrouped) :
    9 * c.depth + 5 ≤ c.text.length := by
  induction c with
  | relation r => exact r.five_le_length_text
  | and left right ihl ihr =>
    obtain ⟨hl, hr⟩ := hc
    have := ihl hl.isGrouped
    have := ihr hr.isGrouped
    have hword : (" and " : Text).length = 5 := rfl
    simp only [text, depth, List.length_append, hword]
    omega
  | or left right ihl ihr =>
    obtain ⟨hl, hr⟩ := hc
    have := ihl hl
    have := ihr hr
    have hword : (" or " : Text).length = 4 := rfl
    simp only [text, depth, List.length_append, hword]
    omega
  | literal => exact hc.elim

end Condition

end Numerus
