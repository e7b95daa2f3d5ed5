import Numerus.Proofs.Exactness
import Numerus.Proofs.Shallow

/-!
What conditions mean.

A condition is a statement about the exact values of operands. `Condition.Means` says it with
rational numbers: an operand keeps its fraction when it is reduced by a modulus, lies between the
two bounds of a range, and must be whole unless the relation is one with "within". The truth of a
condition looks at whole numbers only and comes to the same. Asking for it may be refused for a
condition that is nested too deeply for the room that there is, and for no other.

* `Relation.holds_iff`, `Condition.holds_iff` — truth is meaning.
* `Condition.truth_is_exact` — what is told about a condition is its meaning, and it is told
  unless the condition is too deep.
* `Condition.deep_truth_untold` — whatever room there is, there are conditions that are.
-/

namespace Numerus

open Rule

/-! ### The meaning of relations -/

/-- A number reduced by the modulus, if there is one. -/
def Subject.reducedRational (s : Subject) (x : ℚ) : ℚ :=
  match s.modulus with
  | some m => x - m.val * ⌊x / m.val⌋
  | none => x

namespace Relation

/-- Whether a number is a member of the ranges. -/
def Includes (r : Relation) (x : ℚ) : Prop :=
  ∃ range ∈ r.ranges, range.low ≤ x ∧ x ≤ range.high ∧ (r.within = true ∨ ∃ z : ℤ, x = z)

/-- What the relation says: that the number is a member, or that it is none. -/
def Means (r : Relation) (o : Operands) : Prop :=
  ¬ (r.Includes (r.reducedRational (o.rational r.operand)) ↔ r.negated = true)

theorem splits_reduced {o : Operands} (ho : o.IsExact) (r : Relation) :
    Splits (r.reducedRational (o.rational r.operand)) (r.reduced o)
      (o.hasFraction r.operand) := by
  have h := ho.splits r.operand
  unfold Subject.reducedRational reduced
  cases r.modulus with
  | none => exact h
  | some m => exact h.reduce m

/-- Membership of a number is membership of its whole part, or of the numbers after it. -/
theorem isMember_iff {x : ℚ} {whole : ℤ} {fractional : Bool} (h : Splits x whole fractional)
    (r : Relation) : r.isMember whole fractional = true ↔ r.Includes x := by
  unfold Includes
  simp only [h.natCast_le_iff, h.le_natCast_iff, h.isInt_iff]
  cases fractional with
  | false => simp [isMember, Range.contains]
  | true =>
    cases hwithin : r.within with
    | false => simp [isMember, hwithin]
    | true => simp [isMember, hwithin, Range.containsAfter]

/-- A relation holds if it says what is so. -/
theorem holds_iff {o : Operands} (ho : o.IsExact) (r : Relation) :
    r.holds o = true ↔ r.Means o := by
  rw [holds, Means, ← isMember_iff (r.splits_reduced ho), bne_iff_ne, ne_eq,
    Bool.eq_iff_iff]

end Relation

/-! ### The meaning of conditions -/

namespace Condition

/-- What the condition says. -/
def Means (o : Operands) : Condition → Prop
  | relation r => r.Means o
  | and left right => left.Means o ∧ right.Means o
  | or left right => left.Means o ∨ right.Means o
  | literal value => value = true

/-- A condition holds if it says what is so. -/
theorem holds_iff {o : Operands} (ho : o.IsExact) (c : Condition) :
    c.holds o = true ↔ c.Means o := by
  induction c with
  | relation r => exact r.holds_iff ho
  | and left right ihl ihr => rw [holds, Bool.and_eq_true, ihl, ihr, Means]
  | or left right ihl ihr => rw [holds, Bool.or_eq_true, ihl, ihr, Means]
  | literal value => exact Iff.rfl

/-- **What is told about a condition is its meaning.** For exact operands, a condition holds if it
says what is so. With whatever room, asking for its truth tells so or is refused as too deep. It is
not refused where there is room for the conditions above the deepest one and for a relation there;
so the truth of a compiled condition is told wherever there is room for rule texts of admitted
length. -/
theorem truth_is_exact (c : Condition) (o : Operands) (ho : o.IsExact) :
    (c.holds o = true ↔ c.Means o) ∧
      (∀ room, c.holdsWithin o room = .ok (c.holds o) ∨ c.holdsWithin o room = .error .tooDeep) ∧
      (∀ room, c.depth + truthSteps < room → c.holdsWithin o room = .ok (c.holds o)) ∧
      ∀ t, compile t = .ok c → c.Tells o (c.holds o) := by
  refine ⟨holds_iff ho c, ?_, ?_, ?_⟩
  · intro room
    exact (holdsWithin_eq o room c).symm
  · intro room hroom
    exact holdsWithin_of_depth_lt hroom o
  · intro t ht
    exact tells_of_compile ht o

/-- A fraction just above the bound of a range, with a modulus and a negation: 14.01 reduced by 10
is 4.01. -/
theorem truth_is_exact_fraction :
    Operands.IsExact ⟨⟨false, 1401, -2⟩, 14, 2, 2, 1, 1, 0⟩ ∧
      Means ⟨⟨false, 1401, -2⟩, 14, 2, 2, 1, 1, 0⟩
        (relation
          { operand := .n, modulus := some ⟨10, by decide⟩, negated := true, within := true,
            ranges := [{ low := 2, high := 4 }] }) := by
  have hexact : Operands.IsExact ⟨⟨false, 1401, -2⟩, 14, 2, 2, 1, 1, 0⟩ :=
    ⟨by norm_num [Decimal.rational], by decide, by norm_num⟩
  exact ⟨hexact, (truth_is_exact _ _ hexact).1.1 (by decide)⟩

/-! ### Conditions that are too deep -/

/-- A disjunction of `n + 1` conditions that never hold, nested to the right. -/
def falsehoods : Nat → Condition
  | 0 => literal false
  | n + 1 => or (literal false) (falsehoods n)

/-- Each disjunction takes a step before the next one is asked for. -/
theorem holdsWithin_falsehoods (o : Operands) {room n : Nat} (h : room ≤ n) :
    (falsehoods n).holdsWithin o room = .error .tooDeep := by
  induction n generalizing room with
  | zero =>
    obtain rfl := Nat.le_zero.1 h
    rfl
  | succ n ih =>
    match room with
    | 0 => rfl
    | 1 => rfl
    | room + 2 =>
      have := ih (Nat.le_of_succ_le_succ h)
      rw [falsehoods, holdsWithin, this]
      rfl

/-- The truth of a disjunction of 1101 conditions is not told with room for 1100 nested calls or
less, though it is false; and there is room for no disjunction of all numbers of conditions. -/
theorem deep_truth_untold :
    (Operands.ofNat 0).IsExact ∧ ¬ (falsehoods 1100).Means (Operands.ofNat 0) ∧
      (∀ room ≤ 1100, ¬ ∃ b, (falsehoods 1100).holdsWithin (Operands.ofNat 0) room = .ok b) ∧
      ∀ room, ∃ n, ¬ (falsehoods n).Means (Operands.ofNat 0) ∧
        ¬ ∃ b, (falsehoods n).holdsWithin (Operands.ofNat 0) room = .ok b := by
  have hexact : (Operands.ofNat 0).IsExact :=
    ⟨by norm_num [Operands.ofNat, Decimal.rational, Decimal.ofNat], by decide,
      by norm_num [Operands.ofNat]⟩
  have hfalse (n : Nat) : ¬ (falsehoods n).Means (Operands.ofNat 0) := by
    induction n with
    | zero => exact Bool.false_ne_true
    | succ n ih => exact fun h => h.elim Bool.false_ne_true ih
  have huntold {room n : Nat} (h : room ≤ n) :
      ¬ ∃ b, (falsehoods n).holdsWithin (Operands.ofNat 0) room = .ok b := by
    rintro ⟨b, hb⟩
    rw [holdsWithin_falsehoods _ h] at hb
    cases hb
  exact ⟨hexact, hfalse 1100, fun _ => huntold, fun room => ⟨room, hfalse room, huntold le_rfl⟩⟩

end Condition

end Numerus
