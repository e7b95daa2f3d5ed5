import Mathlib.Algebra.Order.Floor.Ring
import Mathlib.Data.Rat.Floor
import Numerus.Rule.Truth

/-!
The exact values of operands.

Operands are whole numbers, apart from `n`, which is a rational number. Operands that belong
together tell the same number twice, as `n` and as its digits before and after the point;
`Operands.IsExact` says that they do. Then the whole part of an operand and whether it has a
fraction, which is all that the truth of a rule looks at, are those of its exact value.

* `Operands.IsExact.splits` — the exact value of an operand and its two parts.
* `Splits.reduce` — a modulus reduces the whole part and keeps the fraction.
-/

namespace Numerus

/-- The exact value of a decimal number. -/
def Decimal.rational (d : Decimal) : ℚ :=
  (if d.negative then -1 else 1) * d.coefficient * 10 ^ d.exponent

namespace Operands

/-- The exact value of an operand. -/
def rational (o : Operands) : Operand → ℚ
  | .n => o.n.rational
  | .i => o.i
  | .v => o.v
  | .w => o.w
  | .f => o.f
  | .t => o.t
  | .c | .e => o.e

/-- The operand `n` is the number with the integer part `i` and the fraction digits `f`, of which
there are `v`. -/
structure IsExact (o : Operands) : Prop where
  n_eq : o.n.rational = o.i + o.f / 10 ^ o.v
  f_nonneg : 0 ≤ o.f
  f_lt : (o.f : ℚ) < 10 ^ o.v

end Operands

/-- `Splits x whole fractional`: the number `x` has the whole part `whole`, and it has a fraction
if `fractional` is set. -/
structure Splits (x : ℚ) (whole : ℤ) (fractional : Bool) : Prop where
  floor_eq : ⌊x⌋ = whole
  eq_whole_iff : x = whole ↔ fractional = false

/-- An operand is split into its whole part and a fraction. -/
theorem Operands.IsExact.splits {o : Operands} (ho : o.IsExact) (x : Operand) :
    Splits (o.rational x) (o.whole x) (o.hasFraction x) := by
  have whole (z : ℤ) : Splits z z false := ⟨Int.floor_intCast z, by simp⟩
  cases x with
  | n =>
    have hpow : (0 : ℚ) < 10 ^ o.v := zpow_pos (by norm_num) o.v
    have hnonneg : (0 : ℚ) ≤ o.f / 10 ^ o.v :=
      div_nonneg (Int.cast_nonneg ho.f_nonneg) hpow.le
    have hlt : (o.f : ℚ) / 10 ^ o.v < 1 := (div_lt_one hpow).2 ho.f_lt
    constructor
    · rw [rational, ho.n_eq, Int.floor_eq_iff]
      exact ⟨le_add_of_nonneg_right hnonneg, by simpa [Operands.whole] using hlt⟩
    · rw [rational, ho.n_eq]
      simp [Operands.whole, hasFraction, hpow.ne']
  | i => exact whole o.i
  | v => exact whole o.v
  | w => exact whole o.w
  | f => exact whole o.f
  | t => exact whole o.t
  | c => exact whole o.e
  | e => exact whole o.e

namespace Splits

variable {x : ℚ} {whole : ℤ} {fractional : Bool}

/-- A modulus reduces the whole part and keeps the fraction. -/
theorem reduce (h : Splits x whole fractional) (m : Modulus) :
    Splits (x - m.val * ⌊x / m.val⌋) (whole % m.val) fractional := by
  have hfloor : ⌊x / (m.val : ℚ)⌋ = whole / m.val := by
    rw [Int.floor_div_natCast, h.floor_eq]
  have hcast : x - m.val * ⌊x / m.val⌋ = x - ((m.val * (whole / m.val) : ℤ) : ℚ) := by
    rw [hfloor]
    push_cast
    rfl
  constructor
  · rw [hcast, Int.floor_sub_intCast, h.floor_eq, Int.emod_def]
  · rw [hcast, Int.emod_def, ← h.eq_whole_iff]
    push_cast
    exact sub_left_inj

/-- Only the whole part decides whether a whole number is reached. -/
theorem natCast_le_iff (h : Splits x whole fractional) (n : ℕ) : (n : ℚ) ≤ x ↔ n ≤ whole := by
  rw [← h.floor_eq, Int.le_floor, Int.cast_natCast]

/-- A number with a fraction does not stay below a whole number that its whole part reaches. -/
theorem le_natCast_iff (h : Splits x whole fractional) (n : ℕ) :
    x ≤ n ↔ if fractional then whole < n else whole ≤ n := by
  cases fractional with
  | false =>
    rw [h.eq_whole_iff.2 rfl]
    norm_cast
  | true =>
    have hne : x ≠ n := by
      intro heq
      have hwhole : whole = n := by rw [← h.floor_eq, heq, Int.floor_natCast]
      have : x = whole := by rw [heq, hwhole, Int.cast_natCast]
      simp [h.eq_whole_iff] at this
    have hlt : x < n ↔ whole < n := by
      rw [← h.floor_eq, Int.floor_lt, Int.cast_natCast]
    rw [le_iff_lt_or_eq, hlt]
    simp [hne]

/-- A number is whole if it has no fraction. -/
theorem isInt_iff (h : Splits x whole fractional) : (∃ z : ℤ, x = z) ↔ fractional = false := by
  rw [← h.eq_whole_iff]
  constructor
  · rintro ⟨z, rfl⟩
    rw [← h.floor_eq, Int.floor_intCast]
  · exact fun heq => ⟨whole, heq⟩

end Splits

end Numerus
