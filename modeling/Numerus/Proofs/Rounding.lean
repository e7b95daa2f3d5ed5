import Numerus.Binary64.Shortest
import Numerus.Decimal.Rounding
import Numerus.Proofs.Answer
import Numerus.Proofs.Exactness

/-!
Rounding to a number of places.

A number is rounded to the nearest one with so many digits after the point, a half away from zero.
The number of digits that arithmetic works with is set so that this never needs more of them: a
carry takes one more digit than there are, and room for it is kept. So rounding fails only if more
working digits or places are asked for than there may be.

* `Decimal.coefficientAt_eq_floor` — what is rounded to.
* `Decimal.length_coefficientAt_le` — it has no more digits than arithmetic works with.
* `Decimal.rounded_eq_ok_iff` — when rounding has an answer, and which.
* `Binary64.adjusted_shortest_lt` — shortest forms of binary numbers are below a power of ten.
-/

namespace Numerus

/-! ### Numbers of digits -/

namespace Numeral

theorem length_pos (n : ℕ) : 0 < length n :=
  List.length_pos_iff.2 Nat.toDigits_ne_nil

theorem lt_powerOfTen_length (n : ℕ) : n < powerOfTen (length n) :=
  (length_le_iff (length_pos n)).1 (Nat.le_refl _)

theorem powerOfTen_length_le {n : ℕ} (h : 0 < n) : powerOfTen (length n - 1) ≤ n := by
  by_contra hlt
  by_cases hone : length n - 1 = 0
  · rw [hone] at hlt
    exact hlt h
  · have := (length_le_iff (Nat.pos_of_ne_zero hone)).2 (not_le.1 hlt)
    omega

theorem length_mul_powerOfTen_le (n k : ℕ) : length (n * powerOfTen k) ≤ length n + k := by
  have hpos := length_pos n
  rw [length_le_iff (by omega)]
  calc n * powerOfTen k < powerOfTen (length n) * powerOfTen k :=
        Nat.mul_lt_mul_of_pos_right (lt_powerOfTen_length n) (powerOfTen_pos k)
    _ = powerOfTen (length n + k) := (Nat.pow_add 10 (length n) k).symm

theorem checkCapacity_eq_ok_iff {length memory : ℕ} (h : memory < machineBound) :
    checkCapacity length memory = .ok () ↔ length ≤ memory := by
  unfold checkCapacity
  split
  · simp
    omega
  · split <;> simp <;> omega

end Numeral

/-- Rounding adds at most one to the quotient. -/
theorem halfUp_le (a : ℕ) {b : ℕ} (hb : 0 < b) : halfUp a b ≤ a / b + 1 := by
  have hlt : a < b * (a / b + 1) := Nat.lt_mul_div_succ a hb
  have : 2 * a + b < 2 * b * (a / b + 2) := by
    calc 2 * a + b < 2 * (b * (a / b + 1)) + 2 * b := by omega
      _ = 2 * b * (a / b + 2) := by ring
  exact Nat.le_of_lt_succ (Nat.div_lt_of_lt_mul this)

theorem halfEven_eq_or (a b : ℕ) : halfEven a b = a / b ∨ halfEven a b = a / b + 1 := by
  unfold halfEven
  grind

/-- A quotient rounded to a whole number is the floor of its value and a half. -/
theorem halfUp_eq_floor (a b : ℕ) (hb : 0 < b) : (halfUp a b : ℤ) = ⌊(a / b + 1 / 2 : ℚ)⌋ := by
  have hne : (b : ℚ) ≠ 0 := by exact_mod_cast hb.ne'
  have hquotient : (a / b + 1 / 2 : ℚ) = ((2 * a + b : ℕ) : ℚ) / ((2 * b : ℕ) : ℚ) := by
    push_cast
    field_simp
  rw [hquotient, Rat.floor_natCast_div_natCast]
  rfl

/-- Of the digits of a number those that are cut off are gone, and a carry may add one. -/
theorem Numeral.length_halfUp_le (n k : ℕ) :
    length (halfUp n (powerOfTen k)) ≤ length n - k + 1 := by
  have hlt : n / powerOfTen k < powerOfTen (length n - k) := by
    apply Nat.div_lt_of_lt_mul
    calc n < powerOfTen (length n) := lt_powerOfTen_length n
      _ ≤ powerOfTen (k + (length n - k)) := Nat.pow_le_pow_right (by decide) (by omega)
      _ = powerOfTen k * powerOfTen (length n - k) := Nat.pow_add 10 _ _
  have hle := halfUp_le n (powerOfTen_pos k)
  have hpos := powerOfTen_pos (length n - k)
  rw [length_le_iff (Nat.succ_pos _), powerOfTen_succ]
  omega

namespace Decimal

/-! ### What a number is rounded to -/

theorem rational_abs (d : Decimal) : d.abs.rational = |d.rational| := by
  have hpow : (0 : ℚ) < 10 ^ d.exponent := zpow_pos (by norm_num) d.exponent
  cases hnegative : d.negative <;> simp [rational, abs, hnegative, abs_mul, abs_of_pos hpow]

/-- `d.RoundsTo places r`: the number `r` is `d` with exactly `places` digits after the point,
rounded to the nearest such number, a half away from zero. -/
structure RoundsTo (d : Decimal) (places : ℕ) (r : Decimal) : Prop where
  negative_eq : r.negative = d.negative
  exponent_eq : r.exponent = -places
  coefficient_eq : (r.coefficient : ℤ) = ⌊|d.rational| * 10 ^ places + 1 / 2⌋

/-- The coefficient of a rounded number. In units of its last place the number is whole already if
it has no more digits than it is rounded to. -/
theorem coefficientAt_eq_floor (d : Decimal) (places : ℕ) :
    (d.coefficientAt places : ℤ) = ⌊|d.rational| * 10 ^ places + 1 / 2⌋ := by
  have hten : (10 : ℚ) ≠ 0 := by norm_num
  have hscaled : |d.rational| * 10 ^ places
      = d.coefficient * (10 : ℚ) ^ (d.exponent + places) := by
    rw [← rational_abs, zpow_add₀ hten, zpow_natCast, ← mul_assoc]
    simp [rational, abs]
  rw [hscaled]
  unfold coefficientAt
  by_cases hshift : 0 ≤ d.exponent + places
  · obtain ⟨k, hk⟩ := Int.eq_ofNat_of_zero_le hshift
    have hwhole : (d.coefficient : ℚ) * 10 ^ (k : ℤ) = ((d.coefficient * 10 ^ k : ℕ) : ℤ) := by
      push_cast
      rw [zpow_natCast]
    rw [if_pos hshift, hk, hwhole, Int.floor_intCast_add]
    norm_num [powerOfTen]
  · obtain ⟨k, hk⟩ := Int.eq_ofNat_of_zero_le (by omega : 0 ≤ -(d.exponent + places))
    have hquotient : (d.coefficient : ℚ) * 10 ^ (d.exponent + places)
        = d.coefficient / (powerOfTen k : ℕ) := by
      have : d.exponent + places = -(k : ℤ) := by omega
      rw [this, zpow_neg, zpow_natCast, div_eq_mul_inv]
      simp [powerOfTen]
    rw [if_neg hshift, hquotient, hk, Int.toNat_natCast]
    exact halfUp_eq_floor _ _ (powerOfTen_pos k)

/-! ### When rounding has an answer -/

/-- A rounded number never has more digits than arithmetic works with. -/
theorem length_coefficientAt_le (d : Decimal) (places : ℕ) :
    (Numeral.length (d.coefficientAt places) : ℤ) ≤ d.workingDigits places := by
  simp only [workingDigits, leastWorkingDigits, adjusted, coefficientAt]
  split
  · have := Numeral.length_mul_powerOfTen_le d.coefficient (d.exponent + places).toNat
    omega
  · have := Numeral.length_halfUp_le d.coefficient (-(d.exponent + places)).toNat
    omega

theorem checkWorkingDigits_eq_ok_iff {working : ℤ} :
    checkWorkingDigits working = .ok () ↔ working ≤ mostWorkingDigits := by
  have : mostWorkingDigits < Numeral.machineBound := by decide
  unfold checkWorkingDigits
  split
  · simp
    omega
  · split <;> simp <;> omega

/-- Rounding has an answer if neither too many working digits nor too many places are asked for. -/
theorem rounded_eq_ok_iff {d r : Decimal} {places : ℕ} :
    d.rounded places = .ok r ↔ d.workingDigits places ≤ mostWorkingDigits ∧
      places ≤ Fault.digitLimit ∧ r = ⟨d.negative, d.coefficientAt places, -places⟩ := by
  have hcapacity (h : places ≤ Fault.digitLimit) : places ≤ Text.capacity :=
    Nat.le_trans h (by decide)
  have hfits : ¬ (Numeral.length (d.coefficientAt places) : ℤ) > d.workingDigits places :=
    not_lt.2 (d.length_coefficientAt_le places)
  have hbound : Text.capacity < Numeral.machineBound := by decide
  simp only [rounded, if_neg hfits, check_bind_eq_ok_iff, pure_eq_ok_iff,
    checkWorkingDigits_eq_ok_iff, Numeral.checkCapacity_eq_ok_iff hbound,
    Numeral.checkLength_eq_ok_iff]
  constructor
  · rintro ⟨hworking, -, hplaces, rfl⟩
    exact ⟨hworking, hplaces, rfl⟩
  · rintro ⟨hworking, hplaces, rfl⟩
    exact ⟨hworking, hcapacity hplaces, hplaces, rfl⟩

/-- Rounding gives the rounded number. -/
theorem roundsTo_of_rounded {d r : Decimal} {places : ℕ} (h : d.rounded places = .ok r) :
    d.RoundsTo places r := by
  obtain ⟨-, -, rfl⟩ := rounded_eq_ok_iff.1 h
  exact ⟨rfl, rfl, d.coefficientAt_eq_floor places⟩

end Decimal

/-! ### Shortest forms -/

theorem powerOfTwo_le {j k : ℕ} (h : j ≤ k) : powerOfTwo j ≤ powerOfTwo k :=
  Nat.pow_le_pow_right (by decide) h

namespace Binary64

/-- Whether the number is one of 64 bits: its significand and its exponent have room there. -/
def InFormat : Binary64 → Prop
  | finite _ significand exponent =>
    significand < 2 * leadingBit ∧ leastExponent ≤ exponent ∧ exponent ≤ greatestExponent
  | _ => True

namespace Neighbourhood

theorem contains_of_neighbour? {n : Neighbourhood} {count digits : ℕ} {exponent : ℤ}
    (h : n.neighbour? count = some (digits, exponent)) : n.contains digits exponent = true := by
  simp only [neighbour?] at h
  split at h
  · next hbelow habove =>
    obtain ⟨rfl, rfl⟩ := Prod.mk.inj (Option.some.inj h)
    rcases halfEven_eq_or _ _ with heq | heq
    · rw [heq]
      exact hbelow
    · rw [heq]
      exact habove
  · next hbelow _ =>
    obtain ⟨rfl, rfl⟩ := Prod.mk.inj (Option.some.inj h)
    exact hbelow
  · next _ habove =>
    obtain ⟨rfl, rfl⟩ := Prod.mk.inj (Option.some.inj h)
    exact habove
  · simp at h

/-- The shortest number of an interval lies in it, if there is one. -/
theorem shortest_eq_or_contains (n : Neighbourhood) :
    n.shortest = (0, 0) ∨ n.contains n.shortest.1 n.shortest.2 = true := by
  unfold shortest
  cases h : (List.range' 1 17).findSome? n.neighbour? with
  | none => exact .inl rfl
  | some result =>
    obtain ⟨count, -, hcount⟩ := List.exists_of_findSome?_eq_some h
    exact .inr (contains_of_neighbour? hcount)

/-- A number in an interval that opens above zero is not zero and not above its upper end. -/
theorem bounds_of_contains {n : Neighbourhood} {digits : ℕ} {exponent : ℤ} (hlow : 0 < n.low)
    (hunit : 0 < n.unit) (h : n.contains digits exponent = true) :
    0 < digits ∧
      digits * powerOfTen exponent.toNat ≤ n.high * powerOfTen (-exponent).toNat := by
  have hpoint : n.low * powerOfTen (-exponent).toNat ≤ digits * powerOfTen exponent.toNat * n.unit ∧
      digits * powerOfTen exponent.toNat * n.unit ≤ n.high * powerOfTen (-exponent).toNat := by
    unfold contains at h
    split at h <;> simp only [Bool.and_eq_true, decide_eq_true_eq] at h <;> omega
  constructor
  · apply Nat.pos_of_ne_zero
    rintro rfl
    have := Nat.mul_pos hlow (powerOfTen_pos (-exponent).toNat)
    rw [Nat.zero_mul, Nat.zero_mul] at hpoint
    omega
  · calc digits * powerOfTen exponent.toNat
        ≤ digits * powerOfTen exponent.toNat * n.unit := Nat.le_mul_of_pos_right _ hunit
      _ ≤ _ := hpoint.2

end Neighbourhood

/-- The digits of a number that is not too large do not open too far before the point. -/
theorem adjusted_lt {d : Decimal} {k : ℕ} (hpos : 0 < d.coefficient)
    (h : d.coefficient * powerOfTen d.exponent.toNat
      < powerOfTen k * powerOfTen (-d.exponent).toNat) : d.adjusted < k := by
  have hpowers : (10 : ℕ) ^ (Numeral.length d.coefficient - 1 + d.exponent.toNat)
      < 10 ^ (k + (-d.exponent).toNat) := by
    rw [pow_add, pow_add]
    exact Nat.lt_of_le_of_lt
      (Nat.mul_le_mul_right _ (Numeral.powerOfTen_length_le hpos)) h
  have := (Nat.pow_lt_pow_iff_right (by decide)).1 hpowers
  have := Numeral.length_pos d.coefficient
  unfold Decimal.adjusted
  omega

/-- The shortest form of a number opens at the 309th digit before the point or after it. -/
theorem adjusted_shortest_lt {negative : Bool} {significand : ℕ} {exponent : ℤ}
    (h : (finite negative significand exponent).InFormat) :
    (shortest false significand exponent).adjusted < 309 := by
  obtain ⟨hsignificand, -, hexponent⟩ := h
  unfold shortest
  split
  · decide
  · next hne =>
    rcases (Neighbourhood.of significand exponent).shortest_eq_or_contains with heq | hcontains
    · rw [heq]
      decide
    · generalize (Neighbourhood.of significand exponent).shortest = result at hcontains
      obtain ⟨digits, place⟩ := result
      have hlow : 0 < (Neighbourhood.of significand exponent).low := by
        refine Nat.mul_pos ?_ (powerOfTwo_pos _)
        split <;> omega
      obtain ⟨hpos, hle⟩ := Neighbourhood.bounds_of_contains hlow (powerOfTwo_pos _) hcontains
      refine adjusted_lt hpos (Nat.lt_of_le_of_lt hle (Nat.mul_lt_mul_of_pos_right ?_
        (powerOfTen_pos _)))
      calc (4 * significand + 2) * powerOfTwo (exponent - 2).toNat
          ≤ powerOfTwo 55 * powerOfTwo 969 := by
            refine Nat.mul_le_mul ?_ (powerOfTwo_le ?_)
            · have : 2 * leadingBit = 9007199254740992 := by decide
              have : powerOfTwo 55 = 36028797018963968 := by decide
              omega
            · simp only [greatestExponent] at hexponent
              omega
        _ < powerOfTen 309 := by decide +kernel

end Binary64

end Numerus
