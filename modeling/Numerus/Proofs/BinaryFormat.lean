import Numerus.Binary64.Reader
import Numerus.Proofs.Rounding

/-!
Binary numbers that are read are numbers of 64 bits.

The closest number to a quotient is found at the exponent at which the quotient has 53 bits before
its point, or at the least exponent if this is greater. That exponent is estimated by the bits of
the two sides and lowered by one if it turns out too great. So the significand has no more than 53
bits, unless rounding carries into the next one, where the exponent is raised; and it has no fewer
if the exponent is not the least one.

* `Binary64.exists_ofRatio_eq` — the exponent of the closest number, by the value of the quotient.
* `Binary64.atExponent_isCanonical` — rounding at this exponent.
* `Binary64.nearest_isCanonical`, `Binary64.read?_isCanonical` — numbers that are rounded or read.
-/

namespace Numerus.Binary64

/-- Whether the number is written as 64 bits write it: they have room for it, and its significand
has all its bits unless it has the least exponent. -/
def IsCanonical : Binary64 → Prop
  | finite negative significand exponent => (finite negative significand exponent).InFormat ∧
    (leastExponent < exponent → leadingBit ≤ significand)
  | _ => True

theorem IsCanonical.inFormat {x : Binary64} (h : x.IsCanonical) : x.InFormat := by
  cases x with
  | finite => exact h.1
  | _ => trivial

/-! ### Quotients at an exponent -/

variable {a b : ℕ} {e e' : ℤ}

/-- A quotient in units of `2 ^ e` is compared with a power of two by its value. -/
theorem scaled_lt_iff (k : ℕ) :
    a * powerOfTwo (-e).toNat < powerOfTwo k * (b * powerOfTwo e.toNat) ↔
      (a : ℚ) < 2 ^ (k + e) * b := by
  have htwo : (2 : ℚ) ≠ 0 := by norm_num
  have hpower (j : ℕ) : (powerOfTwo j : ℚ) = 2 ^ (j : ℤ) := by simp [powerOfTwo]
  have hparts : (e.toNat : ℤ) = e + (-e).toNat := by omega
  have hright : ((powerOfTwo k * (b * powerOfTwo e.toNat) : ℕ) : ℚ)
      = 2 ^ (k + e) * b * 2 ^ ((-e).toNat : ℤ) := by
    rw [Nat.cast_mul, Nat.cast_mul, hpower, hpower, hparts, zpow_add₀ htwo, zpow_add₀ htwo]
    ring
  rw [← Nat.cast_lt (α := ℚ), hright, Nat.cast_mul, hpower]
  exact mul_lt_mul_iff_left₀ (zpow_pos (by norm_num) _)

/-- The bits of the two sides bound their quotient from above. -/
theorem lt_of_log2 (a : ℕ) (hb : b ≠ 0) (he : (a.log2 : ℤ) - b.log2 ≤ e) :
    (a : ℚ) < 2 ^ (1 + e) * b := by
  have htwo : (2 : ℚ) ≠ 0 := by norm_num
  calc (a : ℚ) < 2 ^ ((a.log2 : ℤ) + 1) := by exact_mod_cast Nat.lt_log2_self (n := a)
    _ ≤ 2 ^ (1 + e + (b.log2 : ℤ)) := zpow_le_zpow_right₀ (by norm_num) (by omega)
    _ = 2 ^ (1 + e) * 2 ^ (b.log2 : ℤ) := zpow_add₀ htwo _ _
    _ ≤ 2 ^ (1 + e) * b := by
      refine mul_le_mul_of_nonneg_left ?_ (zpow_pos (by norm_num) _).le
      exact_mod_cast Nat.log2_self_le hb

/-- The bits of the two sides bound their quotient from below. -/
theorem le_of_log2 (b : ℕ) (ha : a ≠ 0) (he : e ≤ (a.log2 : ℤ) - b.log2 - 1) :
    2 ^ e * (b : ℚ) ≤ a := by
  have htwo : (2 : ℚ) ≠ 0 := by norm_num
  calc 2 ^ e * (b : ℚ) ≤ 2 ^ e * 2 ^ ((b.log2 : ℤ) + 1) := by
        refine mul_le_mul_of_nonneg_left ?_ (zpow_pos (by norm_num) _).le
        exact_mod_cast (Nat.lt_log2_self (n := b)).le
    _ = 2 ^ (e + (b.log2 + 1)) := (zpow_add₀ htwo _ _).symm
    _ ≤ 2 ^ (a.log2 : ℤ) := zpow_le_zpow_right₀ (by norm_num) (by omega)
    _ ≤ a := by exact_mod_cast Nat.log2_self_le ha

/-- A quotient is not above a bound that a greater exponent raises. -/
theorem lt_of_exponent_le {k : ℤ} (h : (a : ℚ) < 2 ^ (k + e) * b) (he : e ≤ e') :
    (a : ℚ) < 2 ^ (k + e') * b := by
  refine h.trans_le (mul_le_mul_of_nonneg_right ?_ (Nat.cast_nonneg b))
  exact zpow_le_zpow_right₀ (by norm_num) (by omega)

/-- The closest number to a quotient is found at an exponent at which it has 53 bits before its
point, or fewer at the least exponent. -/
theorem exists_ofRatio_eq (negative : Bool) (ha : a ≠ 0) (hb : b ≠ 0) :
    ∃ e, ofRatio negative a b =
        atExponent negative (a * powerOfTwo (-e).toNat) (b * powerOfTwo e.toNat) e ∧
      leastExponent ≤ e ∧ (a : ℚ) < 2 ^ (53 + e) * b ∧
      (leastExponent < e → 2 ^ (52 + e) * (b : ℚ) ≤ a) := by
  have hshort (guess : ℤ) :
      a * powerOfTwo (-guess).toNat < leadingBit * (b * powerOfTwo guess.toNat) ↔
        (a : ℚ) < 2 ^ (52 + guess) * b := scaled_lt_iff 52
  refine ⟨_, rfl, le_max_left _ _, ?_, ?_⟩
  · simp only [hshort]
    refine lt_of_exponent_le ?_ (le_max_right _ _)
    split
    · next h =>
      have : (53 : ℤ) + ((a.log2 : ℤ) - b.log2 - 52 - 1) = 52 + ((a.log2 : ℤ) - b.log2 - 52) := by
        ring
      rwa [this]
    · have := lt_of_log2 a hb (le_refl ((a.log2 : ℤ) - b.log2))
      convert this using 3
      ring
  · intro hleast
    rw [max_eq_right_of_lt (by simpa using hleast)]
    simp only [hshort]
    split
    · exact le_of_log2 b ha (by omega)
    · next h => exact not_lt.1 h

/-! ### Rounding at an exponent -/

/-- At an exponent at which the quotient has 53 bits before its point the closest number has them
too, or it is the next power of two. -/
theorem atExponent_isCanonical (negative : Bool) (hb : 0 < b) (hleast : leastExponent ≤ e)
    (hlt : a < 2 * leadingBit * b) (hnormal : leastExponent < e → leadingBit * b ≤ a) :
    (atExponent negative a b e).IsCanonical := by
  have hquotient : a / b < 2 * leadingBit := Nat.div_lt_of_lt_mul (by rwa [Nat.mul_comm b])
  have hbits : leastExponent < e → leadingBit ≤ a / b := fun h =>
    (Nat.le_div_iff_mul_le hb).2 (hnormal h)
  have hleading : 0 < leadingBit := powerOfTwo_pos 52
  unfold atExponent
  by_cases hcarries : halfEven a b = 2 * leadingBit
  · simp only [if_pos hcarries]
    split
    · trivial
    · next hgreatest =>
      exact ⟨⟨by omega, by omega, not_lt.1 hgreatest⟩, fun _ => Nat.le_refl _⟩
  · simp only [if_neg hcarries]
    split
    · trivial
    · next hgreatest =>
      rcases halfEven_eq_or a b with heq | heq
      · rw [heq]
        exact ⟨⟨hquotient, hleast, not_lt.1 hgreatest⟩, hbits⟩
      · rw [heq] at hcarries ⊢
        exact ⟨⟨by omega, hleast, not_lt.1 hgreatest⟩, fun h => Nat.le_succ_of_le (hbits h)⟩

theorem ofRatio_isCanonical (negative : Bool) (ha : a ≠ 0) (hb : b ≠ 0) :
    (ofRatio negative a b).IsCanonical := by
  obtain ⟨e, heq, hleast, hlt, hnormal⟩ := exists_ofRatio_eq negative ha hb
  rw [heq]
  refine atExponent_isCanonical negative (Nat.mul_pos (Nat.pos_of_ne_zero hb) (powerOfTwo_pos _))
    hleast ?_ ?_
  · have : 2 * leadingBit = powerOfTwo 53 := by decide
    rw [this]
    exact (scaled_lt_iff 53).2 hlt
  · intro h
    exact not_lt.1 fun hshort => absurd ((scaled_lt_iff 52).1 hshort) (not_lt.2 (hnormal h))

/-! ### Numbers that are read -/

/-- Decimal numbers are rounded to numbers of 64 bits. -/
theorem nearest_isCanonical (d : Decimal) : (nearest d).IsCanonical := by
  unfold nearest
  split
  · exact ⟨⟨by decide, by decide, by decide⟩, fun h => absurd h (by decide)⟩
  · next hne =>
    have hcoefficient : d.coefficient ≠ 0 := fun h => hne (.inl h)
    split
    · trivial
    · exact ofRatio_isCanonical _ (Nat.mul_ne_zero hcoefficient (powerOfTen_pos _).ne')
        (powerOfTen_pos _).ne'

/-- Texts are read as numbers of 64 bits. -/
theorem read?_isCanonical {t : Text} {x : Binary64} (h : read? t = some x) : x.IsCanonical := by
  unfold read? at h
  simp only at h
  split at h
  · rcases Option.or_eq_some_iff.1 h with hnumber | ⟨-, hspecial⟩
    · obtain ⟨d, -, rfl⟩ := Option.map_eq_some_iff.1 hnumber
      exact nearest_isCanonical d
    · unfold readSpecial? at hspecial
      split at hspecial
      · cases hspecial
        trivial
      · split at hspecial
        · cases hspecial
          trivial
        · cases hspecial
  · cases h

end Numerus.Binary64
