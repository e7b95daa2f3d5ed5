import Numerus.Proofs.DecimalText
import Numerus.Proofs.DigitLimits

/-!
Shortest forms of binary numbers read back from their texts.

A text of a shortest form has its digits without those zeros that close them, with a point and
perhaps an exponent, and with a zero behind the point where it would have no digit there. So the
number that is read is the shortest form with fewer or more closing zeros: it has the same value and
opens at the same place. Shortest forms have their digits within a thousand places around the point,
so nothing that is read is out of bounds, and rounding what is read does what rounding the shortest
form does.

* `Binary64.exists_significantDigits_eq` — digits without closing zeros.
* `Binary64.denotes_positional`, `Binary64.denotes_scientific` — what the two notations denote.
* `Binary64.exists_read?_write` — what is read from the text of a binary number.
* `Operands.of_binary_half_up` — the operands of a binary number are those of its text, rounded.
-/

namespace Numerus

/-! ### Closing zeros -/

theorem Numeral.length_mul_powerOfTen {n : ℕ} (hn : 0 < n) (k : ℕ) :
    length (n * powerOfTen k) = length n + k := by
  rw [length, ← ofNat_append_zeros hn, List.length_append, List.length_replicate, length]

namespace Decimal

/-- The number with `k` more zeros behind its digits. -/
def raise (d : Decimal) (k : ℕ) : Decimal :=
  ⟨d.negative, d.coefficient * powerOfTen k, d.exponent - k⟩

theorem rational_raise (d : Decimal) (k : ℕ) : (d.raise k).rational = d.rational := by
  have hten : (10 : ℚ) ≠ 0 := by norm_num
  have hpower : ((powerOfTen k : ℕ) : ℚ) = 10 ^ k := by simp [powerOfTen]
  simp only [rational, raise, Nat.cast_mul, hpower, zpow_sub₀ hten, zpow_natCast]
  field_simp
  exact mul_comm _ _

theorem adjusted_raise {d : Decimal} (hd : 0 < d.coefficient) (k : ℕ) :
    (d.raise k).adjusted = d.adjusted := by
  simp only [adjusted, raise, Numeral.length_mul_powerOfTen hd]
  omega

theorem inBounds_raise {d : Decimal} (hd : 0 < d.coefficient) {k : ℕ}
    (hexponent : leastExponent ≤ d.exponent - k) (hadjusted : d.adjusted ≤ greatestAdjusted) :
    (d.raise k).inBounds = true := by
  rw [← adjusted_raise hd k] at hadjusted
  rw [inBounds, Bool.and_eq_true]
  exact ⟨decide_eq_true hexponent, decide_eq_true hadjusted⟩

/-- The coefficient of a rounded number depends on its value alone. -/
theorem coefficientAt_congr {d d' : Decimal} (h : |d.rational| = |d'.rational|) (places : ℕ) :
    d.coefficientAt places = d'.coefficientAt places := by
  have hfloor := d.coefficientAt_eq_floor places
  rw [h, ← d'.coefficientAt_eq_floor] at hfloor
  exact_mod_cast hfloor

end Decimal

namespace Binary64

/-! ### Texts of shortest forms -/

/-- The digits that are left without closing zeros are those of a number. -/
theorem exists_significantDigits_eq {n : ℕ} (hn : 0 < n) :
    ∃ m k, n = m * powerOfTen k ∧ 0 < m ∧ significantDigits n = Numeral.ofNat m := by
  set zeros := ((Numeral.ofNat n).reverse.takeWhile (· == '0')).reverse with hzeros
  have hsplit : Numeral.ofNat n = significantDigits n ++ zeros := by
    rw [significantDigits, hzeros, ← List.reverse_append, List.takeWhile_append_dropWhile,
      List.reverse_reverse]
  have hreplicate : zeros = List.replicate zeros.length '0' := by
    refine List.eq_replicate_of_mem fun c hc => ?_
    simpa using List.mem_takeWhile_imp (List.mem_reverse.1 hc)
  have hvalue : n = Numeral.value (significantDigits n) * powerOfTen zeros.length := by
    rw [← Numeral.value_append_zeros, ← hreplicate, ← hsplit, Numeral.value_ofNat]
  have hpos : 0 < Numeral.value (significantDigits n) :=
    Nat.pos_of_ne_zero fun hzero => by
      rw [hzero, Nat.zero_mul] at hvalue
      omega
  have hsame : Numeral.ofNat (Numeral.value (significantDigits n)) ++ zeros
      = significantDigits n ++ zeros := by
    rw [← hsplit, hreplicate, Numeral.ofNat_append_zeros hpos, ← hvalue]
  exact ⟨_, zeros.length, hvalue, hpos, (List.append_cancel_right hsame).symm⟩

/-- A number that is not zero is one whose digits are written as they are, with closing zeros. -/
theorem exists_eq_raise {d : Decimal} (hd : 0 < d.coefficient) :
    ∃ (d' : Decimal) (k : ℕ), d = d'.raise k ∧ 0 < d'.coefficient ∧
      significantDigits d.coefficient = Numeral.ofNat d'.coefficient := by
  obtain ⟨m, k, hcoefficient, hm, hdigits⟩ := exists_significantDigits_eq hd
  refine ⟨⟨d.negative, m, d.exponent + k⟩, k, ?_, hm, hdigits⟩
  simp only [Decimal.raise, ← hcoefficient, Int.add_sub_cancel]

/-- Digits with the point behind the first of them and an exponent stand for the number. -/
theorem denotes_scientific (d : Decimal) :
    Decimal.Denotes (scientific (Numeral.ofNat d.coefficient) d.adjusted) d.coefficient
      d.exponent := by
  have hlength := Numeral.length_pos d.coefficient
  have hmark : Decimal.IsMark ('e' :: (if d.adjusted < 0 then '-' else '+') ::
      Text.padded 2 '0' (Numeral.ofNat d.adjusted.natAbs)) d.adjusted := by
    refine .written rfl ?_
    have hdigits : ∀ c ∈ Text.padded 2 '0' (Numeral.ofNat d.adjusted.natAbs),
        c.isDigit = true := by
      intro c hc
      rcases List.mem_append.1 hc with hc | hc
      · exact Numeral.isDigit_of_mem_zeros hc
      · exact Numeral.isDigit_of_mem_ofNat hc
    have hne : Text.padded 2 '0' (Numeral.ofNat d.adjusted.natAbs) ≠ [] :=
      List.append_ne_nil_of_right_ne_nil _ Nat.toDigits_ne_nil
    rw [Decimal.readDigits?_eq_some hne hdigits, Text.padded, Numeral.value_zeros_append,
      Numeral.value_ofNat]
  have hpointed : (Numeral.ofNat d.coefficient).take 1 ++
      (if (Numeral.ofNat d.coefficient).length ≤ 1 then []
        else '.' :: (Numeral.ofNat d.coefficient).drop 1)
      = Decimal.pointed (Numeral.ofNat d.coefficient) 1 := by
    unfold Decimal.pointed
    by_cases hone : (Numeral.ofNat d.coefficient).length ≤ 1
    · have hafter : ¬ 1 < (Numeral.ofNat d.coefficient).length := not_lt.2 hone
      have hnone : 1 - (Numeral.ofNat d.coefficient).length = 0 := by
        have : (Numeral.ofNat d.coefficient).length = Numeral.length d.coefficient := rfl
        omega
      simp [hone, hafter, hnone, List.take_of_length_le]
    · simp [hone, not_le.1 hone]
  have hdenotes := Decimal.denotes_pointed d.coefficient 1 hmark
  have hnone : (1 - (Numeral.length d.coefficient : ℤ)).toNat = 0 := by omega
  have hexponent : d.adjusted - ((Numeral.length d.coefficient : ℤ) - 1).toNat = d.exponent := by
    simp only [Decimal.adjusted]
    omega
  rwa [hnone, hexponent, ← hpointed, powerOfTen, Nat.pow_eq, Nat.pow_zero, Nat.mul_one] at hdenotes

/-- Digits with the point among them, or with zeros up to the point and one behind it, stand for the
number with so many more zeros. -/
theorem denotes_positional (d : Decimal) :
    ∃ k : ℕ, k ≤ d.adjusted.toNat + 1 ∧
      Decimal.Denotes (pointed (Numeral.ofNat d.coefficient) (d.adjusted + 1))
        (d.raise k).coefficient (d.raise k).exponent := by
  have hlength := Numeral.length_pos d.coefficient
  have hplaces : d.adjusted + 1 = d.exponent + Numeral.length d.coefficient := by
    simp only [Decimal.adjusted]
    omega
  have hdigits : (Numeral.ofNat d.coefficient).length = Numeral.length d.coefficient := rfl
  unfold pointed
  simp only [hdigits]
  split
  · next hall =>
    -- All digits stand before the point, and a zero is put behind it.
    obtain ⟨j, hj⟩ := Int.eq_ofNat_of_zero_le (by omega : 0 ≤ d.exponent)
    refine ⟨j + 1, by omega, ?_⟩
    have hwhole : Decimal.pointed (Numeral.ofNat d.coefficient) (d.adjusted + 1)
        = Numeral.ofNat d.coefficient ++ List.replicate j '0' := by
      have hbefore : ¬ d.adjusted + 1 ≤ 0 := by omega
      have hamong : ¬ (d.adjusted + 1).toNat < Numeral.length d.coefficient := by omega
      have hzeros : (d.adjusted + 1).toNat - Numeral.length d.coefficient = j := by omega
      rw [Decimal.pointed, if_neg hbefore, hdigits, if_neg hamong, hzeros]
    have hfraction : Numeral.ofNat d.coefficient ++ List.replicate j '0' ++ ['0']
        = Numeral.ofNat d.coefficient ++ List.replicate (j + 1) '0' := by
      rw [List.append_assoc, List.replicate_succ']
    have hall : ∀ c ∈ Numeral.ofNat d.coefficient ++ List.replicate j '0' ++ ['0'],
        c.isDigit = true := by
      intro c hc
      rw [hfraction] at hc
      rcases List.mem_append.1 hc with hc | hc
      · exact Numeral.isDigit_of_mem_ofNat hc
      · exact Numeral.isDigit_of_mem_zeros hc
    have hdenotes := Decimal.Denotes.intro (.point _ ['0']) hall
      (List.append_ne_nil_of_left_ne_nil Nat.toDigits_ne_nil _) .absent
    rw [List.append_nil, hfraction, Numeral.value_append_zeros, Numeral.value_ofNat] at hdenotes
    have hexponent : (0 : ℤ) - (['0'] : Text).length = d.exponent - (j + 1 : ℕ) := by
      rw [List.length_singleton]
      omega
    rw [hwhole]
    rwa [hexponent] at hdenotes
  · next hamong =>
    refine ⟨0, Nat.zero_le _, ?_⟩
    have hdenotes := Decimal.denotes_pointed d.coefficient (d.adjusted + 1) .absent
    have hnone : (d.adjusted + 1 - Numeral.length d.coefficient).toNat = 0 := by omega
    have hexponent : (0 : ℤ) - (Numeral.length d.coefficient - (d.adjusted + 1)).toNat
        = d.exponent - (0 : ℕ) := by
      omega
    rwa [List.append_nil, hnone, hexponent] at hdenotes

/-- In either notation digits stand for the number, with no more zeros than fit the positional one.
-/
theorem exists_denotes (d : Decimal) :
    ∃ k : ℕ, k ≤ 16 ∧ Decimal.Denotes
      (if positional.1 ≤ d.adjusted ∧ d.adjusted < positional.2
        then pointed (Numeral.ofNat d.coefficient) (d.adjusted + 1)
        else scientific (Numeral.ofNat d.coefficient) d.adjusted)
      (d.raise k).coefficient (d.raise k).exponent := by
  split
  · next hpositional =>
    have hlimit : positional.2 = 16 := rfl
    obtain ⟨k, hk, hdenotes⟩ := denotes_positional d
    exact ⟨k, by omega, hdenotes⟩
  · refine ⟨0, Nat.zero_le _, ?_⟩
    have hdenotes := denotes_scientific d
    simpa [Decimal.raise, powerOfTen] using hdenotes

/-- The text of a shortest form is read as a number of the same value that opens at the same place;
of zero it shows one digit after the point. -/
theorem exists_read?_writeShortest {d : Decimal} (hleast : -1100 ≤ d.exponent)
    (hgreatest : d.adjusted < 309) :
    ∃ r, ExtendedDecimal.read? (writeShortest d) = some (.finite r) ∧ r.rational = d.rational ∧
      r.adjusted ≤ max 0 d.adjusted := by
  unfold writeShortest
  simp only
  by_cases hzero : d.coefficient = 0
  · have hdigits : ∀ c ∈ (['0'] ++ ['0'] : Text), c.isDigit = true :=
      fun _ => Numeral.isDigit_of_mem_zeros (k := 2)
    have hdenotes := Decimal.Denotes.intro (.point ['0'] ['0']) hdigits (by simp) .absent
    have hadjusted : Decimal.adjusted ⟨d.negative, 0, -1⟩ = -1 := by
      have hlength : Numeral.length 0 = 1 := by decide
      simp only [Decimal.adjusted, hlength]
      omega
    refine ⟨⟨d.negative, 0, -1⟩, ?_, ?_, by omega⟩
    · rw [if_pos hzero]
      exact hdenotes.read?_eq (by cases d.negative <;> decide)
    · simp [Decimal.rational, hzero]
  · obtain ⟨d', k, rfl, hpos, hdigits⟩ := exists_eq_raise (Nat.pos_of_ne_zero hzero)
    obtain ⟨j, hj, hdenotes⟩ := exists_denotes d'
    rw [Decimal.adjusted_raise hpos] at hgreatest
    have hbounds : (d'.raise j).inBounds = true := by
      refine Decimal.inBounds_raise hpos ?_ ?_
      · simp only [Decimal.raise] at hleast
        simp only [Decimal.leastExponent]
        omega
      · simp only [Decimal.greatestAdjusted]
        omega
    refine ⟨d'.raise j, ?_, ?_, ?_⟩
    · rw [if_neg hzero, hdigits, Decimal.adjusted_raise hpos,
        ← apply_ite ((if (d'.raise k).negative then ['-'] else []) ++ ·)]
      exact hdenotes.read?_eq hbounds
    · rw [Decimal.rational_raise, Decimal.rational_raise]
    · rw [Decimal.adjusted_raise hpos, Decimal.adjusted_raise hpos]
      exact le_max_right _ _

/-! ### Exponents of shortest forms -/

theorem length_powerOfTwo_le (k : ℕ) : Numeral.length (powerOfTwo k) ≤ k + 1 :=
  (Numeral.length_le_iff (Nat.succ_pos k)).2 <|
    calc 2 ^ k ≤ 10 ^ k := Nat.pow_le_pow_left (by decide) k
      _ < 10 ^ (k + 1) := Nat.pow_lt_pow_right (by decide) (Nat.lt_succ_self k)

/-- The last digit of a shortest form stands at most 17 digits behind the first one. -/
theorem Neighbourhood.le_exponent_shortest (n : Neighbourhood) :
    -(Numeral.length n.unit + 16 : ℤ) ≤ n.shortest.2 := by
  unfold shortest
  cases h : (List.range' 1 17).findSome? n.neighbour? with
  | none =>
    simp only [Option.getD_none]
    omega
  | some result =>
    obtain ⟨count, hmem, hcount⟩ := List.exists_of_findSome?_eq_some h
    have hexponent : result.2 = n.decade - count := by
      simp only [neighbour?] at hcount
      split at hcount <;> simp only [Option.some.injEq, reduceCtorEq] at hcount <;> rw [← hcount]
    have hdecade : (1 : ℤ) - Numeral.length n.unit ≤ n.decade := by
      have := Numeral.length_pos n.mid
      simp only [decade]
      split <;> omega
    have := List.mem_range'_1.1 hmem
    simp only [Option.getD_some, hexponent]
    omega

theorem le_exponent_shortest {negative : Bool} {significand : ℕ} {exponent : ℤ}
    (h : (finite negative significand exponent).InFormat) :
    -1100 ≤ (shortest false significand exponent).exponent := by
  obtain ⟨-, hexponent, -⟩ := h
  unfold shortest
  split
  · decide
  · have hshortest := (Neighbourhood.of significand exponent).le_exponent_shortest
    have hunit : Numeral.length (Neighbourhood.of significand exponent).unit
        ≤ (2 - exponent).toNat + 1 := length_powerOfTwo_le _
    simp only [leastExponent] at hexponent
    simp only
    omega

/-- The text of a binary number is read as a number of the same value as its shortest form. -/
theorem exists_read?_write {negative : Bool} {significand : ℕ} {exponent : ℤ}
    (h : (finite negative significand exponent).InFormat) :
    ∃ r, ExtendedDecimal.read? (finite negative significand exponent).write = some (.finite r) ∧
      |r.rational| = |(shortest false significand exponent).rational| ∧ r.adjusted < 309 := by
  have habs := shortest_abs negative significand exponent
  have hleast : -1100 ≤ (shortest negative significand exponent).abs.exponent :=
    habs ▸ le_exponent_shortest h
  have hgreatest : (shortest negative significand exponent).abs.adjusted < 309 :=
    habs ▸ adjusted_shortest_lt h
  obtain ⟨r, hread, hrational, hadjusted⟩ := exists_read?_writeShortest
    (d := shortest negative significand exponent) hleast hgreatest
  refine ⟨r, hread, ?_, lt_of_le_of_lt hadjusted (max_lt (by decide) hgreatest)⟩
  rw [← habs, Decimal.rational_abs, abs_abs, hrational]

end Binary64

/-! ### Rounding what is read -/

/-- A number that does not open too far before the point is rounded to all places that may be
asked for. -/
theorem Decimal.rounded_abs {d : Decimal} (hd : d.adjusted < 309) {places : ℕ}
    (hplaces : places ≤ Fault.digitLimit) :
    d.abs.rounded places = .ok ⟨false, d.coefficientAt places, -places⟩ := by
  have hlimit : Fault.digitLimit = 4300 := rfl
  have habs : d.abs.adjusted = d.adjusted := rfl
  refine rounded_eq_ok_iff.2 ⟨?_, hplaces, rfl⟩
  simp only [workingDigits, leastWorkingDigits, mostWorkingDigits]
  omega

namespace Operands

/-- **A binary number is rounded half up to the places asked for.** Let a binary number be written
in its shortest form, and let `r` be the decimal number that is read from this text. For every
number of places within the limit on numerals, rounding `r` without its sign has an answer: its
digits, a carry into a new first digit included, are never more than arithmetic is told to work
with. The operands of the binary number are those of the answer. It has so many digits after the
point, and counted in units of the last of them it is the whole part of `r`, without its sign and
increased by a half. -/
theorem of_binary_half_up {negative : Bool} {significand : ℕ} {exponent : ℤ}
    (hformat : (Binary64.finite negative significand exponent).InFormat) {places : ℕ}
    (hplaces : places ≤ Fault.digitLimit) :
    ∃ r o, ExtendedDecimal.read? (Binary64.finite negative significand exponent).write
          = some (.finite r) ∧
      of (.binary (.finite negative significand exponent)) (.integer places) = .ok o ∧
      r.abs.rounded places = .ok o.n ∧ o.n.exponent = -places ∧ o.v = places ∧
      o.n.rational * 10 ^ places = ⌊|r.rational| * 10 ^ places + 1 / 2⌋ ∧
      (Numeral.length o.n.coefficient : ℤ) ≤ max 28 (r.adjusted + places + 2) := by
  obtain ⟨r, hread, hrational, hadjusted⟩ := Binary64.exists_read?_write hformat
  set answer : Decimal := ⟨false, r.coefficientAt places, -places⟩ with hanswer
  have hrounded : r.abs.rounded places = .ok answer := Decimal.rounded_abs hadjusted hplaces
  have hshortest : (Binary64.shortest false significand exponent).rounded places = .ok answer := by
    rw [hanswer, Decimal.coefficientAt_congr hrational, ← Binary64.shortest_abs false]
    exact Decimal.rounded_abs (Binary64.adjusted_shortest_lt hformat) hplaces
  have hn : (digitsOf answer).n = answer := (describes_digitsOf answer).n_eq
  have hv : (digitsOf answer).v = max 0 (-answer.exponent) := (describes_digitsOf answer).v_eq
  refine ⟨r, digitsOf answer, hread, ?_, ?_⟩
  · have hreadable := Binary64.isReadable_rounded .usual hformat hshortest
    exact bind_eq_ok_iff.2 ⟨_, hshortest, ofDecimal_eq_ok_iff.2 ⟨hreadable, rfl⟩⟩
  · rw [hn, hv]
    refine ⟨hrounded, rfl, by simp [hanswer], ?_, r.length_coefficientAt_le places⟩
    have hvalue : answer.rational * 10 ^ places = r.coefficientAt places := by
      simp [Decimal.rational, hanswer]
    rw [hvalue, ← r.coefficientAt_eq_floor]
    exact (Int.cast_natCast _).symm

/-- The nearest binary number to 9.9995 carries into a new first digit. -/
theorem of_binary_half_up_carry :
    (Binary64.finite false 5629218059236409 (-49)).write = "9.9995".toList ∧
      ∃ r o, ExtendedDecimal.read? (Binary64.finite false 5629218059236409 (-49)).write
            = some (.finite r) ∧
        of (.binary (.finite false 5629218059236409 (-49))) (.integer 3) = .ok o ∧
        r.abs.rounded 3 = .ok o.n ∧ o.n.exponent = -3 ∧ o.v = 3 ∧
        o.n.rational * 10 ^ 3 = ⌊|r.rational| * 10 ^ 3 + 1 / 2⌋ ∧
        (Numeral.length o.n.coefficient : ℤ) ≤ max 28 (r.adjusted + 3 + 2) := by
  refine ⟨by decide +kernel, ?_⟩
  exact of_binary_half_up ⟨by decide, by decide, by decide⟩ (by decide)

end Operands

end Numerus
