import Mathlib.Data.List.DropRight
import Numerus.Numeral.Basic

/-!
Digits and the numbers that they stand for.

A number is written with one sequence of digits that does not open with a zero, unless it is zero.
Every other sequence of digits that stands for it has zeros in front of this one.

* `Numeral.value_append`, `Numeral.value_lt` — digits one after another, and how large they make a
  number.
* `Numeral.trimmedEnd_append_zeros`, `Numeral.value_trimmedEnd_mod_ten` — digits without the zeros
  that close them.
* `Numeral.ofNat_value` — digits that open with no zero are the numeral of what they stand for.
* `Numeral.exists_eq_zeros_append` — all digits are, apart from zeros in front.
-/

namespace Numerus.Numeral

/-- Digits before others stand that many places higher. -/
theorem value_append (s t : Text) : value (s ++ t) = value s * powerOfTen t.length + value t := by
  rw [value, Nat.ofDigitChars_append, Nat.ofDigitChars_eq_ofDigitChars_zero, Nat.mul_comm]
  rfl

@[simp] theorem value_zeros (k : Nat) : value (List.replicate k '0') = 0 := by
  rw [value, Nat.ofDigitChars_replicate_zero, Nat.mul_zero]

/-- Zeros in front make no difference. -/
theorem value_zeros_append (k : Nat) (t : Text) : value (List.replicate k '0' ++ t) = value t := by
  rw [value_append, value_zeros, Nat.zero_mul, Nat.zero_add]

/-- Zeros at the end raise the number. -/
theorem value_append_zeros (t : Text) (k : Nat) :
    value (t ++ List.replicate k '0') = value t * powerOfTen k := by
  rw [value_append, value_zeros, Nat.add_zero, List.length_replicate]

theorem isDigit_of_mem_zeros {k : Nat} {c : Char} (h : c ∈ List.replicate k '0') :
    c.isDigit = true := by
  rw [List.eq_of_mem_replicate h]
  rfl

/-- A digit is that of its value. -/
theorem digitChar_of_isDigit {c : Char} (h : c.isDigit = true) :
    c.toNat - '0'.toNat < 10 ∧ Nat.digitChar (c.toNat - '0'.toNat) = c := by
  simp only [Char.isDigit, Bool.and_eq_true, decide_eq_true_eq, UInt32.le_iff_toNat_le] at h
  obtain ⟨hlow, hhigh⟩ : 48 ≤ c.toNat ∧ c.toNat ≤ 57 := h
  have hzero : '0'.toNat = 48 := rfl
  have hlt : c.toNat - '0'.toNat < 10 := by omega
  refine ⟨hlt, Char.toNat_inj.1 ?_⟩
  rw [Nat.toNat_digitChar_of_lt_ten hlt]
  omega

theorem value_singleton (c : Char) : value [c] = c.toNat - '0'.toNat := by
  rw [value, Nat.ofDigitChars_cons, Nat.mul_zero, Nat.zero_add, Nat.ofDigitChars_nil]

/-- So many digits stand for less than the next power of ten. -/
theorem value_lt {t : Text} (h : ∀ c ∈ t, c.isDigit = true) : value t < powerOfTen t.length := by
  induction t with
  | nil => decide
  | cons c t ih =>
    have hc : value [c] ≤ 9 := by
      have := (digitChar_of_isDigit (h c List.mem_cons_self)).1
      rw [value_singleton]
      omega
    have ht := ih fun d hd => h d (List.mem_cons_of_mem _ hd)
    calc value (c :: t) = value [c] * powerOfTen t.length + value t := value_append [c] t
      _ ≤ 9 * powerOfTen t.length + value t := Nat.add_le_add_right (Nat.mul_le_mul_right _ hc) _
      _ < powerOfTen (t.length + 1) := by
        rw [powerOfTen_succ]
        omega

/-- Digits are what is left of them at their end without zeros, and so many zeros. -/
theorem trimmedEnd_append_zeros (t : Text) :
    t.trimmedEnd '0' ++ List.replicate (t.length - (t.trimmedEnd '0').length) '0' = t := by
  have hsplit : t.trimmedEnd '0' ++ t.rtakeWhile (· == '0') = t :=
    List.rdropWhile_append_rtakeWhile
  have hlength := congrArg List.length hsplit
  rw [List.length_append] at hlength
  have hzeros : t.rtakeWhile (· == '0') =
      List.replicate (t.length - (t.trimmedEnd '0').length) '0' := by
    refine List.eq_replicate_iff.2 ⟨by omega, fun c hc => ?_⟩
    simpa using List.mem_rtakeWhile_imp hc
  rw [← hzeros, hsplit]

/-- Digits that do not close with a zero are no multiple of ten. -/
theorem value_trimmedEnd_mod_ten {t : Text} (h : ∀ c ∈ t, c.isDigit = true)
    (hne : t.trimmedEnd '0' ≠ []) : value (t.trimmedEnd '0') % 10 ≠ 0 := by
  set last := (t.trimmedEnd '0').getLast hne
  have hlast : last ≠ '0' := ne_of_beq_false <| Bool.eq_false_iff.2 <|
    List.rdropWhile_last_not (· == '0') t hne
  have hmem : last ∈ t := (List.rdropWhile_prefix (· == '0') t).subset (List.getLast_mem hne)
  obtain ⟨hlt, hdigit⟩ := digitChar_of_isDigit (h last hmem)
  have hvalue : value [last] ≠ 0 := by
    intro hzero
    rw [value_singleton] at hzero
    rw [hzero] at hdigit
    exact hlast hdigit.symm
  have hsplit : (t.trimmedEnd '0').dropLast ++ [last] = t.trimmedEnd '0' :=
    List.dropLast_append_getLast hne
  have hten : powerOfTen [last].length = 10 := rfl
  rw [← hsplit, value_append, hten]
  rw [← value_singleton] at hlt
  omega

/-- More digits go on with the numeral of a number that is not zero. -/
theorem ofNat_append {n : Nat} (hn : 0 < n) {t : Text} (ht : ∀ c ∈ t, c.isDigit = true) :
    ofNat n ++ t = ofNat (Nat.ofDigitChars 10 t n) := by
  induction t generalizing n with
  | nil => rw [List.append_nil, Nat.ofDigitChars_nil]
  | cons c t ih =>
    obtain ⟨hlt, hc⟩ := digitChar_of_isDigit (ht c List.mem_cons_self)
    have hone : ofNat n ++ [c] = ofNat (10 * n + (c.toNat - '0'.toNat)) := by
      have := Nat.toDigits_append_toDigits (by decide : 1 < 10) hn hlt
      rwa [Nat.toDigits_of_lt_base hlt, hc] at this
    rw [List.append_cons, hone, ih (by omega) fun d hd => ht d (List.mem_cons_of_mem _ hd),
      Nat.ofDigitChars_cons]

theorem ofNat_append_zeros {n : Nat} (hn : 0 < n) (k : Nat) :
    ofNat n ++ List.replicate k '0' = ofNat (n * powerOfTen k) := by
  rw [ofNat_append hn fun _ => isDigit_of_mem_zeros, Nat.ofDigitChars_replicate_zero, Nat.mul_comm]
  rfl

/-- Digits that do not open with a zero are the numeral of the number that they stand for. -/
theorem ofNat_value {c : Char} {t : Text} (hc : c ≠ '0') (h : ∀ d ∈ c :: t, d.isDigit = true) :
    ofNat (value (c :: t)) = c :: t := by
  obtain ⟨hlt, hdigit⟩ := digitChar_of_isDigit (h c List.mem_cons_self)
  have hpos : 0 < c.toNat - '0'.toNat := by
    apply Nat.pos_of_ne_zero
    intro hzero
    rw [hzero] at hdigit
    exact hc hdigit.symm
  have hvalue : value (c :: t) = Nat.ofDigitChars 10 t (c.toNat - '0'.toNat) := by
    rw [value, Nat.ofDigitChars_cons, Nat.mul_zero, Nat.zero_add]
  rw [hvalue, ← ofNat_append hpos fun d hd => h d (List.mem_cons_of_mem _ hd), ofNat,
    Nat.toDigits_of_lt_base hlt, hdigit]
  rfl

/-- Digits are the numeral of the number that they stand for, with zeros in front. -/
theorem exists_eq_zeros_append {t : Text} (hne : t ≠ []) (h : ∀ c ∈ t, c.isDigit = true) :
    ∃ k, t = List.replicate k '0' ++ ofNat (value t) := by
  induction t with
  | nil => exact absurd rfl hne
  | cons c t ih =>
    by_cases hc : c = '0'
    · subst hc
      have hvalue : value ('0' :: t) = value t := value_zeros_append 1 t
      by_cases ht : t = []
      · subst ht
        exact ⟨0, rfl⟩
      · obtain ⟨k, hk⟩ := ih ht fun d hd => h d (List.mem_cons_of_mem _ hd)
        refine ⟨k + 1, ?_⟩
        rw [hvalue, List.replicate_succ, List.cons_append, ← hk]
    · refine ⟨0, ?_⟩
      rw [ofNat_value hc h]
      rfl

end Numerus.Numeral
