import Mathlib.Data.List.TakeWhile
import Numerus.Operands.OfNumber
import Numerus.Proofs.Digits

/-!
Decimal numbers read back from their texts.

A written number has a sign, digits with a point somewhere among them or nowhere, and perhaps an
exponent. The reader takes the digits before and after the point together and counts those after it,
so wherever the writer puts the point, the same digits come back, closing zeros included.

* `Decimal.Denotes` — the number that digits, a point and an exponent make.
* `Decimal.Denotes.read?_eq` — what is read from them.
* `Decimal.denotes_pointed`, `Decimal.denotes_magnitude` — what is written denotes the number.
* `Decimal.read?_write`, `Decimal.inBounds_of_read?` — a number within bounds is read back from its
  text, and only such numbers are read.
* `Operands.of_written_decimal` — a decimal number and its text have the same operands.
-/

namespace Numerus

/-! ### Characters of numbers -/

/-- Whether the character may stand in the text of a number. -/
def IsNumeric (c : Char) : Prop := c.isDigit = true ∨ c ∈ ['.', '+', '-', 'e', 'E']

/-- The characters of numbers are those of ASCII, and no blank and no underscore is among them. -/
theorem IsNumeric.plain {c : Char} (h : IsNumeric c) :
    isBlank c = false ∧ c ≠ '_' ∧ plainDigit c = c := by
  have hdigits : ∀ n ∈ List.range' 48 10, isBlank (Char.ofNat n) = false ∧ Char.ofNat n ≠ '_' ∧
      plainDigit (Char.ofNat n) = Char.ofNat n := by
    decide
  rcases h with h | h
  · simp only [Char.isDigit, Bool.and_eq_true, decide_eq_true_eq, UInt32.le_iff_toNat_le] at h
    obtain ⟨hlow, hhigh⟩ : 48 ≤ c.toNat ∧ c.toNat ≤ 57 := h
    have := hdigits c.toNat (List.mem_range'_1.2 (by omega))
    rwa [Char.ofNat_toNat] at this
  · simp only [List.mem_cons, List.not_mem_nil, or_false] at h
    rcases h with rfl | rfl | rfl | rfl | rfl <;> decide

namespace Decimal

/-! ### Points and exponents -/

/-- `IsPointed t whole fraction`: the text is made of digits, those of `whole` before the point and
those of `fraction` after it; without a point all are before it. -/
inductive IsPointed : Text → Text → Text → Prop where
  | plain (whole : Text) : IsPointed whole whole []
  | point (whole fraction : Text) : IsPointed (whole ++ '.' :: fraction) whole fraction

/-- `IsMark t e`: the text marks the exponent `e`; no text marks zero. -/
inductive IsMark : Text → Int → Prop where
  | absent : IsMark [] 0
  | written {mark : Char} {e : Int} {digits : Text} : isExponentMark mark = true →
      readDigits? digits = some e.natAbs →
      IsMark (mark :: (if e < 0 then '-' else '+') :: digits) e

theorem readDigits?_eq_some {t : Text} (hne : t ≠ []) (h : ∀ c ∈ t, c.isDigit = true) :
    readDigits? t = some (Numeral.value t) := by
  rw [readDigits?, if_pos ⟨hne, List.all_eq_true.2 h⟩]

theorem IsMark.read {t : Text} {e : Int} (h : IsMark t e) : readExponent? t = some e := by
  cases h with
  | absent => rfl
  | @written mark e digits _ hdigits =>
    by_cases he : e < 0
    · simp only [readExponent?, readSigned?, if_pos he, splitSign, hdigits]
      exact congrArg some (by simp only [if_true]; omega)
    · simp only [readExponent?, readSigned?, if_neg he, splitSign, hdigits]
      exact congrArg some (by simp only [Bool.false_eq_true, if_false]; omega)

theorem IsMark.head {t : Text} {e : Int} (h : IsMark t e) :
    ∀ c ∈ t.head?, isExponentMark c = true := by
  cases h with
  | absent => simp
  | written hmark => simpa using hmark

variable {body whole fraction mark : Text} {e : Int}

/-- Digits and the point open no exponent. -/
theorem IsPointed.notMark (h : IsPointed body whole fraction)
    (hdigits : ∀ c ∈ whole ++ fraction, c.isDigit = true) :
    ∀ c ∈ body, (!isExponentMark c) = true := by
  have hdigit (c : Char) (hc : c.isDigit = true) : (!isExponentMark c) = true := by
    by_contra hmark
    simp only [isExponentMark, Bool.not_eq_true', Bool.not_eq_false, Bool.or_eq_true,
      beq_iff_eq] at hmark
    rcases hmark with rfl | rfl <;> simp at hc
  intro c hc
  cases h with
  | plain => exact hdigit c (hdigits c (by simpa using hc))
  | point =>
    rw [List.mem_append, List.mem_cons] at hc
    rcases hc with hc | rfl | hc
    · exact hdigit c (hdigits c (List.mem_append_left _ hc))
    · rfl
    · exact hdigit c (hdigits c (List.mem_append_right _ hc))

/-- The point parts the digits. -/
theorem IsPointed.splitPoint_eq (h : IsPointed body whole fraction)
    (hdigits : ∀ c ∈ whole ++ fraction, c.isDigit = true) :
    splitPoint body = (whole, fraction) := by
  have hpoint : '.' ∉ whole := fun hmem => by simpa using hdigits _ (List.mem_append_left _ hmem)
  have hmark : ∀ c ∈ whole, (c != '.') = true := fun c hc => by
    simpa using ne_of_mem_of_not_mem hc hpoint
  cases h with
  | plain =>
    have hafter : Text.after '.' body = [] := by
      rw [Text.after, List.dropWhile_eq_nil_iff.2 hmark]
      rfl
    rw [splitPoint, Text.before_eq_self_iff.2 hpoint, hafter]
  | point =>
    have hafter : Text.after '.' (whole ++ '.' :: fraction) = fraction := by
      rw [Text.after, List.dropWhile_append_of_pos hmark]
      rfl
    rw [splitPoint, Text.before_append_of_notMem hpoint, hafter]

/-- `Denotes t n e`: the text is made of digits with a point, and perhaps an exponent, which
together make the number `n * 10 ^ e`. -/
inductive Denotes : Text → Nat → Int → Prop where
  | intro {body mark whole fraction : Text} {e : Int} : IsPointed body whole fraction →
      (∀ c ∈ whole ++ fraction, c.isDigit = true) → whole ≠ [] → IsMark mark e →
      Denotes (body ++ mark) (Numeral.value (whole ++ fraction)) (e - fraction.length)

/-- A text is read as the number that it denotes, whatever its exponent. -/
theorem Denotes.readUnbounded?_eq {t : Text} {n : Nat} (h : Denotes t n e) (negative : Bool) :
    readUnbounded? negative t = some ⟨negative, n, e⟩ := by
  obtain ⟨hpointed, hdigits, hne, hmark⟩ := h
  next body mark whole fraction e =>
  have hbody := hpointed.notMark hdigits
  have htake : (body ++ mark).takeWhile (!isExponentMark ·) = body := by
    rw [List.takeWhile_append_of_pos hbody]
    cases mark with
    | nil => rw [List.takeWhile_nil, List.append_nil]
    | cons c mark => rw [List.takeWhile_cons_of_neg (by simp [hmark.head c rfl]), List.append_nil]
  have hdrop : (body ++ mark).dropWhile (!isExponentMark ·) = mark := by
    rw [List.dropWhile_append_of_pos hbody]
    cases mark with
    | nil => rfl
    | cons c mark => rw [List.dropWhile_cons_of_neg (by simp [hmark.head c rfl])]
  have hread := readDigits?_eq_some (List.append_ne_nil_of_left_ne_nil hne fraction) hdigits
  rw [readUnbounded?, htake, hdrop, hmark.read, hpointed.splitPoint_eq hdigits]
  simp only [Option.bind_eq_bind, Option.bind_some, hread]
  rfl

/-! ### Signs and blanks -/

theorem IsPointed.isNumeric (h : IsPointed body whole fraction)
    (hdigits : ∀ c ∈ whole ++ fraction, c.isDigit = true) : ∀ c ∈ body, IsNumeric c := by
  intro c hc
  cases h with
  | plain => exact .inl (hdigits c (by simpa using hc))
  | point =>
    rw [List.mem_append, List.mem_cons] at hc
    rcases hc with hc | rfl | hc
    · exact .inl (hdigits c (List.mem_append_left _ hc))
    · exact .inr (by simp)
    · exact .inl (hdigits c (List.mem_append_right _ hc))

theorem IsMark.isNumeric (h : IsMark mark e) : ∀ c ∈ mark, IsNumeric c := by
  cases h with
  | absent => simp
  | @written opening e digits hopening hdigits =>
    have hall : ∀ c ∈ digits, c.isDigit = true := by
      unfold readDigits? at hdigits
      split at hdigits
      · next h => exact List.all_eq_true.1 h.2
      · cases hdigits
    intro c hc
    rcases List.mem_cons.1 hc with rfl | hc
    · simp only [isExponentMark, Bool.or_eq_true, beq_iff_eq] at hopening
      rcases hopening with rfl | rfl <;> exact .inr (by simp)
    · rcases List.mem_cons.1 hc with rfl | hc
      · split <;> exact .inr (by simp)
      · exact .inl (hall c hc)

theorem Denotes.isNumeric {t : Text} {n : Nat} (h : Denotes t n e) : ∀ c ∈ t, IsNumeric c := by
  obtain ⟨hpointed, hdigits, -, hmark⟩ := h
  intro c hc
  rcases List.mem_append.1 hc with hc | hc
  · exact hpointed.isNumeric hdigits c hc
  · exact hmark.isNumeric c hc

/-- A text that denotes a number opens with a digit. -/
theorem Denotes.exists_eq_cons {t : Text} {n : Nat} (h : Denotes t n e) :
    ∃ c rest, t = c :: rest ∧ c.isDigit = true := by
  obtain ⟨hpointed, hdigits, hne, -⟩ := h
  next whole _ _ =>
  obtain ⟨c, rest, rfl⟩ := List.exists_cons_of_ne_nil hne
  have hc : c.isDigit = true := hdigits c (by simp)
  cases hpointed with
  | plain => exact ⟨c, _, rfl, hc⟩
  | point => exact ⟨c, _, rfl, hc⟩

/-- Nothing in the text of a number is left out or replaced before it is read. -/
theorem cleaned_eq {t : Text} (h : ∀ c ∈ t, IsNumeric c) :
    (t.strip.filter (· ≠ '_')).map plainDigit = t := by
  have hstrip : t.strip = t := Text.strip_eq_self fun c hc => (h c hc).plain.1
  have hfilter : t.filter (· ≠ '_') = t :=
    List.filter_eq_self.2 fun c hc => by simpa using (h c hc).plain.2.1
  rw [hstrip, hfilter]
  exact (List.map_congr_left fun c hc => (h c hc).plain.2.2).trans (List.map_id t)

/-- A sign before a digit, or none. -/
theorem splitSign_digit (negative : Bool) {c : Char} (hc : c.isDigit = true) (t : Text) :
    splitSign ((if negative then ['-'] else []) ++ c :: t) = (negative, c :: t) := by
  cases negative with
  | true => rfl
  | false =>
    have hminus : c ≠ '-' := by
      rintro rfl
      simp at hc
    have hplus : c ≠ '+' := by
      rintro rfl
      simp at hc
    simp [splitSign, hminus, hplus]

/-- Behind a sign a text is read as the number that it denotes, if this is within bounds. -/
theorem Denotes.read?_eq {t : Text} {n : Nat} (h : Denotes t n e) {negative : Bool}
    (hbounds : inBounds ⟨negative, n, e⟩ = true) :
    ExtendedDecimal.read? ((if negative then ['-'] else []) ++ t) =
      some (.finite ⟨negative, n, e⟩) := by
  have hnumeric : ∀ c ∈ (if negative then ['-'] else []) ++ t, IsNumeric c := by
    intro c hc
    rcases List.mem_append.1 hc with hc | hc
    · cases negative with
      | true =>
        obtain rfl := List.mem_singleton.1 hc
        exact .inr (by simp)
      | false => simp at hc
    · exact h.isNumeric c hc
  have hfinite : readFinite? negative t = some ⟨negative, n, e⟩ := by
    rw [readFinite?, h.readUnbounded?_eq, Option.filter_some, if_pos hbounds]
  obtain ⟨c, rest, rfl, hc⟩ := h.exists_eq_cons
  rw [ExtendedDecimal.read?, cleaned_eq hnumeric, splitSign_digit negative hc]
  simp only [hfinite, Option.map_some, Option.some_or]

/-! ### The point that is written -/

/-- The writer puts the point among the digits, or fills with zeros up to it. -/
theorem exists_isPointed {digits : Text} (hne : digits ≠ [])
    (hdigits : ∀ c ∈ digits, c.isDigit = true) (places : Int) :
    ∃ whole fraction, IsPointed (pointed digits places) whole fraction ∧
      (∀ c ∈ whole ++ fraction, c.isDigit = true) ∧ whole ≠ [] ∧
      Numeral.value (whole ++ fraction) =
        Numeral.value digits * powerOfTen (places - digits.length).toNat ∧
      fraction.length = (digits.length - places).toNat := by
  have hlength := List.length_pos_iff.2 hne
  have hsame (t : Text) : Numeral.value t = Numeral.value t * powerOfTen 0 := (Nat.mul_one _).symm
  unfold pointed
  split
  · next hplaces =>
    -- The point stands before all digits.
    refine ⟨['0'], List.replicate (-places).toNat '0' ++ digits, ?_, ?_, by simp, ?_, ?_⟩
    · rw [List.append_assoc]
      exact .point ['0'] _
    · simp only [List.mem_append]
      rintro c (hc | hc | hc)
      · exact Numeral.isDigit_of_mem_zeros (k := 1) hc
      · exact Numeral.isDigit_of_mem_zeros hc
      · exact hdigits c hc
    · have hnone : (places - digits.length).toNat = 0 := by omega
      have hone : (['0'] : Text) = List.replicate 1 '0' := rfl
      rw [hone, Numeral.value_zeros_append, Numeral.value_zeros_append, hnone, ← hsame]
    · rw [List.length_append, List.length_replicate]
      omega
  · next hplaces =>
    split
    · next hamong =>
      have hnone : (places - digits.length).toNat = 0 := by omega
      refine ⟨digits.take places.toNat, digits.drop places.toNat, .point _ _, ?_, ?_, ?_, ?_⟩
      · rwa [List.take_append_drop]
      · rw [← List.length_pos_iff, List.length_take]
        omega
      · rw [List.take_append_drop, hnone, ← hsame]
      · rw [List.length_drop]
        omega
    · next hafter =>
      have hzeros : places.toNat - digits.length = (places - digits.length).toNat := by omega
      refine ⟨_, [], .plain _, ?_, ?_, ?_, ?_⟩
      · simp only [List.append_nil, List.mem_append]
        rintro c (hc | hc)
        · exact hdigits c hc
        · exact Numeral.isDigit_of_mem_zeros hc
      · exact List.append_ne_nil_of_left_ne_nil hne _
      · rw [List.append_nil, Numeral.value_append_zeros, hzeros]
      · rw [List.length_nil]
        omega

theorem isMark_exponentMark (e : Int) : IsMark (exponentMark e) e := by
  unfold exponentMark
  split
  · next he =>
    rw [he]
    exact .absent
  · refine .written rfl ?_
    have hne : Numeral.ofNat e.natAbs ≠ [] := Nat.toDigits_ne_nil
    rw [readDigits?_eq_some hne fun _ => Numeral.isDigit_of_mem_ofNat, Numeral.value_ofNat]

/-- The digits of a number stand in its text with the zeros that fill up to the point, wherever this
is. -/
theorem denotes_pointed (n : Nat) (places : Int) (hmark : IsMark mark e) :
    Denotes (pointed (Numeral.ofNat n) places ++ mark)
      (n * powerOfTen (places - Numeral.length n).toNat)
      (e - (Numeral.length n - places).toNat) := by
  have hne : Numeral.ofNat n ≠ [] := Nat.toDigits_ne_nil
  obtain ⟨whole, fraction, hpointed, hdigits, hwhole, hvalue, hlength⟩ :=
    exists_isPointed hne (fun _ => Numeral.isDigit_of_mem_ofNat) places
  rw [Numeral.value_ofNat] at hvalue
  have hdenotes := Denotes.intro hpointed hdigits hwhole hmark
  rwa [hvalue, hlength] at hdenotes

/-- What is written of a number, apart from its sign, denotes it in either notation: the writer puts
the point nowhere behind the last digit. -/
theorem denotes_magnitude (d : Decimal) : Denotes d.magnitude d.coefficient d.exponent := by
  have hlength : 0 < Numeral.length d.coefficient := List.length_pos_iff.2 Nat.toDigits_ne_nil
  have hsame : d.coefficient * powerOfTen 0 = d.coefficient := Nat.mul_one _
  have hdigits : (Numeral.ofNat d.coefficient).length = Numeral.length d.coefficient := rfl
  simp only [magnitude, hdigits]
  split
  · have hdenotes := denotes_pointed d.coefficient (d.exponent + Numeral.length d.coefficient)
      .absent
    have hnone : (d.exponent + Numeral.length d.coefficient
        - Numeral.length d.coefficient).toNat = 0 := by
      omega
    have hexponent : (0 : Int) - (Numeral.length d.coefficient -
        (d.exponent + Numeral.length d.coefficient)).toNat = d.exponent := by
      omega
    rwa [List.append_nil, hnone, hsame, hexponent] at hdenotes
  · have hdenotes := denotes_pointed d.coefficient 1 (isMark_exponentMark d.adjusted)
    have hnone : (1 - (Numeral.length d.coefficient : Int)).toNat = 0 := by omega
    have hexponent :
        d.adjusted - ((Numeral.length d.coefficient : Int) - 1).toNat = d.exponent := by
      simp only [adjusted]
      omega
    rwa [hnone, hsame, hexponent] at hdenotes

/-- A number within bounds is read back from its text. -/
theorem read?_write {d : Decimal} (hd : d.inBounds = true) :
    ExtendedDecimal.read? d.write = some (.finite d) :=
  d.denotes_magnitude.read?_eq hd

/-- Every number that is read is within bounds. -/
theorem inBounds_of_read? {t : Text} {d : Decimal}
    (h : ExtendedDecimal.read? t = some (.finite d)) : d.inBounds = true := by
  have hspecial (negative : Bool) (t : Text) :
      ExtendedDecimal.readSpecial? negative t ≠ some (.finite d) := by
    unfold ExtendedDecimal.readSpecial?
    split
    · simp
    · split
      · simp
      · split <;> simp
  unfold ExtendedDecimal.read? at h
  simp only [Option.or_eq_some_iff, Option.map_eq_some_iff, hspecial, and_false, or_false] at h
  obtain ⟨_, hfinite, heq⟩ := h
  obtain rfl := ExtendedDecimal.finite.inj heq
  exact (Option.filter_eq_some_iff.1 hfinite).2

end Decimal

/-! ### Operands -/

namespace Operands

/-- **A decimal number and its text have the same operands.** Every decimal number within bounds,
whatever its sign, its digits and its exponent, is read back from its text digit by digit. So with
any precision the text has the operands of the number, with the same digits and exponent in `n`, or
fails as the number does. -/
theorem of_written_decimal {d : Decimal} (hd : d.inBounds = true) (precision : Datum) :
    ExtendedDecimal.read? d.write = some (.finite d) ∧
      of (.text d.write) precision = of (.decimal (.finite d)) precision := by
  have hread := Decimal.read?_write hd
  refine ⟨hread, ?_⟩
  unfold of
  split
  · simp only [ofDatum, hread, ofExtended]
  · rfl

/-- Closing zeros behind many others, in scientific notation. -/
theorem of_written_decimal_scientific :
    Decimal.inBounds ⟨true, 1500, -12⟩ = true ∧
      Decimal.write ⟨true, 1500, -12⟩ = "-1.500E-9".toList ∧
      of (.text "-1.500E-9") (.integer 2)
        = of (.decimal (.finite ⟨true, 1500, -12⟩)) (.integer 2) := by
  have hbounds : Decimal.inBounds ⟨true, 1500, -12⟩ = true := by decide
  have hwrite : Decimal.write ⟨true, 1500, -12⟩ = "-1.500E-9".toList := by decide
  have h := (of_written_decimal hbounds (.integer 2)).2
  rw [hwrite] at h
  exact ⟨hbounds, hwrite, h⟩

end Operands

end Numerus
