import Numerus.Proofs.VisibleDigits
import Numerus.Selection

/-!
Numbers that no rule tells apart.

The operands of a number are determined by its magnitude and the number of its visible digits after
the point. So numbers that are alike in both, of whatever kinds they are and however their digits
are stored, have operands that agree; and operands that agree answer every question of a rule
alike, as does whatever is built of such questions.

* `Operands.Describes.agree` — operands of the same magnitude and number of fraction digits agree.
* `Condition.holdsWithin_congr` — operands that agree make the same conditions true, or none.
* `Selector.select_congr` — numbers whose operands agree are in one category.
* `Datum.Twins.sameDigits` — pairs of data that show numbers of the same digits.
* `Operands.magnitude_and_places_decide` — only the magnitude and the fraction digits matter.
-/

namespace Numerus

/-- Closing zeros are parted from the digits before them in one way only. -/
theorem eq_of_mul_pow_ten_eq {t t' : ℤ} {k k' : ℕ} (h : t * 10 ^ k = t' * 10 ^ k')
    (ht : ¬ 10 ∣ t) (ht' : ¬ 10 ∣ t') : t = t' ∧ k = k' := by
  wlog hle : k ≤ k' generalizing t t' k k'
  · obtain ⟨heq, hkk⟩ := this h.symm ht' ht (le_of_not_ge hle)
    exact ⟨heq.symm, hkk.symm⟩
  obtain ⟨extra, rfl⟩ := Nat.exists_eq_add_of_le hle
  have hten : (10 : ℤ) ^ k ≠ 0 := pow_ne_zero k (by norm_num)
  have hextra : t = t' * 10 ^ extra := by
    apply mul_right_cancel₀ hten
    rw [h, pow_add]
    ring
  cases extra with
  | zero => exact ⟨by simpa using hextra, rfl⟩
  | succ extra =>
    have hdvd : 10 ∣ t := by
      rw [hextra, pow_succ, ← mul_assoc]
      exact dvd_mul_left 10 _
    exact absurd hdvd ht

namespace Operands

/-- `o.Agree o'`: the operands are the same but for the way in which the number `n` is stored. -/
structure Agree (o o' : Operands) : Prop where
  n_value : o.n.rational = o'.n.rational
  i_eq : o.i = o'.i
  v_eq : o.v = o'.v
  w_eq : o.w = o'.w
  f_eq : o.f = o'.f
  t_eq : o.t = o'.t
  e_eq : o.e = o'.e

/-! ### Operands from magnitude and number of fraction digits -/

section Describes

variable {o o' : Operands} {d d' : Decimal}

/-- The digits after the point are what is left of the number without its whole part. -/
theorem IsExact.f_eq_of (h : o.IsExact) (h' : o'.IsExact) (hn : o.n.rational = o'.n.rational)
    (hv : o.v = o'.v) : o.f = o'.f := by
  have hpow : (10 : ℚ) ^ o'.v ≠ 0 := zpow_ne_zero _ (by norm_num)
  have hparts : (o.i + o.f / 10 ^ o.v : ℚ) = o'.i + o'.f / 10 ^ o'.v := by
    rw [← h.n_eq, hn, h'.n_eq]
  rw [h.i_eq_floor, hn, ← h'.i_eq_floor, hv, add_right_inj, div_left_inj' hpow] at hparts
  exact_mod_cast hparts

/-- Digits after the point are left the same without their closing zeros. -/
theorem Describes.trimmed_eq_of (h : o.Describes d) (h' : o'.Describes d') (hv : o.v = o'.v)
    (hf : o.f = o'.f) : o.t = o'.t ∧ o.w = o'.w := by
  by_cases hzero : o.f = 0
  · have hzero' : o'.f = 0 := hf ▸ hzero
    exact ⟨(h.t_eq_zero_iff.2 hzero).trans (h'.t_eq_zero_iff.2 hzero').symm,
      (h.w_eq_zero_iff.2 hzero).trans (h'.w_eq_zero_iff.2 hzero').symm⟩
  · have ht : ¬ 10 ∣ o.t := h.t_mod_ten (mt h.t_eq_zero_iff.1 hzero)
    have ht' : ¬ 10 ∣ o'.t := h'.t_mod_ten (mt h'.t_eq_zero_iff.1 (hf ▸ hzero))
    have hdigits : o.t * 10 ^ (o.v - o.w).toNat = o'.t * 10 ^ (o'.v - o'.w).toNat := by
      rw [← h.f_eq, ← h'.f_eq, hf]
    obtain ⟨heq, hzeros⟩ := eq_of_mul_pow_ten_eq hdigits ht ht'
    have hle := h.w_le_v
    have hle' := h'.w_le_v
    exact ⟨heq, by omega⟩

/-- Operands that describe numbers of the same magnitude and number of fraction digits agree. -/
theorem Describes.agree (h : o.Describes d) (h' : o'.Describes d')
    (hn : o.n.rational = o'.n.rational) (hv : o.v = o'.v) : o.Agree o' := by
  have hf : o.f = o'.f := h.exact.f_eq_of h'.exact hn hv
  obtain ⟨ht, hw⟩ := h.trimmed_eq_of h' hv hf
  have hi : o.i = o'.i := by rw [h.exact.i_eq_floor, hn, ← h'.exact.i_eq_floor]
  exact ⟨hn, hi, hv, hw, hf, ht, h.e_eq.trans h'.e_eq.symm⟩

end Describes

/-! ### What rules ask -/

namespace Agree

variable {o o' : Operands}

theorem whole_eq (h : o.Agree o') (x : Operand) : o.whole x = o'.whole x := by
  cases x with
  | n | i => exact h.i_eq
  | v => exact h.v_eq
  | w => exact h.w_eq
  | f => exact h.f_eq
  | t => exact h.t_eq
  | c | e => exact h.e_eq

theorem hasFraction_eq (h : o.Agree o') (x : Operand) : o.hasFraction x = o'.hasFraction x := by
  cases x with
  | n => rw [hasFraction, h.f_eq, hasFraction]
  | _ => rfl

theorem relation_holds_eq (h : o.Agree o') (r : Relation) : r.holds o = r.holds o' := by
  have hreduced : r.reduced o = r.reduced o' := by
    unfold Relation.reduced
    rw [h.whole_eq]
  rw [Relation.holds, hreduced, h.hasFraction_eq, Relation.holds]

end Agree

end Operands

section Congr

variable {o o' : Operands}

/-- Operands that agree make the same conditions true. -/
theorem Condition.holds_congr (h : o.Agree o') (c : Condition) : c.holds o = c.holds o' := by
  induction c with
  | relation r => exact h.relation_holds_eq r
  | and left right ihl ihr => rw [holds, ihl, ihr, holds]
  | or left right ihl ihr => rw [holds, ihl, ihr, holds]
  | literal value => rfl

/-- Within any room, operands that agree are told the same of a condition, or nothing. -/
theorem Condition.holdsWithin_congr (h : o.Agree o') (room : ℕ) (c : Condition) :
    c.holdsWithin o room = c.holdsWithin o' room := by
  induction c generalizing room with
  | relation r =>
    cases room with
    | zero => rfl
    | succ room => rw [holdsWithin, h.relation_holds_eq, holdsWithin]
  | and left right ihl ihr =>
    cases room with
    | zero => rfl
    | succ room => rw [holdsWithin, ihl, ihr, holdsWithin]
  | or left right ihl ihr =>
    cases room with
    | zero => rfl
    | succ room => rw [holdsWithin, ihl, ihr, holdsWithin]
  | literal value =>
    cases room with
    | zero => rfl
    | succ room => rfl

/-- Operands that agree are in one category of a rule set. -/
theorem RuleSet.select_congr (h : o.Agree o') (s : RuleSet) : s.select o = s.select o' := by
  have hholds : (fun rule : Category × Condition => rule.2.holds o) =
      fun rule => rule.2.holds o' :=
    funext fun rule => Condition.holds_congr h rule.2
  rw [select, hholds, select]

/-- Numbers whose operands agree are in one category of every locale, or in none. -/
theorem Selector.select_congr {library : TagLibrary} (h : o.Agree o') {s : Selector}
    {x y p q : Datum} (locale : Datum)
    (hx : Operands.of x (s.precisionOr p) = .ok o) (hy : Operands.of y (s.precisionOr q) = .ok o') :
    s.select library x locale p = s.select library y locale q := by
  rw [select, select, hx, hy]
  cases s.rulesFor library locale with
  | error e => rfl
  | ok rules =>
    show Except.ok (rules.select o) = Except.ok (rules.select o')
    rw [rules.select_congr h]

end Congr

/-! ### Data that show the same digits -/

/-- `d.SameDigits d'`: the numbers have the same magnitude and as many digits after the point. -/
structure Decimal.SameDigits (d d' : Decimal) : Prop where
  magnitude_eq : |d.rational| = |d'.rational|
  places_eq : max 0 (-d.exponent) = max 0 (-d'.exponent)

theorem Decimal.sameDigits_of_abs_eq {d d' : Decimal} (h : d.abs = d'.abs) : d.SameDigits d' := by
  have hmagnitude : |d.rational| = |d'.rational| := by rw [← rational_abs, h, rational_abs]
  have hexponent : d.abs.exponent = d'.abs.exponent := by rw [h]
  exact ⟨hmagnitude, congrArg (fun e => max 0 (-e)) hexponent⟩

/-- Numbers of the same magnitude are rounded to the same digits. -/
theorem Decimal.RoundsTo.sameDigits {d d' r r' : Decimal} {places : ℕ} (h : d.RoundsTo places r)
    (h' : d'.RoundsTo places r') (habs : d.abs = d'.abs) : r.SameDigits r' := by
  have hcoefficient : (r.coefficient : ℤ) = r'.coefficient := by
    rw [h.coefficient_eq, h'.coefficient_eq, ← rational_abs, habs, rational_abs]
  apply sameDigits_of_abs_eq
  rw [abs, abs, Int.ofNat_inj.1 hcoefficient, h.exponent_eq, h'.exponent_eq]

/-- `Twins x p y q`: with the precisions `p` and `q` the data `x` and `y` stand for numbers of the
same digits. -/
inductive Datum.Twins : Datum → Datum → Datum → Datum → Prop where
  /-- Opposite integers. -/
  | integers (i : ℤ) (p q : Datum) : Twins (.integer i) p (.integer (-i)) q
  /-- Opposite binary numbers with one precision. -/
  | binaries (negative : Bool) (significand : ℕ) (exponent : ℤ) (p : Datum) :
      Twins (.binary (.finite negative significand exponent)) p
        (.binary (.finite (!negative) significand exponent)) p
  /-- Opposite decimal numbers. -/
  | decimals (negative : Bool) (coefficient : ℕ) (exponent : ℤ) (p q : Datum) :
      Twins (.decimal (.finite ⟨negative, coefficient, exponent⟩)) p
        (.decimal (.finite ⟨!negative, coefficient, exponent⟩)) q
  /-- Texts that read as numbers which differ at most in their signs. -/
  | texts {t t' : Text} {d d' : Decimal} (p q : Datum) :
      ExtendedDecimal.read? t = some (.finite d) → ExtendedDecimal.read? t' = some (.finite d') →
      d.abs = d'.abs → Twins (.text t) p (.text t') q
  /-- A text and the decimal number that it reads as. -/
  | read {t : Text} {d : Decimal} (p q : Datum) :
      ExtendedDecimal.read? t = some (.finite d) → Twins (.text t) p (.decimal (.finite d)) q
  /-- An integer and a decimal number of its value, however many of the closing zeros are in the
  exponent. -/
  | whole {i : ℤ} {coefficient zeros : ℕ} (negative : Bool) (p q : Datum) :
      i.natAbs = coefficient * 10 ^ zeros →
      Twins (.integer i) p (.decimal (.finite ⟨negative, coefficient, zeros⟩)) q
  /-- A binary number with some precision and the decimal number that it is rounded to. -/
  | rounded {negative : Bool} {significand : ℕ} {exponent : ℤ} {places : ℕ} {d : Decimal}
      (q : Datum) : (Binary64.shortest negative significand exponent).RoundsTo places d →
      Twins (.binary (.finite negative significand exponent)) (.integer places)
        (.decimal (.finite d)) q

/-- Twins show numbers of the same digits. -/
theorem Datum.Twins.sameDigits {x y p q : Datum} (h : Twins x p y q) {places places' : ℕ}
    {d d' : Decimal} (hp : p = .integer places) (hq : q = .integer places')
    (hx : x.Shows places d) (hy : y.Shows places' d') : d.SameDigits d' := by
  cases h with
  | integers i =>
    cases hx
    cases hy
    apply Decimal.sameDigits_of_abs_eq
    simp [Decimal.abs, Decimal.ofInt]
  | binaries negative significand exponent =>
    obtain rfl : places = places' := by simpa [hp] using hq
    cases hx with
    | binary hx =>
      cases hy with
      | binary hy =>
        refine hx.sameDigits hy ?_
        rw [Binary64.shortest_abs, Binary64.shortest_abs]
  | decimals =>
    cases hx
    cases hy
    exact Decimal.sameDigits_of_abs_eq rfl
  | texts _ _ hread hread' habs =>
    cases hx with
    | text hx =>
      cases hy with
      | text hy =>
        obtain rfl : _ = d := by simpa [hread] using hx
        obtain rfl : _ = d' := by simpa [hread'] using hy
        exact Decimal.sameDigits_of_abs_eq habs
  | read _ _ hread =>
    cases hx with
    | text hx =>
      cases hy
      obtain rfl : _ = d := by simpa [hread] using hx
      exact ⟨rfl, rfl⟩
  | @whole i coefficient zeros negative _ _ hvalue =>
    cases hx
    cases hy
    constructor
    · have hinteger : (Decimal.ofInt i).abs.rational = (i.natAbs : ℚ) := by
        simp [Decimal.rational, Decimal.abs, Decimal.ofInt]
      have hdecimal : (Decimal.abs ⟨negative, coefficient, zeros⟩).rational =
          coefficient * 10 ^ zeros := by
        simp [Decimal.rational, Decimal.abs]
      rw [← Decimal.rational_abs, hinteger, ← Decimal.rational_abs, hdecimal, hvalue]
      push_cast
      rfl
    · simp [Decimal.ofInt]
  | rounded _ hrounds =>
    obtain rfl : _ = places := by simpa using hp
    cases hx with
    | binary hx =>
      cases hy
      exact hx.sameDigits hrounds rfl

namespace Operands

/-- A number has operands if the precision is a number of places with which it has some. -/
theorem of_eq_ok_iff {number precision : Datum} {o : Operands} : of number precision = .ok o ↔
    ∃ places : ℕ, precision = .integer places ∧ ofDatum .usual number places = .ok o := by
  unfold of
  cases hplaces : precision.precision? with
  | some places =>
    obtain rfl := Datum.precision?_eq_some_iff.1 hplaces
    simp
  | none =>
    simp only [refusePrecision_ne_ok, false_iff]
    rintro ⟨places, rfl, -⟩
    exact absurd hplaces (by simp [Datum.precision?])

/-- **Only the magnitude and the number of fraction digits matter.** Let two data have operands.
If the numbers `n` have the same value and there are as many digits after the point, then all
operands agree, every condition is true of both or of neither or told of neither, and with every
catalog and in every locale both are in the same category or fail alike. That is so for `x` and
`-x`, a text and the number it reads as, an integer and a decimal number of its value without digits
after the point, and a binary number and what it is rounded to. -/
theorem magnitude_and_places_decide {x y p q : Datum} {o o' : Operands} (hx : of x p = .ok o)
    (hy : of y q = .ok o') :
    (Datum.Twins x p y q → o.n.rational = o'.n.rational ∧ o.v = o'.v) ∧
      (o.n.rational = o'.n.rational → o.v = o'.v →
        o.Agree o' ∧
        (∀ (room : ℕ) (c : Condition), c.holdsWithin o room = c.holdsWithin o' room) ∧
        ∀ (library : TagLibrary) (s : Selector) (locale p' q' : Datum), s.precisionOr p' = p →
          s.precisionOr q' = q →
            s.select library x locale p' = s.select library y locale q') := by
  obtain ⟨places, hp, hxo⟩ := of_eq_ok_iff.1 hx
  obtain ⟨places', hq, hyo⟩ := of_eq_ok_iff.1 hy
  obtain ⟨d, hxd, hd⟩ := exists_shows_of_ofDatum hxo
  obtain ⟨d', hyd, hd'⟩ := exists_shows_of_ofDatum hyo
  constructor
  · intro htwins
    have hsame := htwins.sameDigits hp hq hxd hyd
    refine ⟨?_, ?_⟩
    · rw [hd.n_value, hsame.magnitude_eq, ← hd'.n_value]
    · rw [hd.v_eq, hsame.places_eq, ← hd'.v_eq]
  · intro hn hv
    have hagree := hd.agree hd' hn hv
    refine ⟨hagree, Condition.holdsWithin_congr hagree, ?_⟩
    rintro library s locale p' q' rfl rfl
    exact Selector.select_congr hagree locale hx hy

/-- One thousand, as an integer and with its zeros in the exponent. -/
theorem magnitude_and_places_decide_thousand :
    of (.integer (-1000)) = .ok ⟨⟨false, 1000, 0⟩, 1000, 0, 0, 0, 0, 0⟩ ∧
      of (.decimal (.finite ⟨false, 1, 3⟩)) = .ok ⟨⟨false, 1, 3⟩, 1000, 0, 0, 0, 0, 0⟩ ∧
      ∀ (library : TagLibrary) (s : Selector) (locale : Datum),
        s.precision = Datum.defaultPrecision →
        s.select library (.integer (-1000)) locale =
          s.select library (.decimal (.finite ⟨false, 1, 3⟩)) locale := by
  have hx : of (.integer (-1000)) = .ok ⟨⟨false, 1000, 0⟩, 1000, 0, 0, 0, 0, 0⟩ := by decide
  have hy : of (.decimal (.finite ⟨false, 1, 3⟩)) = .ok ⟨⟨false, 1, 3⟩, 1000, 0, 0, 0, 0, 0⟩ := by
    decide
  obtain ⟨htwins, hdecide⟩ := magnitude_and_places_decide hx hy
  obtain ⟨hn, hv⟩ := htwins (.whole false _ _ (by decide))
  refine ⟨hx, hy, ?_⟩
  intro library s locale hprecision
  exact (hdecide hn hv).2.2 library s locale .absent .absent hprecision hprecision

end Operands

end Numerus
