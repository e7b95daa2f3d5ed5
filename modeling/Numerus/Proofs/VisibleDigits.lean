import Numerus.Operands.OfNumber
import Numerus.Proofs.Digits
import Numerus.Proofs.Rounding

/-!
Operands describe the visible digits of a number.

Every number that has operands shows the digits of one decimal number: an integer, a decimal number
and a text show their own, and a binary number shows those of its shortest form, rounded to the
digits after the point that were asked for. `Datum.Shows` says which decimal number that is, and
`Operands.Describes` what its operands have to be, by exact values and with no regard to how the
digits are cut. They are cut from a sequence of digits with zeros in front, at an offset that counts
from its end, and each piece is read as a numeral.

* `Decimal.coefficient_eq_of_digits` — the digits before and after the point make up the number.
* `Operands.isTrimmed_of_digits` — what is left of fraction digits without their closing zeros.
* `Operands.ofDecimal_eq_ok_iff` — the operands that are read off a decimal number.
* `Operands.describes_digitsOf` — these operands describe it.
* `Operands.describe_visible_digits` — whatever operands a number has describe what it shows.
-/

namespace Numerus

/-! ### Decimal numbers -/

namespace Decimal

/-- A number with digits after the point is its coefficient over a power of ten. -/
theorem rational_abs_of_neg {d : Decimal} (h : d.exponent < 0) :
    d.abs.rational = d.coefficient / 10 ^ d.scale := by
  have hscale : d.exponent = -(d.scale : ℤ) := by
    simp only [scale]
    omega
  have hvalue : d.abs.rational = d.coefficient * 10 ^ d.exponent := by simp [rational, abs]
  rw [hvalue, hscale, zpow_neg, zpow_natCast, div_eq_mul_inv]

/-- A number without digits after the point is a whole number. -/
theorem rational_abs_of_nonneg {d : Decimal} (h : 0 ≤ d.exponent) :
    d.abs.rational = (d.coefficient * powerOfTen d.exponent.toNat : ℕ) := by
  obtain ⟨k, hk⟩ := Int.eq_ofNat_of_zero_le h
  simp [rational, abs, hk, powerOfTen]

/-- Whether neither the digits before the point nor those after it are too many to be read as a
numeral, and there is memory for the zeros that the exponent stands for. -/
def IsReadable (machine : Machine) (d : Decimal) : Prop :=
  Numeral.length d.coefficient - d.scale ≤ Fault.digitLimit ∧ d.scale ≤ Fault.digitLimit ∧
    d.exponent ≤ machine.memory

end Decimal

/-! ### Digits before and after the point -/

namespace Text

/-- The part of a text up to an offset that counts from the end. -/
theorem span_zero_neg {t : Text} {k : ℕ} (hk : 0 < k) :
    t.span 0 (-k) = t.take (t.length - k) := by
  have hneg : -(k : ℤ) < 0 := by omega
  have hplace : (-(k : ℤ) + t.length).toNat = t.length - k := by omega
  simp only [span, place, slice, if_pos hneg, hplace, lt_irrefl, if_false]
  simp

/-- The part of a text from an offset that counts from the end. -/
theorem span_neg_length {t : Text} {k : ℕ} (hk : 0 < k) :
    t.span (-k) t.length = t.drop (t.length - k) := by
  have hneg : -(k : ℤ) < 0 := by omega
  have hplace : (-(k : ℤ) + t.length).toNat = t.length - k := by omega
  have hend : ¬ (t.length : ℤ) < 0 := by omega
  simp only [span, place, slice, if_pos hneg, hplace, if_neg hend, Int.toNat_natCast, min_self]
  exact List.take_of_length_le (by simp)

end Text

namespace Decimal

variable {d : Decimal}

theorem scale_pos (h : d.exponent < 0) : 0 < d.scale := by
  simp only [scale]
  omega

theorem length_digits (d : Decimal) :
    d.digits.length = max (d.scale + 1) (Numeral.length d.coefficient) := by
  rw [digits, Text.padded, List.length_append, List.length_replicate]
  show _ - Numeral.length d.coefficient + Numeral.length d.coefficient = _
  omega

theorem isDigit_of_mem_digits {c : Char} (h : c ∈ d.digits) : c.isDigit = true := by
  rcases List.mem_append.1 h with h | h
  · exact Numeral.isDigit_of_mem_zeros h
  · exact Numeral.isDigit_of_mem_ofNat h

/-- Zeros in front make no difference. -/
theorem value_digits (d : Decimal) : Numeral.value d.digits = d.coefficient := by
  rw [digits, Text.padded, Numeral.value_zeros_append, Numeral.value_ofNat]

/-- The digits are cut in two at the point. -/
theorem wholeDigits_append_fractionDigits (h : d.exponent < 0) :
    d.wholeDigits ++ d.fractionDigits = d.digits := by
  rw [wholeDigits, fractionDigits, Text.span_zero_neg (scale_pos h),
    Text.span_neg_length (scale_pos h), List.take_append_drop]

theorem length_wholeDigits (h : d.exponent < 0) :
    d.wholeDigits.length = max 1 (Numeral.length d.coefficient - d.scale) := by
  rw [wholeDigits, Text.span_zero_neg (scale_pos h), List.length_take, length_digits]
  omega

theorem length_fractionDigits (h : d.exponent < 0) : d.fractionDigits.length = d.scale := by
  rw [fractionDigits, Text.span_neg_length (scale_pos h), List.length_drop, length_digits]
  omega

theorem isDigit_of_mem_fractionDigits (h : d.exponent < 0) {c : Char}
    (hc : c ∈ d.fractionDigits) : c.isDigit = true := by
  apply isDigit_of_mem_digits (d := d)
  rw [← wholeDigits_append_fractionDigits h]
  exact List.mem_append_right _ hc

/-- The digits before and after the point make up the coefficient. -/
theorem coefficient_eq_of_digits (h : d.exponent < 0) :
    d.coefficient = Numeral.value d.wholeDigits * powerOfTen d.scale +
      Numeral.value d.fractionDigits := by
  rw [← value_digits d, ← wholeDigits_append_fractionDigits h, Numeral.value_append,
    length_fractionDigits h]

theorem length_significantDigits_le (h : d.exponent < 0) :
    d.significantDigits.length ≤ d.scale := by
  rw [← length_fractionDigits h]
  exact (List.rdropWhile_prefix (· == '0') d.fractionDigits).length_le

end Decimal

/-! ### Fraction digits without closing zeros -/

namespace Operands

/-- `IsTrimmed f v t w`: of the `v` digits of `f` the first `w`, which make `t`, are left without
the zeros that close them. -/
structure IsTrimmed (f v t w : ℕ) : Prop where
  w_le_v : w ≤ v
  f_eq : f = t * 10 ^ (v - w)
  t_mod_ten : t ≠ 0 → t % 10 ≠ 0
  t_eq_zero_iff : t = 0 ↔ f = 0
  w_eq_zero_iff : w = 0 ↔ f = 0

/-- Digits whose closing zeros are stripped make what is left of their number. -/
theorem isTrimmed_of_digits {t : Text} (h : ∀ c ∈ t, c.isDigit = true) :
    IsTrimmed (Numeral.value t) t.length (Numeral.value (t.trimmedEnd '0'))
      (t.trimmedEnd '0').length := by
  set left := t.trimmedEnd '0' with hleft
  have hvalue : Numeral.value t = Numeral.value left * 10 ^ (t.length - left.length) := by
    conv_lhs => rw [← Numeral.trimmedEnd_append_zeros t, Numeral.value_append_zeros]
    rfl
  have hzero : Numeral.value t = 0 ↔ Numeral.value left = 0 := by
    rw [hvalue]
    simp
  -- nothing is left, or the last digit that is left is not zero
  have hends : left ≠ [] → Numeral.value left % 10 ≠ 0 := Numeral.value_trimmedEnd_mod_ten h
  have hnone : left = [] ↔ Numeral.value left = 0 := by
    constructor
    · intro heq
      rw [heq]
      rfl
    · intro heq
      by_contra hne
      exact hends hne (by rw [heq])
  exact {
    w_le_v := (List.rdropWhile_prefix (· == '0') t).length_le
    f_eq := hvalue
    t_mod_ten := fun hne => hends (mt hnone.1 hne)
    t_eq_zero_iff := hzero.symm
    w_eq_zero_iff := List.length_eq_zero_iff.trans (hnone.trans hzero.symm) }

/-! ### Operands of a decimal number -/

/-- `o.Describes d`: the operands are those of the visible digits of `d`. -/
structure Describes (o : Operands) (d : Decimal) : Prop where
  /-- The digits of the number stand in `n` as they are. -/
  n_eq : o.n = d.abs
  n_value : o.n.rational = |d.rational|
  i_eq : o.i = ⌊|d.rational|⌋
  v_eq : o.v = max 0 (-d.exponent)
  /-- The digits before and after the point make up the number. -/
  exact : o.IsExact
  w_nonneg : 0 ≤ o.w
  w_le_v : o.w ≤ o.v
  f_eq : o.f = o.t * 10 ^ (o.v - o.w).toNat
  t_mod_ten : o.t ≠ 0 → ¬ 10 ∣ o.t
  t_eq_zero_iff : o.t = 0 ↔ o.f = 0
  w_eq_zero_iff : o.w = 0 ↔ o.f = 0
  e_eq : o.e = 0

/-- The operands that the digits of a decimal number stand for. -/
def digitsOf (d : Decimal) : Operands :=
  if 0 ≤ d.exponent then { ofNat (d.coefficient * powerOfTen d.exponent.toNat) with n := d }
  else
    { n := d, i := Numeral.value d.wholeDigits, v := d.scale, w := d.significantDigits.length,
      f := Numeral.value d.fractionDigits, t := Numeral.value d.significantDigits }

/-- The operands of exact parts: the whole part is the floor. -/
theorem IsExact.i_eq_floor {o : Operands} (h : o.IsExact) : o.i = ⌊o.n.rational⌋ :=
  (h.splits .n).floor_eq.symm

/-- Parts that make up a number, with fraction digits and what is left of them, describe it. -/
theorem describes_of_parts {d : Decimal} {i v w f t : ℕ} (hv : (v : ℤ) = max 0 (-d.exponent))
    (hexact : IsExact ⟨d.abs, i, v, w, f, t, 0⟩) (h : IsTrimmed f v t w) :
    Describes ⟨d.abs, i, v, w, f, t, 0⟩ d where
  n_eq := rfl
  n_value := d.rational_abs
  i_eq := d.rational_abs ▸ hexact.i_eq_floor
  v_eq := hv
  exact := hexact
  w_nonneg := Int.natCast_nonneg w
  w_le_v := Int.ofNat_le.2 h.w_le_v
  f_eq := by
    have hw : ((v : ℤ) - w).toNat = v - w := by omega
    simp only [hw]
    exact_mod_cast h.f_eq
  t_mod_ten := by
    intro hne hdvd
    exact h.t_mod_ten (Int.natCast_ne_zero.1 hne) (Nat.mod_eq_zero_of_dvd (Int.ofNat_dvd.1 hdvd))
  t_eq_zero_iff := by simpa using h.t_eq_zero_iff
  w_eq_zero_iff := by simpa using h.w_eq_zero_iff
  e_eq := rfl

/-- The digits before and after the point make up the number. -/
theorem isExact_of_digits {d : Decimal} (h : d.exponent < 0) {w t : ℤ} :
    IsExact ⟨d.abs, Numeral.value d.wholeDigits, d.scale, w, Numeral.value d.fractionDigits, t, 0⟩
    where
  n_eq := by
    have hpow : (10 : ℚ) ^ d.scale ≠ 0 := by positivity
    have hcoefficient : (d.coefficient : ℚ) =
        Numeral.value d.wholeDigits * 10 ^ d.scale + Numeral.value d.fractionDigits := by
      exact_mod_cast Decimal.coefficient_eq_of_digits h
    rw [Decimal.rational_abs_of_neg h, hcoefficient, add_div, mul_div_cancel_right₀ _ hpow]
    simp
  f_nonneg := Int.natCast_nonneg _
  f_lt := by
    have hlt : Numeral.value d.fractionDigits < 10 ^ d.scale := by
      rw [← Decimal.length_fractionDigits h]
      exact Numeral.value_lt fun _ => Decimal.isDigit_of_mem_fractionDigits h
    show ((Numeral.value d.fractionDigits : ℤ) : ℚ) < 10 ^ (d.scale : ℤ)
    rw [zpow_natCast]
    exact_mod_cast hlt

theorem describes_digits {d : Decimal} (h : d.exponent < 0) :
    Describes ⟨d.abs, Numeral.value d.wholeDigits, d.scale, d.significantDigits.length,
      Numeral.value d.fractionDigits, Numeral.value d.significantDigits, 0⟩ d := by
  have hv : (d.scale : ℤ) = max 0 (-d.exponent) := by
    simp only [Decimal.scale]
    omega
  have htrimmed := isTrimmed_of_digits fun _ => Decimal.isDigit_of_mem_fractionDigits h
  rw [Decimal.length_fractionDigits h] at htrimmed
  exact describes_of_parts hv (isExact_of_digits h) htrimmed

theorem describes_whole {d : Decimal} (h : 0 ≤ d.exponent) :
    Describes { ofNat (d.coefficient * powerOfTen d.exponent.toNat) with n := d.abs } d := by
  have hexact : IsExact { ofNat (d.coefficient * powerOfTen d.exponent.toNat) with n := d.abs } :=
    ⟨by simp [ofNat, Decimal.rational_abs_of_nonneg h], Int.le_refl 0, by simp [ofNat]⟩
  have hnone : IsTrimmed 0 0 0 0 :=
    ⟨Nat.le_refl 0, rfl, fun hne => absurd rfl hne, Iff.rfl, Iff.rfl⟩
  have hv : ((0 : ℕ) : ℤ) = max 0 (-d.exponent) := by omega
  exact describes_of_parts hv hexact hnone

/-- The operands read off the digits of a number describe it. -/
theorem describes_digitsOf (d : Decimal) : (digitsOf d.abs).Describes d := by
  unfold digitsOf
  split
  · next h => exact describes_whole h
  · next h => exact describes_digits (not_le.1 h)

variable {machine : Machine}

/-- Operands are read off a number unless it has too many digits. -/
theorem ofDecimal_eq_ok_iff {d : Decimal} {o : Operands} :
    ofDecimal machine d = .ok o ↔ d.IsReadable machine ∧ o = digitsOf d := by
  have hmemory := machine.digitLimit_lt_memory
  have hbound := machine.memory_lt_machineBound
  unfold ofDecimal digitsOf Decimal.IsReadable
  split
  · next hexponent =>
    have hscale : d.scale = 0 := by
      simp only [Decimal.scale]
      omega
    have hcapacity : d.exponent.toNat ≤ machine.memory ↔ d.exponent ≤ machine.memory := by omega
    simp only [bind_eq_ok_iff, pure_eq_ok_iff, Numeral.read_eq_ok_iff,
      Numeral.checkCapacity_eq_ok_iff hbound, Numeral.value_ofNat, hscale, hcapacity]
    constructor
    · rintro ⟨_, ⟨hlength, rfl⟩, _, hzeros, rfl⟩
      exact ⟨⟨hlength, Nat.zero_le _, hzeros⟩, rfl⟩
    · rintro ⟨⟨hlength, -, hzeros⟩, rfl⟩
      exact ⟨_, ⟨hlength, rfl⟩, (), hzeros, rfl⟩
  · next hexponent =>
    have hneg : d.exponent < 0 := not_le.1 hexponent
    have hone : 1 ≤ Fault.digitLimit := by decide
    have hwhole := Decimal.length_wholeDigits hneg
    have hfraction := Decimal.length_fractionDigits hneg
    have hsignificant := Decimal.length_significantDigits_le hneg
    simp only [bind_eq_ok_iff, pure_eq_ok_iff, Numeral.read_eq_ok_iff,
      Numeral.readOrZero_eq_ok_iff, Numeral.checkCapacity_eq_ok_iff hbound]
    constructor
    · rintro ⟨_, -, _, ⟨hi, rfl⟩, _, ⟨hf, rfl⟩, _, ⟨-, rfl⟩, rfl⟩
      exact ⟨⟨by omega, by omega, by omega⟩, rfl⟩
    · rintro ⟨⟨hi, hf, -⟩, rfl⟩
      exact ⟨(), by omega, _, ⟨by omega, rfl⟩, _, ⟨by omega, rfl⟩, _, ⟨by omega, rfl⟩, rfl⟩

end Operands

/-! ### Operands of any number -/

/-- `number.Shows places d`: the visible digits of the number are those of `d`. An integer has none
after the point. A binary number shows its shortest decimal form with `places` digits after the
point; every other number shows the digits that it has. -/
inductive Datum.Shows (places : ℕ) : Datum → Decimal → Prop where
  | integer (i : ℤ) : Shows places (.integer i) (.ofInt i)
  | binary {negative : Bool} {significand : ℕ} {exponent : ℤ} {d : Decimal} :
      (Binary64.shortest negative significand exponent).RoundsTo places d →
      Shows places (.binary (.finite negative significand exponent)) d
  | decimal (d : Decimal) : Shows places (.decimal (.finite d)) d
  | text {t : Text} {d : Decimal} :
      ExtendedDecimal.read? t = some (.finite d) → Shows places (.text t) d

/-- The sign has no influence on the shortest form. -/
theorem Binary64.shortest_abs (negative : Bool) (significand : ℕ) (exponent : ℤ) :
    (shortest negative significand exponent).abs = shortest false significand exponent := by
  unfold shortest
  split <;> rfl

/-- Rounding does the same to a number with and without its sign. -/
theorem Decimal.RoundsTo.withSign {d r : Decimal} {places : ℕ} (h : d.abs.RoundsTo places r) :
    d.RoundsTo places { r with negative := d.negative } ∧
      Decimal.abs { r with negative := d.negative } = r := by
  obtain ⟨hnegative, hexponent, hcoefficient⟩ := h
  rw [d.rational_abs, abs_abs d.rational] at hcoefficient
  refine ⟨⟨rfl, hexponent, hcoefficient⟩, ?_⟩
  cases r
  cases hnegative
  rfl

/-- The data that are numbers of places. -/
theorem Datum.precision?_eq_some_iff {precision : Datum} {places : ℕ} :
    precision.precision? = some places ↔ precision = .integer places := by
  constructor
  · intro h
    unfold precision? at h
    split at h
    · exact congrArg Datum.integer (congrArg Int.ofNat (Option.some.inj h))
    · simp at h
  · rintro rfl
    rfl

namespace Operands

variable {machine : Machine}

@[simp] theorem refuse_ne_ok {α : Type} {number : Datum} {reason : Text} {a : α} :
    refuse machine number reason ≠ .ok a := by
  simp [refuse, bind_eq_ok_iff]

@[simp] theorem refusePrecision_ne_ok {α : Type} {precision : Datum} {a : α} :
    refusePrecision machine precision ≠ .ok a := by
  simp [refusePrecision, bind_eq_ok_iff]

theorem ofExtended_eq_ok_iff {number : Datum} {x : ExtendedDecimal} {o : Operands} :
    ofExtended machine number x = .ok o ↔ ∃ d, x = .finite d ∧ ofDecimal machine d.abs = .ok o := by
  cases x <;> simp [ofExtended]

theorem describes_ofNat (i : ℤ) : (ofNat i.natAbs).Describes (.ofInt i) := by
  have := describes_digitsOf (.ofInt i)
  simpa [digitsOf, Decimal.ofInt, Decimal.abs, ofNat, Decimal.ofNat, powerOfTen] using this

/-- Operands of a number describe what it shows. The cases are the kinds of numbers. -/
theorem exists_shows_of_ofDatum {number : Datum} {places : ℕ} {o : Operands}
    (h : ofDatum machine number places = .ok o) : ∃ d, number.Shows places d ∧ o.Describes d := by
  have ofExtended_shows {x : ExtendedDecimal} (h : ofExtended machine number x = .ok o)
      (hshows : ∀ d, x = .finite d → number.Shows places d) :
      ∃ d, number.Shows places d ∧ o.Describes d := by
    obtain ⟨d, hx, hd⟩ := ofExtended_eq_ok_iff.1 h
    exact ⟨d, hshows d hx, (ofDecimal_eq_ok_iff.1 hd).2 ▸ describes_digitsOf d⟩
  unfold ofDatum at h
  split at h
  · simp at h
  · obtain rfl := Except.ok.inj h
    exact ⟨_, .integer _, describes_ofNat _⟩
  · next negative significand exponent =>
    obtain ⟨r, hrounded, h⟩ := bind_eq_ok_iff.1 h
    have hrounds := Decimal.roundsTo_of_rounded hrounded
    rw [← Binary64.shortest_abs negative] at hrounds
    obtain ⟨hshows, habs⟩ := hrounds.withSign
    refine ⟨_, .binary hshows, ?_⟩
    rw [(ofDecimal_eq_ok_iff.1 h).2, ← habs]
    exact describes_digitsOf _
  · simp at h
  · exact ofExtended_shows h fun d hx => hx ▸ .decimal d
  · split at h
    · next hread => exact ofExtended_shows h fun d hx => .text (hx ▸ hread)
    · simp at h
  · simp at h
  · simp at h

/-- **Operands describe the visible digits.** Whatever operands a number has with some precision, on
any machine, the precision is a number of places, and the operands are those of the decimal number
that the number shows with so many places: `n` is its exact magnitude, `i` the whole part, `v` the
number of digits after the point and `f` their value, and `t` and `w` are what is left of them
without closing zeros. -/
theorem describe_visible_digits {number precision : Datum} {o : Operands}
    (h : of number precision machine = .ok o) :
    ∃ (places : ℕ) (d : Decimal), precision = .integer places ∧ number.Shows places d ∧
      o.Describes d := by
  unfold of at h
  split at h
  · next places hplaces =>
    obtain ⟨d, hshows, hdescribes⟩ := exists_shows_of_ofDatum h
    exact ⟨places, d, Datum.precision?_eq_some_iff.1 hplaces, hshows, hdescribes⟩
  · simp at h

/-- A digit of zero before the significant one and a zero after it. -/
theorem describe_visible_digits_text :
    of (.text " -1.050 ") = .ok ⟨⟨false, 1050, -3⟩, 1, 3, 2, 50, 5, 0⟩ ∧
      ∃ (places : ℕ) (d : Decimal), Datum.defaultPrecision = .integer places ∧
        (Datum.text " -1.050 ").Shows places d ∧
        Describes ⟨⟨false, 1050, -3⟩, 1, 3, 2, 50, 5, 0⟩ d := by
  have h : of (.text " -1.050 ") = .ok ⟨⟨false, 1050, -3⟩, 1, 3, 2, 50, 5, 0⟩ := by decide
  exact ⟨h, describe_visible_digits h⟩

end Operands

end Numerus
