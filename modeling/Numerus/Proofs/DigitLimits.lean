import Numerus.Proofs.BinaryFormat
import Numerus.Proofs.VisibleDigits

/-!
Which numbers have operands.

A precision that is no number of places and a number that is not finite are refused as arguments.
Every finite number has operands, except that digits are read as numerals: those before the point
and those after it must each be within the limit on numerals, and so must the places asked for of a
binary number; and there must be memory for the zeros of an exponent. Integers are not read digit by
digit and have no limit. Beyond the limits there is neither an answer nor a refused argument, and
likewise where a refusal would show an integer that is too long or data that are nested too deeply.
All of this holds on every machine.

* `Operands.ofDatum_refuses`, `Operands.ofDatum_failsWith` — numbers that are not finite are
  refused, finite ones are not.
* `Operands.exists_ofDatum_eq_ok_iff` — the numbers that have operands.
* `Operands.given_within_limits` — when numbers have operands, when they are refused as arguments,
  and what is left.
* `Operands.deep_fraction_not_given` — a decimal number beyond the limits.
-/

namespace Numerus

/-! ### Failures beyond the limits -/

/-- Whether the failure tells that there is something in the datum that cannot be shown. -/
inductive Failure.IsUnshown : Failure → Prop where
  | numberTooLong : IsUnshown (.invalid .numberTooLong)
  | tooDeep : IsUnshown .tooDeep

/-- Whether the failure tells that there are too many digits, or too little room for what is
computed. -/
inductive Failure.IsLimit : Failure → Prop where
  | numeralTooLong (digits : ℕ) : IsLimit (.invalid (.numeralTooLong digits))
  | unshown {e : Failure} : e.IsUnshown → IsLimit e
  | workingDigits : IsLimit (.invalid .workingDigits)
  | overflow : IsLimit .overflow
  | outOfMemory : IsLimit .outOfMemory

namespace Numeral

theorem checkLength_failsWith (digits : ℕ) : FailsWith Failure.IsLimit (checkLength digits) := by
  unfold checkLength
  split
  · exact .ok _
  · exact .error (.numeralTooLong digits)

theorem checkCapacity_failsWith (length memory : ℕ) :
    FailsWith Failure.IsLimit (checkCapacity length memory) := by
  unfold checkCapacity
  split
  · exact .error .overflow
  · split
    · exact .error .outOfMemory
    · exact .ok _

theorem read_failsWith (t : Text) : FailsWith Failure.IsLimit (read t) :=
  (checkLength_failsWith _).bind fun _ _ => .pure _

theorem readOrZero_failsWith (t : Text) : FailsWith Failure.IsLimit (readOrZero t) := by
  unfold readOrZero
  split
  · exact .ok 0
  · exact read_failsWith t

end Numeral

/-! ### Data that cannot be shown -/

namespace Datum

/-- A datum that cannot be shown holds an integer that is too long, or is nested too deeply. -/
theorem shownWithin_failsWith (room : ℕ) (d : Datum) :
    FailsWith Failure.IsUnshown (d.shownWithin room) := by
  induction room generalizing d with
  | zero =>
    rw [shownWithin]
    exact .error .tooDeep
  | succ room ih =>
    cases d with
    | integer i =>
      rw [shownWithin]
      exact (Numeral.write_failsWith i).mono fun e he => he ▸ .numberTooLong
    | sequence items =>
      rw [shownWithin]
      exact (FailsWith.mapM fun item _ => ih item).bind fun _ _ => .pure _
    | mapping entries =>
      rw [shownWithin]
      refine (FailsWith.mapM fun entry _ => ?_).bind fun _ _ => .pure _
      exact (ih entry.1).bind fun _ _ => (ih entry.2).bind fun _ _ => .pure _
    | _ =>
      rw [shownWithin]
      exact .ok _

/-- Whether messages can show the datum. -/
def IsShowable (machine : Machine) (d : Datum) : Prop := ∃ t, d.shown machine = .ok t

/-- Whether the datum is a finite number: an integer, or one of another kind that is no infinity
and not refused as no number, or a text of such a number. -/
def IsFinite : Datum → Prop
  | integer _ => True
  | binary (.finite ..) => True
  | decimal (.finite _) => True
  | text t => ∃ d, ExtendedDecimal.read? t = some (.finite d)
  | _ => False

/-- Whether a binary number is one of 64 bits; nothing is asked of other data. -/
def InFormat : Datum → Prop
  | binary b => b.InFormat
  | _ => True

/-- Binary numbers that are read have the format. -/
theorem inFormat_of_read? {t : Text} {b : Binary64} (h : Binary64.read? t = some b) :
    (binary b).InFormat :=
  (Binary64.read?_isCanonical h).inFormat

end Datum

/-! ### Digits within the limit -/

/-- Whether the datum is a finite number with digits within the limit: an integer is, whatever its
digits, and of a binary number those after the point are the places asked for. -/
def Datum.WithinLimits (machine : Machine) (places : ℕ) : Datum → Prop
  | integer _ => True
  | binary (.finite ..) => places ≤ Fault.digitLimit
  | decimal (.finite d) => d.IsReadable machine
  | text t => ∃ d, ExtendedDecimal.read? t = some (.finite d) ∧ d.IsReadable machine
  | _ => False

variable {machine : Machine}

namespace Operands

/-! ### Operands of a decimal number -/

theorem ofDecimal_failsWith (machine : Machine) (d : Decimal) :
    FailsWith Failure.IsLimit (ofDecimal machine d) := by
  unfold ofDecimal
  split
  · exact (Numeral.read_failsWith _).bind fun _ _ =>
      (Numeral.checkCapacity_failsWith _ _).bind fun _ _ => .pure _
  · exact (Numeral.checkCapacity_failsWith _ _).bind fun _ _ =>
      (Numeral.read_failsWith _).bind fun _ _ => (Numeral.read_failsWith _).bind fun _ _ =>
        (Numeral.readOrZero_failsWith _).bind fun _ _ => .pure _

end Operands

theorem Decimal.rounded_failsWith (d : Decimal) (places : ℕ) :
    FailsWith Failure.IsLimit (d.rounded places) := by
  have hworking (working : ℤ) : FailsWith Failure.IsLimit (checkWorkingDigits working) := by
    unfold checkWorkingDigits
    split
    · exact .error .overflow
    · split
      · exact .error .workingDigits
      · exact .ok _
  have hfits : ¬ (Numeral.length (d.coefficientAt places) : ℤ) > d.workingDigits places :=
    not_lt.2 (d.length_coefficientAt_le places)
  simp only [rounded, if_neg hfits]
  exact (hworking _).bind fun _ _ => (Numeral.checkCapacity_failsWith _ _).bind fun _ _ =>
    (Numeral.checkLength_failsWith _).bind fun _ _ => .pure _

/-! ### Operands of a binary number -/

/-- Of a binary number the digits after the point alone can be too many. -/
theorem Binary64.isReadable_rounded (machine : Machine) {negative : Bool} {significand : ℕ}
    {exponent : ℤ} {places : ℕ} {r : Decimal}
    (hformat : (finite negative significand exponent).InFormat)
    (h : (shortest false significand exponent).rounded places = .ok r) : r.IsReadable machine := by
  have hadjusted := adjusted_shortest_lt hformat
  obtain ⟨-, hplaces, rfl⟩ := Decimal.rounded_eq_ok_iff.1 h
  have hlength := (shortest false significand exponent).length_coefficientAt_le places
  have hlimit : Fault.digitLimit = 4300 := rfl
  have hscale : Decimal.scale ⟨(shortest false significand exponent).negative,
      (shortest false significand exponent).coefficientAt places, -places⟩ = places := by
    simp [Decimal.scale]
  simp only [Decimal.workingDigits, Decimal.leastWorkingDigits] at hlength
  unfold Decimal.IsReadable
  rw [hscale]
  simp only
  exact ⟨by omega, hplaces, by omega⟩

theorem Binary64.exists_rounded {negative : Bool} {significand : ℕ} {exponent : ℤ} {places : ℕ}
    (hformat : (finite negative significand exponent).InFormat)
    (hplaces : places ≤ Fault.digitLimit) :
    ∃ r, (shortest false significand exponent).rounded places = .ok r := by
  have hadjusted := adjusted_shortest_lt hformat
  have hlimit : Fault.digitLimit = 4300 := rfl
  refine ⟨_, Decimal.rounded_eq_ok_iff.2 ⟨?_, hplaces, rfl⟩⟩
  simp only [Decimal.workingDigits, Decimal.leastWorkingDigits, Decimal.mostWorkingDigits]
  omega

namespace Operands

/-! ### Operands of any number -/

variable {number precision : Datum} {places : ℕ}

/-- `Refuses machine name d x`: the operation `x` refuses `d` as the argument `name`, unless `d`
cannot be shown: then it fails where it tries to. -/
inductive Refuses (machine : Machine) (name : Text) (d : Datum) :
    Except Failure Operands → Prop where
  | argument (notice : Notice) : d.IsShowable machine →
      Refuses machine name d (.error (.argument notice name))
  | unshown {e : Failure} : ¬ d.IsShowable machine → e.IsUnshown → Refuses machine name d (.error e)

/-- A datum is refused by showing it first. -/
theorem refuses_of_shown {name : Text} {d : Datum} {refusal : Text → Except Failure Operands}
    (h : ∀ t, ∃ notice, refusal t = .error (.argument notice name)) :
    Refuses machine name d (d.shown machine >>= refusal) := by
  cases hshown : d.shown machine with
  | ok t =>
    obtain ⟨notice, hrefusal⟩ := h t
    show Refuses machine name d (refusal t)
    rw [hrefusal]
    exact .argument notice ⟨t, hshown⟩
  | error e =>
    have hnot : ¬ d.IsShowable machine := by simp [Datum.IsShowable, hshown]
    exact .unshown hnot (d.shownWithin_failsWith machine.room e hshown)

theorem refuse_refuses (machine : Machine) (number : Datum) (reason : Text) :
    Refuses machine "number" number (refuse machine number reason) :=
  refuses_of_shown fun _ => ⟨_, rfl⟩

theorem refusePrecision_refuses (machine : Machine) (precision : Datum) :
    Refuses machine "precision" precision (refusePrecision machine precision) :=
  refuses_of_shown fun _ => ⟨_, rfl⟩

namespace Refuses

variable {name name' : Text} {d : Datum} {x : Except Failure Operands}

theorem ne_ok (h : Refuses machine name d x) (o : Operands) : x ≠ .ok o := by
  cases h <;> simp

theorem argument_iff (h : Refuses machine name d x) :
    (∃ notice, x = .error (.argument notice name')) ↔ name' = name ∧ d.IsShowable machine := by
  cases h with
  | argument notice hshowable => simp [hshowable, eq_comm]
  | unshown hshowable he => cases he <;> simp [hshowable]

theorem failsWith (h : Refuses machine name d x) :
    FailsWith (fun e => (∃ notice name, e = .argument notice name) ∨ e.IsLimit) x := by
  cases h with
  | argument notice => exact .error (.inl ⟨notice, name, rfl⟩)
  | unshown _ he => exact .error (.inr (.unshown he))

end Refuses

/-- What is no finite number is refused. -/
theorem ofDatum_refuses (machine : Machine) (places : ℕ) (h : ¬ number.IsFinite) :
    Refuses machine "number" number (ofDatum machine number places) := by
  unfold Datum.IsFinite at h
  unfold ofDatum
  split
  · exact refuse_refuses _ _ _
  · simp at h
  · simp at h
  · exact refuse_refuses _ _ _
  · next d =>
    cases d with
    | finite => simp at h
    | infinite => exact refuse_refuses _ _ _
    | notANumber => exact refuse_refuses _ _ _
  · next t =>
    split
    · next d hread =>
      cases d with
      | finite => simp [hread] at h
      | infinite => exact refuse_refuses _ _ _
      | notANumber => exact refuse_refuses _ _ _
    · exact refuse_refuses _ _ _
  · exact refuse_refuses _ _ _
  · exact refuse_refuses _ _ _

/-- A finite number is not refused. -/
theorem ofDatum_failsWith (machine : Machine) (places : ℕ) (h : number.IsFinite) :
    FailsWith Failure.IsLimit (ofDatum machine number places) := by
  unfold Datum.IsFinite at h
  split at h
  · exact .ok _
  · exact (Decimal.rounded_failsWith _ _).bind fun d _ => ofDecimal_failsWith machine d
  · exact ofDecimal_failsWith machine _
  · obtain ⟨d, hread⟩ := h
    simp only [ofDatum, hread]
    exact ofDecimal_failsWith machine _
  · exact h.elim

theorem exists_ofExtended_eq_ok_iff {x : ExtendedDecimal} :
    (∃ o, ofExtended machine number x = .ok o) ↔ ∃ d, x = .finite d ∧ d.IsReadable machine := by
  constructor
  · rintro ⟨o, h⟩
    obtain ⟨d, hx, hd⟩ := ofExtended_eq_ok_iff.1 h
    exact ⟨d, hx, (ofDecimal_eq_ok_iff.1 hd).1⟩
  · rintro ⟨d, hx, hreadable⟩
    exact ⟨_, ofExtended_eq_ok_iff.2 ⟨d, hx, ofDecimal_eq_ok_iff.2 ⟨hreadable, rfl⟩⟩⟩

/-- A binary number has operands exactly if not too many places are asked for. -/
theorem exists_ofBinary_eq_ok_iff {negative : Bool} {significand : ℕ} {exponent : ℤ}
    (hformat : (Binary64.finite negative significand exponent).InFormat) :
    (∃ o, ofDatum machine (.binary (.finite negative significand exponent)) places = .ok o) ↔
      places ≤ Fault.digitLimit := by
  constructor
  · rintro ⟨o, h⟩
    obtain ⟨d, hd, -⟩ := bind_eq_ok_iff.1 h
    exact (Decimal.rounded_eq_ok_iff.1 hd).2.1
  · intro h
    obtain ⟨d, hd⟩ := Binary64.exists_rounded hformat h
    have hreadable := Binary64.isReadable_rounded machine hformat hd
    exact ⟨_, bind_eq_ok_iff.2 ⟨d, hd, ofDecimal_eq_ok_iff.2 ⟨hreadable, rfl⟩⟩⟩

/-- A number has operands exactly if it is finite and within the limits. -/
theorem exists_ofDatum_eq_ok_iff (hformat : number.InFormat) :
    (∃ o, ofDatum machine number places = .ok o) ↔ number.WithinLimits machine places := by
  cases number with
  | integer i => exact ⟨fun _ => trivial, fun _ => ⟨_, rfl⟩⟩
  | binary b =>
    cases b with
    | finite negative significand exponent => exact exists_ofBinary_eq_ok_iff hformat
    | _ => simp [ofDatum, Datum.WithinLimits]
  | decimal x => cases x <;> simp [ofDatum, Datum.WithinLimits, exists_ofExtended_eq_ok_iff]
  | text t =>
    cases hread : ExtendedDecimal.read? t <;>
      simp [ofDatum, Datum.WithinLimits, hread, exists_ofExtended_eq_ok_iff]
  | _ => simp [ofDatum, Datum.WithinLimits]

/-- **When a number has operands.** On every machine, a number and a precision have operands exactly
if the precision is a number of places and the number is finite and within the limits. They are
refused exactly for a precision that is no number of places and for a number that is not finite, if
the refusal can show them. Any other failure tells that a limit is exceeded. -/
theorem given_within_limits (machine : Machine) (hformat : number.InFormat) :
    ((∃ o, of number precision machine = .ok o) ↔
      ∃ places : ℕ, precision = .integer places ∧ number.WithinLimits machine places) ∧
    ((∃ notice, of number precision machine = .error (.argument notice "precision")) ↔
      (¬ ∃ places : ℕ, precision = .integer places) ∧ precision.IsShowable machine) ∧
    ((∃ notice, of number precision machine = .error (.argument notice "number")) ↔
      (∃ places : ℕ, precision = .integer places) ∧ ¬ number.IsFinite ∧
        number.IsShowable machine) ∧
    FailsWith (fun e => (∃ notice name, e = .argument notice name) ∨ e.IsLimit)
      (of number precision machine) := by
  unfold of
  split
  · next places hplaces =>
    obtain rfl := Datum.precision?_eq_some_iff.1 hplaces
    have hanswer : (∃ o, ofDatum machine number places = .ok o) ↔ ∃ places' : ℕ,
        Datum.integer places = .integer places' ∧ number.WithinLimits machine places' := by
      simp [exists_ofDatum_eq_ok_iff hformat]
    by_cases hfinite : number.IsFinite
    · have hlimits := ofDatum_failsWith machine places hfinite
      have hargument (name : Text) :
          ¬ ∃ notice, ofDatum machine number places = .error (.argument notice name) := by
        rintro ⟨notice, h⟩
        cases hlimits _ h with
        | unshown he => cases he
      exact ⟨hanswer, by simp [hargument], by simp [hargument, hfinite],
        fun e h => .inr (hlimits e h)⟩
    · have hrefuses := ofDatum_refuses machine places hfinite
      exact ⟨hanswer, by simp [hrefuses.argument_iff], by simp [hrefuses.argument_iff, hfinite],
        hrefuses.failsWith⟩
  · next hplaces =>
    have hnone : ¬ ∃ places : ℕ, precision = .integer places := by
      rintro ⟨places, h⟩
      rw [Datum.precision?_eq_some_iff.2 h] at hplaces
      cases hplaces
    have hrefuses := refusePrecision_refuses machine precision
    refine ⟨?_, hrefuses.argument_iff.trans (by simp [hnone]),
      hrefuses.argument_iff.trans (by simp [hnone]), hrefuses.failsWith⟩
    constructor
    · rintro ⟨o, h⟩
      exact absurd h (hrefuses.ne_ok o)
    · rintro ⟨places, hprecision, -⟩
      exact absurd ⟨places, hprecision⟩ hnone

/-- The least binary number above one, with the most places that there may be. -/
theorem given_within_limits_binary :
    (Datum.binary (.finite false 4503599627370497 (-52))).InFormat ∧
      ∃ o, of (.binary (.finite false 4503599627370497 (-52))) (.integer 4300) = .ok o := by
  have hformat : (Datum.binary (.finite false 4503599627370497 (-52))).InFormat :=
    ⟨by decide, by decide, by decide⟩
  exact ⟨hformat, (given_within_limits .usual hformat).1.2 ⟨4300, rfl, Nat.le_refl 4300⟩⟩

/-- A finite number that neither has operands nor is refused: it has one digit too many after the
point. -/
theorem deep_fraction_not_given :
    Datum.IsFinite (.decimal (.finite ⟨false, 1, -4301⟩)) ∧
      of (.decimal (.finite ⟨false, 1, -4301⟩)) = .error (.invalid (.numeralTooLong 4301)) :=
  ⟨trivial, by decide +kernel⟩

end Operands

end Numerus
