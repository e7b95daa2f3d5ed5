import Mathlib
import Numerus.Datum.Shown
import Numerus.Proofs.Build

/-!
What messages show is printable.

Numbers are written with digits, signs and points, and quoted texts show by escapes what is not
printable. So a datum as messages show it consists of printable characters, whatever it holds.

* `Text.isPrintable_quoted` — a quoted text is printable.
* `Datum.isPrintable_shown` — so is a datum as messages show it.
-/

namespace Numerus

namespace Text

/-- All characters of the text are printable. -/
def IsPrintable (t : Text) : Prop := ∀ c ∈ t, isPrintable c = true

variable {s t : Text} {ts : List Text} {separator : Text} {c : Char}

theorem isPrintable_nil : IsPrintable [] := List.forall_mem_nil _

@[simp] theorem isPrintable_cons :
    IsPrintable (c :: t) ↔ Numerus.isPrintable c = true ∧ IsPrintable t :=
  List.forall_mem_cons

@[simp] theorem isPrintable_append : IsPrintable (s ++ t) ↔ s.IsPrintable ∧ t.IsPrintable :=
  List.forall_mem_append

instance (t : Text) : Decidable t.IsPrintable :=
  decidable_of_iff (t.all Numerus.isPrintable = true) List.all_eq_true

theorem IsPrintable.of_subset (ht : t.IsPrintable) (h : s ⊆ t) : s.IsPrintable :=
  fun c hc => ht c (h hc)

/-- A character of joined texts belongs to the separator or to one of them. -/
theorem mem_of_mem_joined {separator : Text} {ts : List Text} {c : Char}
    (h : c ∈ joined separator ts) : c ∈ separator ∨ ∃ t ∈ ts, c ∈ t := by
  induction ts with
  | nil => simp [joined] at h
  | cons t ts ih =>
    cases ts with
    | nil =>
      rw [joined, List.intercalate_singleton] at h
      exact .inr ⟨t, List.mem_cons_self, h⟩
    | cons t' ts =>
      rw [joined, List.intercalate_cons_cons, List.mem_append, List.mem_append] at h
      rcases h with (h | h) | h
      · exact .inr ⟨t, List.mem_cons_self, h⟩
      · exact .inl h
      · rcases ih h with h | ⟨u, hu, hc⟩
        · exact .inl h
        · exact .inr ⟨u, List.mem_cons_of_mem _ hu, hc⟩

theorem isPrintable_joined (hseparator : separator.IsPrintable) (h : ∀ t ∈ ts, t.IsPrintable) :
    (joined separator ts).IsPrintable := by
  intro c hc
  rcases mem_of_mem_joined hc with hc | ⟨t, ht, hc⟩
  · exact hseparator c hc
  · exact h t ht c hc

theorem isPrintable_flatMap {α : Type} {f : α → Text} {as : List α}
    (h : ∀ a ∈ as, (f a).IsPrintable) : IsPrintable (as.flatMap f) := by
  intro c hc
  obtain ⟨a, ha, hc⟩ := List.mem_flatMap.1 hc
  exact h a ha c hc

end Text

/-! ### Digits -/

theorem isPrintable_digitChar {d : ℕ} (h : d < 16) : isPrintable d.digitChar = true := by
  have hdigits : ∀ d < 16, isPrintable d.digitChar = true := by decide
  exact hdigits d h

namespace Text

theorem isPrintable_toDigits {b : ℕ} (n : ℕ) (hb : 1 < b) (hb' : b ≤ 16) :
    IsPrintable (Nat.toDigits b n) := by
  induction n using Nat.strongRecOn with
  | ind n ih =>
    rw [Nat.toDigits_eq_if hb]
    split
    · next hn =>
      exact isPrintable_cons.2 ⟨isPrintable_digitChar (by omega), isPrintable_nil⟩
    · next hn =>
      have hlt : n / b < n := Nat.div_lt_self (by omega) hb
      have hdigit : n % b < 16 := (Nat.mod_lt n (by omega)).trans_le hb'
      exact isPrintable_append.2
        ⟨ih _ hlt, isPrintable_cons.2 ⟨isPrintable_digitChar hdigit, isPrintable_nil⟩⟩

theorem isPrintable_zeros (n : ℕ) : IsPrintable (List.replicate n '0') := by
  intro c hc
  rw [List.eq_of_mem_replicate hc]
  decide

theorem isPrintable_padded {t : Text} (width : ℕ) (h : t.IsPrintable) :
    (t.padded width '0').IsPrintable :=
  isPrintable_append.2 ⟨isPrintable_zeros _, h⟩

end Text

/-! ### Quoted texts -/

namespace Text

variable {plain : Char → Bool} {mark : Char}

theorem isPrintable_numbered (n : ℕ) : (numbered n).IsPrintable := by
  have hhexadecimal (width : ℕ) : (Numeral.hexadecimal width n).IsPrintable :=
    isPrintable_padded width (isPrintable_toDigits n (by decide) (by decide))
  unfold numbered
  split_ifs <;> exact isPrintable_append.2 ⟨by decide, hhexadecimal _⟩

/-- A character that is not printable does not stand for itself between marks. -/
theorem isPrintable_escaped (hplain : ∀ c, plain c = true → Numerus.isPrintable c = true)
    (hmark : Numerus.isPrintable mark = true) (c : Char) : (escaped plain mark c).IsPrintable := by
  unfold escaped
  split
  · next h =>
    have hc : Numerus.isPrintable c = true := by
      rcases h with rfl | rfl
      · exact hmark
      · decide
    exact isPrintable_cons.2 ⟨by decide, isPrintable_cons.2 ⟨hc, isPrintable_nil⟩⟩
  · split_ifs with _ _ _ hc
    · decide
    · decide
    · decide
    · exact isPrintable_cons.2 ⟨hplain c hc, isPrintable_nil⟩
    · exact isPrintable_numbered _

theorem isPrintable_quotationMark (t : Text) : Numerus.isPrintable t.quotationMark = true := by
  unfold quotationMark
  split_ifs <;> decide

theorem isPrintable_quotedWith (hplain : ∀ c, plain c = true → Numerus.isPrintable c = true)
    (t : Text) : (t.quotedWith plain).IsPrintable := by
  have hmark := t.isPrintable_quotationMark
  have hinner := isPrintable_flatMap fun c (_ : c ∈ t) => isPrintable_escaped hplain hmark c
  exact isPrintable_append.2
    ⟨isPrintable_cons.2 ⟨hmark, hinner⟩, isPrintable_cons.2 ⟨hmark, isPrintable_nil⟩⟩

/-- A quoted text is printable, whatever it holds. -/
theorem isPrintable_quoted (t : Text) : t.quoted.IsPrintable :=
  isPrintable_quotedWith (fun _ => id) t

end Text

theorem CodePoint.isPrintable_quoted (points : List ℕ) : Text.IsPrintable (quoted points) := by
  have hmark := Text.isPrintable_quotationMark (points.map toChar)
  have hescaped (n : ℕ) :
      Text.IsPrintable (escaped (Text.quotationMark (points.map toChar)) n) := by
    unfold escaped
    split
    · exact Text.isPrintable_numbered n
    · exact Text.isPrintable_escaped (fun _ => id) hmark _
  have hinner := Text.isPrintable_flatMap fun n (_ : n ∈ points) => hescaped n
  exact Text.isPrintable_append.2 ⟨Text.isPrintable_cons.2 ⟨hmark, hinner⟩,
    Text.isPrintable_cons.2 ⟨hmark, Text.isPrintable_nil⟩⟩

theorem isPrintable_quotedBytes (bytes : List UInt8) : Text.IsPrintable (quotedBytes bytes) := by
  refine Text.isPrintable_cons.2 ⟨by decide, Text.isPrintable_quotedWith (fun c hc => ?_) _⟩
  have hbounds : 0x20 ≤ c.toNat ∧ c.toNat < 0x7F := by simpa using hc
  simp only [isPrintable]
  rw [if_pos (by omega)]
  exact hc

/-! ### Numbers -/

theorem Numeral.isPrintable_ofNat (n : ℕ) : Text.IsPrintable (ofNat n) :=
  Text.isPrintable_toDigits n (by decide) (by decide)

theorem Numeral.isPrintable_of_write {i : ℤ} {t : Text} (h : write i = .ok t) : t.IsPrintable := by
  unfold write at h
  split at h
  · obtain rfl := Except.ok.inj h
    unfold ofInt
    split_ifs
    · exact Text.isPrintable_cons.2 ⟨by decide, isPrintable_ofNat _⟩
    · exact isPrintable_ofNat _
  · simp at h

/-- The sign in front of a number. -/
theorem Text.isPrintable_sign (negative : Bool) :
    Text.IsPrintable (if negative then ['-'] else []) := by
  cases negative <;> decide

theorem Decimal.isPrintable_pointed {digits : Text} (h : digits.IsPrintable) (places : ℤ) :
    Text.IsPrintable (pointed digits places) := by
  have htake (n : ℕ) : Text.IsPrintable (digits.take n) := h.of_subset (List.take_subset n digits)
  have hdrop (n : ℕ) : Text.IsPrintable (digits.drop n) := h.of_subset (List.drop_subset n digits)
  unfold pointed
  split_ifs
  · exact Text.isPrintable_append.2
      ⟨Text.isPrintable_append.2 ⟨by decide, Text.isPrintable_zeros _⟩, h⟩
  · exact Text.isPrintable_append.2
      ⟨htake _, Text.isPrintable_cons.2 ⟨by decide, hdrop _⟩⟩
  · exact Text.isPrintable_append.2 ⟨h, Text.isPrintable_zeros _⟩

theorem Decimal.isPrintable_exponentMark (e : ℤ) : Text.IsPrintable (exponentMark e) := by
  unfold exponentMark
  split_ifs
  · exact Text.isPrintable_nil
  all_goals
    exact Text.isPrintable_cons.2
      ⟨by decide, Text.isPrintable_cons.2 ⟨by decide, Numeral.isPrintable_ofNat _⟩⟩

theorem Decimal.isPrintable_write (d : Decimal) : Text.IsPrintable d.write := by
  have hdigits := Numeral.isPrintable_ofNat d.coefficient
  refine Text.isPrintable_append.2 ⟨Text.isPrintable_sign _, ?_⟩
  unfold magnitude
  split_ifs
  · exact isPrintable_pointed hdigits _
  · exact Text.isPrintable_append.2 ⟨isPrintable_pointed hdigits _, isPrintable_exponentMark _⟩

namespace Binary64

theorem isPrintable_significantDigits (n : ℕ) : Text.IsPrintable (significantDigits n) := by
  refine (Numeral.isPrintable_ofNat n).of_subset fun c hc => ?_
  have hmem := (List.dropWhile_sublist _).mem (List.mem_reverse.1 hc)
  exact List.mem_reverse.1 hmem

theorem isPrintable_pointed {digits : Text} (h : digits.IsPrintable) (places : ℤ) :
    Text.IsPrintable (pointed digits places) := by
  have hdigits := Decimal.isPrintable_pointed h places
  simp only [pointed]
  split
  · exact Text.isPrintable_append.2 ⟨hdigits, by decide⟩
  · exact hdigits

theorem isPrintable_scientific {digits : Text} (h : digits.IsPrintable) (adjusted : ℤ) :
    Text.IsPrintable (scientific digits adjusted) := by
  have htake : Text.IsPrintable (digits.take 1) := h.of_subset (List.take_subset 1 digits)
  have hpoint : Text.IsPrintable (if digits.length ≤ 1 then [] else '.' :: digits.drop 1) := by
    split_ifs
    · exact Text.isPrintable_nil
    · exact Text.isPrintable_cons.2 ⟨by decide, h.of_subset (List.drop_subset 1 digits)⟩
  have hexponent : Text.IsPrintable (Text.padded 2 '0' (Numeral.ofNat adjusted.natAbs)) :=
    Text.isPrintable_padded 2 (Numeral.isPrintable_ofNat _)
  have hsign : isPrintable (if adjusted < 0 then '-' else '+') = true := by
    split_ifs <;> decide
  exact Text.isPrintable_append.2 ⟨Text.isPrintable_append.2 ⟨htake, hpoint⟩,
    Text.isPrintable_cons.2 ⟨by decide, Text.isPrintable_cons.2 ⟨hsign, hexponent⟩⟩⟩

theorem isPrintable_writeShortest (d : Decimal) : Text.IsPrintable (writeShortest d) := by
  have hdigits := isPrintable_significantDigits d.coefficient
  have hsign := Text.isPrintable_sign d.negative
  simp only [writeShortest]
  split
  · exact Text.isPrintable_append.2 ⟨hsign, by decide⟩
  · split
    · exact Text.isPrintable_append.2 ⟨hsign, isPrintable_pointed hdigits _⟩
    · exact Text.isPrintable_append.2 ⟨hsign, isPrintable_scientific hdigits _⟩

theorem isPrintable_write (b : Binary64) : Text.IsPrintable b.write := by
  cases b with
  | finite negative significand exponent => exact isPrintable_writeShortest _
  | infinite negative => exact Text.isPrintable_append.2 ⟨Text.isPrintable_sign _, by decide⟩
  | notANumber => decide

end Binary64

theorem ExtendedDecimal.isPrintable_shown (d : ExtendedDecimal) : Text.IsPrintable d.shown :=
  Text.isPrintable_append.2
    ⟨Text.isPrintable_append.2 ⟨by decide, Text.isPrintable_quoted _⟩, by decide⟩

/-! ### Data -/

theorem Locale.isPrintable_shown (l : Locale) : Text.IsPrintable l.shown := by
  unfold shown
  simp only [Text.isPrintable_append]
  exact ⟨⟨⟨⟨by decide, Text.isPrintable_quoted _⟩, by decide⟩, Text.isPrintable_quoted _⟩,
    by decide⟩

namespace Datum

theorem isPrintable_shownWithin {room : ℕ} {d : Datum} {t : Text} (h : d.shownWithin room = .ok t) :
    t.IsPrintable := by
  induction room generalizing d t with
  | zero => cases h
  | succ room ih =>
    have leaf (u : Text) (heq : (.ok u : Except Failure Text) = .ok t) (hu : u.IsPrintable) :
        t.IsPrintable :=
      Except.ok.inj heq ▸ hu
    cases d with
    | absent => exact leaf _ h (by decide)
    | truth value => exact leaf _ h (by cases value <;> decide)
    | integer value => exact Numeral.isPrintable_of_write h
    | binary value => exact leaf _ h value.isPrintable_write
    | decimal value => exact leaf _ h value.isPrintable_shown
    | text value => exact leaf _ h value.isPrintable_quoted
    | brokenText points => exact leaf _ h (CodePoint.isPrintable_quoted points)
    | bytes value => exact leaf _ h (isPrintable_quotedBytes value)
    | sequence items =>
      obtain ⟨ts, hts, heq⟩ := bind_eq_ok_iff.1 h
      obtain rfl := pure_eq_ok_iff.1 heq
      have hitems : ∀ t ∈ ts, t.IsPrintable := fun t ht =>
        have ⟨_, _, hitem⟩ := exists_entry_of_mem (mapM_eq_ok_iff.1 hts) ht
        ih hitem
      exact Text.isPrintable_append.2 ⟨Text.isPrintable_cons.2
        ⟨by decide, Text.isPrintable_joined (by decide) hitems⟩, by decide⟩
    | mapping entries =>
      obtain ⟨ts, hts, heq⟩ := bind_eq_ok_iff.1 h
      obtain rfl := pure_eq_ok_iff.1 heq
      have hentries : ∀ t ∈ ts, t.IsPrintable := by
        intro t ht
        obtain ⟨entry, -, hentry⟩ := exists_entry_of_mem (mapM_eq_ok_iff.1 hts) ht
        obtain ⟨key, hkey, hentry⟩ := bind_eq_ok_iff.1 hentry
        obtain ⟨value, hvalue, heq⟩ := bind_eq_ok_iff.1 hentry
        obtain rfl := pure_eq_ok_iff.1 heq
        exact Text.isPrintable_append.2 ⟨Text.isPrintable_append.2 ⟨ih hkey, by decide⟩, ih hvalue⟩
      exact Text.isPrintable_append.2 ⟨Text.isPrintable_cons.2
        ⟨by decide, Text.isPrintable_joined (by decide) hentries⟩, by decide⟩
    | locale value => exact leaf _ h value.isPrintable_shown
    | localeObject value => exact leaf _ h (List.all_eq_true.1 value.isPrintable_shown)

/-- Messages show a datum in printable characters, whatever it holds. -/
theorem isPrintable_shown {machine : Machine} {d : Datum} {t : Text}
    (h : d.shown machine = .ok t) : t.IsPrintable :=
  isPrintable_shownWithin h

end Datum

end Numerus
