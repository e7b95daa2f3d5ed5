/-!
Texts as sequences of code points.

Every offset, length and limit of the library counts code points, so a text is
the list of its characters and the lemmas on lists apply to it as they stand. String
literals may be written where a text is expected.
-/

namespace Numerus

/-- A text: the list of its code points. -/
abbrev Text := List Char

instance : Coe String Text := ⟨String.toList⟩

namespace Text

/-- The most characters for which a text finds room in memory. -/
def capacity : Nat := 10000000000

/-- The part of `t` from offset `start` up to, and without, offset `stop`. -/
def slice (t : Text) (start stop : Nat) : Text := (t.drop start).take (stop - start)

/-- The part of `t` before the first `mark`, or all of `t` without one. -/
def before (mark : Char) (t : Text) : Text := t.takeWhile (· != mark)

/-- The part of `t` after the first `mark`, or the empty text without one. -/
def after (mark : Char) (t : Text) : Text := (t.dropWhile (· != mark)).tail

/-- The texts `ts`, one after another, with `separator` between neighbours. -/
def joined (separator : Text) (ts : List Text) : Text := separator.intercalate ts

/-- The text `t` with `fill` put in front of it until it has `width` characters. -/
def padded (width : Nat) (fill : Char) (t : Text) : Text :=
  List.replicate (width - t.length) fill ++ t

/-- The text without the copies of `fill` at its end. -/
def trimmedEnd (fill : Char) (t : Text) : Text := (t.reverse.dropWhile (· == fill)).reverse

/-- The place of offset `i` in a text of `length` characters: a negative offset counts from the
end, and an offset outside the text is moved to the nearer end. -/
def place (length : Nat) (i : Int) : Nat :=
  if i < 0 then (i + length).toNat else min i.toNat length

/-- The part of `t` between two signed offsets, a negative one counting from the end. -/
def span (t : Text) (start stop : Int) : Text :=
  t.slice (place t.length start) (place t.length stop)

/-- The character at a signed offset, a negative one counting from the end, if there is one. -/
def at? (t : Text) (i : Int) : Option Char :=
  if 0 ≤ i then t[i.toNat]?
  else if 0 ≤ i + t.length then t[(i + t.length).toNat]?
  else none

/-- Whether `s` stands at or before `t` in the order of their code points. -/
def precedes : Text → Text → Bool
  | [], _ => true
  | _ :: _, [] => false
  | a :: s, b :: t => if a = b then precedes s t else a.toNat < b.toNat

/-- Of two texts one stands at or before the other. -/
theorem precedes_total (s t : Text) : (precedes s t || precedes t s) = true := by
  induction s generalizing t with
  | nil => simp [precedes]
  | cons a s ih =>
    cases t with
    | nil => simp [precedes]
    | cons b t =>
      by_cases h : a = b
      · subst h
        simpa [precedes] using ih t
      · have : a.toNat ≠ b.toNat := fun e => h (Char.toNat_inj.1 e)
        simp [precedes, h, Ne.symm h]
        omega

/-- A text stands before all texts that it opens. -/
theorem precedes_append (s t : Text) : precedes s (s ++ t) = true := by
  induction s with
  | nil => rfl
  | cons c s ih => simpa [precedes] using ih

/-- Texts that stand at or before each other are the same. -/
theorem precedes_antisymm {s t : Text} (hst : precedes s t = true) (hts : precedes t s = true) :
    s = t := by
  induction s generalizing t with
  | nil =>
    cases t with
    | nil => rfl
    | cons b t => simp [precedes] at hts
  | cons a s ih =>
    cases t with
    | nil => simp [precedes] at hst
    | cons b t =>
      by_cases h : a = b
      · subst h
        simp only [precedes, if_true] at hst hts
        rw [ih hst hts]
      · simp only [precedes, if_neg h, if_neg (Ne.symm h), decide_eq_true_eq] at hst hts
        omega

theorem precedes_trans {s t u : Text} (hst : precedes s t = true) (htu : precedes t u = true) :
    precedes s u = true := by
  induction s generalizing t u with
  | nil => rfl
  | cons a s ih =>
    match t, u with
    | [], _ => simp [precedes] at hst
    | _ :: _, [] => simp [precedes] at htu
    | b :: t, c :: u =>
      simp only [precedes] at hst htu ⊢
      by_cases hab : a = b
      · subst hab
        by_cases hac : a = c
        · simp only [if_pos hac, if_true] at hst htu ⊢
          exact ih hst htu
        · simpa only [if_neg hac] using htu
      · simp only [if_neg hab, decide_eq_true_eq] at hst
        by_cases hbc : b = c
        · subst hbc
          simpa only [if_neg hab, decide_eq_true_eq] using hst
        · simp only [if_neg hbc, decide_eq_true_eq] at htu
          have hac : a ≠ c := by
            rintro rfl
            omega
          simp only [if_neg hac, decide_eq_true_eq]
          omega

@[simp] theorem length_slice (t : Text) (start stop : Nat) :
    (t.slice start stop).length = min (stop - start) (t.length - start) := by
  simp [slice]

theorem before_append_of_notMem {mark : Char} {t : Text} (h : mark ∉ t) (rest : Text) :
    before mark (t ++ mark :: rest) = t := by
  induction t with
  | nil => simp [before]
  | cons c t ih =>
    have hc : c ≠ mark := fun e => h (e ▸ List.mem_cons_self)
    have ht : mark ∉ t := fun e => h (List.mem_cons_of_mem _ e)
    have := ih ht
    simp only [before] at this ⊢
    simp [hc, this]

/-- What stands before the mark holds no mark. -/
theorem notMem_before (mark : Char) (t : Text) : mark ∉ before mark t := by
  induction t with
  | nil => simp [before]
  | cons c t ih =>
    simp only [before, List.takeWhile_cons] at ih ⊢
    by_cases hc : c = mark
    · simp [hc]
    · simp [hc, Ne.symm hc, ih]

/-- A text without the mark is all before it. -/
theorem before_eq_self_iff {mark : Char} {t : Text} : before mark t = t ↔ mark ∉ t := by
  constructor
  · intro h
    rw [← h]
    exact notMem_before mark t
  · intro h
    induction t with
    | nil => rfl
    | cons c t ih =>
      have hc : c ≠ mark := fun heq => h (heq ▸ List.mem_cons_self)
      have ht : before mark t = t := ih fun hmem => h (List.mem_cons_of_mem _ hmem)
      simp only [before] at ht ⊢
      simp [hc, ht]

end Text

end Numerus
