import Numerus.Diagnostic.Complaint
import Numerus.Numeral.Limit

/-!
Answers of operations that may fail.

An operation that is made of two has an answer if both have, and a complaint is never one. An
operation fails only in some ways, `FailsWith P x`, if those that it is made of do.
-/

namespace Numerus

variable {α β : Type}

/-- A sequence of two operations has an answer exactly if each of them has. -/
theorem bind_eq_ok_iff {x : Except Failure α} {f : α → Except Failure β} {b : β} :
    (x >>= f) = .ok b ↔ ∃ a, x = .ok a ∧ f a = .ok b := by
  cases x <;> simp [bind, Except.bind]

/-- A check before an operation. -/
theorem check_bind_eq_ok_iff {x : Except Failure Unit} {y : Except Failure β} {b : β} :
    (x >>= fun _ => y) = .ok b ↔ x = .ok () ∧ y = .ok b := by
  rw [bind_eq_ok_iff]
  exact ⟨fun ⟨(), hx, hy⟩ => ⟨hx, hy⟩, fun ⟨hx, hy⟩ => ⟨(), hx, hy⟩⟩

theorem pure_eq_ok_iff {a b : α} : (pure a : Except Failure α) = .ok b ↔ a = b := by
  simp [pure, Except.pure]

/-- A choice between an answer and an operation, where the operation has no answer of its own in
the case of the first. -/
theorem ite_ok_eq_ok_iff {p : Prop} [Decidable p] {a b : α} {x : Except Failure α}
    (h : p → x ≠ .ok b) : (if p then .ok a else x) = .ok b ↔ p ∧ b = a ∨ x = .ok b := by
  by_cases hp : p
  · simp [hp, h hp, eq_comm]
  · simp [hp]

/-- A complaint is never an answer. -/
@[simp] theorem Complaint.raise_ne_ok (c : Complaint) (kind : Notice → Failure) (a : α) :
    c.raise kind ≠ .ok a := by
  unfold raise
  cases c.diagnostic <;> simp [bind, Except.bind, throw, throwThe, MonadExceptOf.throw]

/-! ### Ways to fail -/

/-- `FailsWith P x`: if the operation has no answer, its failure is one of `P`. -/
def FailsWith (P : Failure → Prop) (x : Except Failure α) : Prop := ∀ e, x = .error e → P e

namespace FailsWith

variable {P : Failure → Prop} {x : Except Failure α}

theorem ok (a : α) : FailsWith P (.ok a) := fun _ h => nomatch h

theorem error {e : Failure} (h : P e) : FailsWith P (.error e : Except Failure α) := by
  intro e' heq
  obtain rfl := Except.error.inj heq
  exact h

/-- A sequence of two operations fails where one of them does. -/
theorem bind {f : α → Except Failure β} (hx : FailsWith P x)
    (hf : ∀ a, x = .ok a → FailsWith P (f a)) : FailsWith P (x >>= f) := by
  cases x with
  | error e => exact .error (hx e rfl)
  | ok a => exact hf a rfl

theorem pure (a : α) : FailsWith P (Pure.pure a : Except Failure α) := .ok a

/-- A choice between two operations. -/
theorem ite {p : Prop} [Decidable p] {y : Except Failure α} (hx : FailsWith P x)
    (hy : FailsWith P y) : FailsWith P (if p then x else y) := by
  split
  · exact hx
  · exact hy

/-- A complaint with a diagnostic fails by telling it. -/
theorem raise {c : Complaint} {d : Diagnostic} (hd : c.diagnostic = .ok d)
    {kind : Notice → Failure} (h : P (kind (.diagnosed d))) :
    FailsWith P (c.raise kind : Except Failure α) := by
  rw [Complaint.raise, hd]
  exact .error h

/-- A sequence of steps of one kind fails where one of them does; the steps before it keep the
invariant. -/
theorem foldlM_of_invariant {f : β → α → Except Failure β} {as : List α} {I : β → Prop}
    (hkeep : ∀ b, ∀ a ∈ as, ∀ b', I b → f b a = .ok b' → I b')
    (hf : ∀ b, ∀ a ∈ as, I b → FailsWith P (f b a)) {b : β} (hb : I b) :
    FailsWith P (as.foldlM f b) := by
  induction as generalizing b with
  | nil => exact .ok b
  | cons a as ih =>
    rw [List.foldlM_cons]
    refine (hf b a List.mem_cons_self hb).bind fun b' hb' => ?_
    refine ih (fun b a ha => hkeep b a (List.mem_cons_of_mem _ ha))
      (fun b a ha => hf b a (List.mem_cons_of_mem _ ha)) ?_
    exact hkeep b a List.mem_cons_self b' hb hb'

theorem foldlM {f : β → α → Except Failure β} {as : List α}
    (hf : ∀ b, ∀ a ∈ as, FailsWith P (f b a)) (b : β) : FailsWith P (as.foldlM f b) :=
  foldlM_of_invariant (I := fun _ => True) (fun _ _ _ _ _ _ => trivial) (fun b a ha _ => hf b a ha)
    trivial

/-- An operation on each element of a list fails where it does so on one of them. -/
theorem mapM {f : α → Except Failure β} {as : List α} (hf : ∀ a ∈ as, FailsWith P (f a)) :
    FailsWith P (as.mapM f) := by
  induction as with
  | nil => exact .ok []
  | cons a as ih =>
    rw [List.mapM_cons]
    refine (hf a List.mem_cons_self).bind fun b _ => ?_
    exact (ih fun a ha => hf a (List.mem_cons_of_mem _ ha)).bind fun bs _ => .pure _

theorem mono {Q : Failure → Prop} (h : FailsWith P x) (hPQ : ∀ e, P e → Q e) : FailsWith Q x :=
  fun e he => hPQ e (h e he)

end FailsWith

/-! ### Numerals -/

namespace Numeral

theorem checkLength_eq_ok_iff {digits : Nat} :
    checkLength digits = .ok () ↔ digits ≤ Fault.digitLimit := by
  unfold checkLength
  split <;> simp [*]

theorem read_eq_ok_iff {t : Text} {n : Nat} :
    read t = .ok n ↔ t.length ≤ Fault.digitLimit ∧ n = value t := by
  simp only [read, bind_eq_ok_iff, pure_eq_ok_iff]
  constructor
  · rintro ⟨_, hlength, rfl⟩
    exact ⟨checkLength_eq_ok_iff.1 hlength, rfl⟩
  · rintro ⟨hlength, rfl⟩
    exact ⟨(), checkLength_eq_ok_iff.2 hlength, rfl⟩

theorem readOrZero_eq_ok_iff {t : Text} {n : Nat} :
    readOrZero t = .ok n ↔ t.length ≤ Fault.digitLimit ∧ n = value t := by
  unfold readOrZero
  split
  · next h =>
    subst h
    simp [value, eq_comm]
  · exact read_eq_ok_iff

theorem write_failsWith (i : Int) : FailsWith (· = .invalid .numberTooLong) (write i) := by
  unfold write
  split
  · exact .ok _
  · exact .error rfl

end Numeral

end Numerus
