import Numerus.Operands.Basic

/-!
Conditions of plural categories.

A condition is a boolean expression over plural operands. Its atoms are relations: an operand,
perhaps reduced by a modulus, is or is not in a list of ranges. The types admit only relations
that make sense; `Range.of` and `Relation.of` build them from data that may not.
-/

namespace Numerus

/-- A range of whole numbers with both ends. -/
structure Range where
  low : Nat
  high : Nat
  low_le_high : low ≤ high := by omega

instance : DecidableEq Range := fun r s =>
  decidable_of_iff (r.low = s.low ∧ r.high = s.high) (by cases r; cases s; simp)

namespace Range

/-- The range of one number. -/
def single (n : Nat) : Range := ⟨n, n, Nat.le_refl n⟩

/-- Whether the range holds one number only. -/
def isSingle (r : Range) : Bool := r.low == r.high

/-- The range between two bounds, if they are in order and not negative. -/
def of (low high : Int) : Except Failure Range :=
  if low < 0 then do
    let low ← Numeral.write low
    throw (.invalid (.negativeLow low))
  else if h : low ≤ high then
    .ok { low := low.toNat, high := high.toNat, low_le_high := Int.toNat_le_toNat h }
  else do
    let high ← Numeral.write high
    let low ← Numeral.write low
    throw (.invalid (.reversedRange low high))

theorem of_eq_ok {low high : Nat} (h : low ≤ high) : of low high = .ok ⟨low, high, h⟩ := by
  have negative : ¬ (low : Int) < 0 := by omega
  have ordered : (low : Int) ≤ high := by omega
  simp [of, negative, ordered]

end Range

/-- A modulus: a positive whole number. -/
abbrev Modulus := { m : Nat // 0 < m }

/-- What a relation asks, up to the ranges. -/
structure Subject where
  operand : Operand
  /-- The operand is reduced by the modulus first. -/
  modulus : Option Modulus := none
  /-- The relation holds outside the ranges, and not inside. -/
  negated : Bool := false
  /-- Numbers with a fraction may lie in a range too, and not only whole numbers. -/
  within : Bool := false
  deriving DecidableEq

/-- The test whether an operand is in one of some ranges, of which there is at least one. -/
structure Relation extends Subject where
  ranges : List Range
  ranges_ne_nil : ranges ≠ [] := by simp
  deriving DecidableEq

namespace Relation

/-- The operand with the given symbol. -/
def operandOf (symbol : Text) : Except Failure Operand :=
  match Operand.ofSymbol? symbol with
  | some x => .ok x
  | none => .error (.invalid (.unknownOperand symbol.quoted))

/-- The modulus of the given value. -/
def modulusOf (m : Int) : Except Failure Modulus :=
  if h : 0 < m then .ok ⟨m.toNat, Int.pos_iff_toNat_pos.1 h⟩
  else do
    let m ← Numeral.write m
    throw (.invalid (.modulusNotPositive m))

/-- The relation with the given parts: the operand is looked at first, then the modulus, then the
ranges. -/
def of (operand : Text) (modulus : Option Int) (negated within : Bool) (ranges : List Range) :
    Except Failure Relation := do
  let operand ← operandOf operand
  let modulus ← modulus.mapM modulusOf
  if h : ranges = [] then throw (.invalid .noRanges)
  else return { operand, modulus, negated, within, ranges, ranges_ne_nil := h }

end Relation

/-- A condition. -/
inductive Condition where
  | relation (r : Relation)
  | and (left right : Condition)
  | or (left right : Condition)
  | literal (value : Bool)
  deriving DecidableEq

/-- The condition of a category without rule text. -/
def Condition.always : Condition := .literal true

end Numerus
