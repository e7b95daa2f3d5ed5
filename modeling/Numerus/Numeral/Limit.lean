import Numerus.Failure.Basic

/-!
Numerals within the limit on digits: neither is a numeral of more than 4300 digits read, nor a
number that needs one written. Leading zeros count, a sign does not.
-/

namespace Numerus.Numeral

/-- The least number that is too large for a machine's integer. -/
def machineBound : Nat := 9223372036854775808

/-- Fails for a number of characters that is too large for a machine's integer, or for which there
is no room in memory. -/
def checkCapacity (length : Nat) (memory : Nat := Text.capacity) : Except Failure Unit :=
  if machineBound ≤ length then .error .overflow
  else if memory < length then .error .outOfMemory
  else .ok ()

/-- Fails for a number of digits beyond the limit. -/
def checkLength (digits : Nat) : Except Failure Unit :=
  if digits ≤ Fault.digitLimit then .ok () else .error (.invalid (.numeralTooLong digits))

/-- Reads the ASCII digits of `t`, if they are not too many. -/
def read (t : Text) : Except Failure Nat := do
  checkLength t.length
  return value t

/-- Reads the ASCII digits of `t`, if they are not too many; none stand for zero. -/
def readOrZero (t : Text) : Except Failure Nat := if t = [] then .ok 0 else read t

/-- Whether the number needs no more digits than may be written. -/
def isWritable (i : Int) : Bool := i.natAbs < powerOfTen Fault.digitLimit

/-- Writes a number, if its digits are not too many. -/
def write (i : Int) : Except Failure Text :=
  if isWritable i then .ok (ofInt i) else .error (.invalid .numberTooLong)

theorem read_eq_ok {t : Text} (h : t.length ≤ Fault.digitLimit) : read t = .ok (value t) := by
  simp [read, checkLength, h, bind, Except.bind, pure, Except.pure]

theorem isWritable_iff_lt {n : Nat} : isWritable n = true ↔ n < powerOfTen Fault.digitLimit := by
  simp [isWritable]

theorem isWritable_iff {n : Nat} : isWritable n = true ↔ length n ≤ Fault.digitLimit := by
  rw [isWritable_iff_lt, length_le_iff (by decide)]

/-- Small numbers have few digits. -/
theorem isWritable_of_le {n : Nat} (h : n ≤ Fault.digitLimit) : isWritable n = true :=
  isWritable_iff_lt.2 (Nat.lt_of_lt_of_le (lt_powerOfTen n) (powerOfTen_le h))

theorem write_eq_ok {i : Int} (h : isWritable i = true) : write i = .ok (ofInt i) := by
  simp [write, h]

end Numerus.Numeral
