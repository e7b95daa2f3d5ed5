/-!
Powers of ten and of two, by which numbers are shifted in decimal and in binary notation.
-/

namespace Numerus

/-- The power of ten with exponent `k`. -/
def powerOfTen (k : Nat) : Nat := Nat.pow 10 k

/-- The power of two with exponent `k`. -/
def powerOfTwo (k : Nat) : Nat := Nat.pow 2 k

theorem powerOfTen_pos (k : Nat) : 0 < powerOfTen k := Nat.pow_pos (by decide)

theorem powerOfTen_succ (k : Nat) : powerOfTen (k + 1) = powerOfTen k * 10 := rfl

theorem powerOfTen_le {k l : Nat} (h : k ≤ l) : powerOfTen k ≤ powerOfTen l :=
  Nat.pow_le_pow_right (by decide) h

theorem lt_powerOfTen (k : Nat) : k < powerOfTen k := Nat.lt_pow_self (by decide)

theorem powerOfTwo_pos (k : Nat) : 0 < powerOfTwo k := Nat.pow_pos (by decide)

end Numerus
