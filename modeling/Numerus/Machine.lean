import Numerus.Numeral.Limit

/-!
What a machine has room for.

How many calls may be nested, and for how many characters there is memory, is told by no text of a
program. Where a computation can run out of either, it is given a machine, and what is proved of
it holds on every machine.
-/

namespace Numerus

/-- A machine. There is memory for more than the longest numeral, and what it has room for is
counted by its integers. -/
structure Machine where
  /-- How many calls may be nested. -/
  room : Nat
  /-- The most characters of a text, and the most digits of a number, for which there is memory. -/
  memory : Nat
  digitLimit_lt_memory : Fault.digitLimit < memory
  memory_lt_machineBound : memory < Numeral.machineBound

namespace Machine

/-- The machine if none is named. -/
def usual : Machine := ⟨993, Text.capacity, by decide, by decide⟩

end Machine

end Numerus
