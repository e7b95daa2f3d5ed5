import Numerus.Text.Basic

/-!
Sets of code points beyond ASCII, kept as runs.

A property of characters holds on stretches of neighbouring code points. A set is kept as the
lengths of the stretches outside and inside it by turns, from the first code point after ASCII on.
-/

namespace Numerus

/-- A set of code points beyond ASCII: the lengths of the runs outside and inside the set by turns,
starting with a run outside it at U+0080. -/
structure CodeSet where
  runs : List Nat

namespace CodeSet

/-- Whether the code point `offset` steps after the start of the first run lies in a run that is
inside the set; `inside` says so of the first run. -/
def covers (inside : Bool) : List Nat → Nat → Bool
  | [], _ => false
  | run :: runs, offset => if offset < run then inside else covers (!inside) runs (offset - run)

/-- Whether `c` belongs to the set. -/
def contains (s : CodeSet) (c : Char) : Bool :=
  0x80 ≤ c.toNat && covers false s.runs (c.toNat - 0x80)

end CodeSet

end Numerus
