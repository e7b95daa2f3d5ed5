import Numerus.Decimal.Basic
import Numerus.Machine
import Numerus.Text.Quoted

/-!
Plural operands: what rules can ask about a number.

The visible digits after the point make 1, 1.0 and 1.00 different numbers to plural rules, so the
operands tell the number of these digits and their value, with and without closing zeros. The
operands of a number are not negative; operands made by hand may be.
-/

namespace Numerus

/-- The symbols by which rules name operands. -/
inductive Operand where
  /-- The number without its sign. -/
  | n
  /-- Its integer part. -/
  | i
  /-- The number of its visible fraction digits. -/
  | v
  /-- The number of its visible fraction digits without closing zeros. -/
  | w
  /-- The visible fraction digits as a number. -/
  | f
  /-- The visible fraction digits without closing zeros as a number. -/
  | t
  /-- The exponent of a compact notation. -/
  | c
  /-- The older name of `c`. -/
  | e
  deriving DecidableEq

namespace Operand

/-- All operands. -/
def all : List Operand := [n, i, v, w, f, t, c, e]

/-- The symbol of an operand. -/
def symbol : Operand → Text
  | n => ['n']
  | i => ['i']
  | v => ['v']
  | w => ['w']
  | f => ['f']
  | t => ['t']
  | c => ['c']
  | e => ['e']

/-- The operand with the given symbol. -/
def ofSymbol? (symbol : Text) : Option Operand := all.find? (·.symbol = symbol)

@[simp] theorem ofSymbol?_symbol (x : Operand) : ofSymbol? x.symbol = some x := by
  cases x <;> rfl

theorem symbol_of_ofSymbol? {symbol : Text} {x : Operand} (h : ofSymbol? symbol = some x) :
    x.symbol = symbol := by
  have := List.find?_some h
  simpa using this

end Operand

/-- The plural operands of a number. -/
structure Operands where
  n : Decimal
  i : Int
  v : Int
  w : Int
  f : Int
  t : Int
  e : Int := 0
  deriving DecidableEq

namespace Operands

/-- The operand `n` of a number is a decimal number; the others are whole numbers. -/
inductive Value where
  | decimal (value : Decimal)
  | whole (value : Int)
  deriving DecidableEq

/-- The value of an operand. -/
def value (o : Operands) : Operand → Value
  | .n => .decimal o.n
  | .i => .whole o.i
  | .v => .whole o.v
  | .w => .whole o.w
  | .f => .whole o.f
  | .t => .whole o.t
  | .c | .e => .whole o.e

/-- The value of the operand with the given symbol. -/
def valueOf (o : Operands) (symbol : Text) : Except Failure Value :=
  match Operand.ofSymbol? symbol with
  | some x => .ok (o.value x)
  | none => .error (.unknownSymbol symbol.quoted)

/-- The operands of a whole number. -/
def ofNat (n : Nat) : Operands :=
  { n := Decimal.ofNat n, i := n, v := 0, w := 0, f := 0, t := 0 }

/-- The operands of a decimal number, read off its digits: neither those before the point nor those
after it may be too many. -/
def ofDecimal (machine : Machine) (d : Decimal) : Except Failure Operands :=
  if 0 ≤ d.exponent then do
    let whole ← Numeral.read (Numeral.ofNat d.coefficient)
    Numeral.checkCapacity d.exponent.toNat machine.memory
    return { ofNat (whole * powerOfTen d.exponent.toNat) with n := d }
  else do
    Numeral.checkCapacity (d.scale + 1) machine.memory
    let i ← Numeral.read d.wholeDigits
    let f ← Numeral.read d.fractionDigits
    let t ← Numeral.readOrZero d.significantDigits
    return { n := d, i, v := d.scale, w := d.significantDigits.length, f, t }

end Operands

end Numerus
