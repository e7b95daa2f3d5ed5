import Numerus.Datum.Shown
import Numerus.Decimal.Reader
import Numerus.Decimal.Rounding
import Numerus.Diagnostic.Complaint
import Numerus.Operands.Basic

/-!
The plural operands of any datum that is a number.

Integers and decimal numbers carry their digits with them. A text is read as a decimal number. A
binary number has no visible digits of its own: its shortest decimal form is rounded to the number
of fraction digits asked for. The sign is ignored everywhere.
-/

namespace Numerus

namespace Datum

/-- A number of fraction digits: an integer that is not negative. -/
def precision? : Datum → Option Nat
  | integer (.ofNat p) => some p
  | _ => none

/-- The fraction digits kept of binary numbers unless told otherwise. -/
def defaultPrecision : Datum := integer 3

end Datum

namespace Operands

section OnMachine

variable (machine : Machine)

/-- Refuses a datum as a number. -/
def refuse {α : Type} (number : Datum) (reason : Text) : Except Failure α := do
  let shown ← number.shown machine
  (Complaint.invalidNumber shown reason).raise (.argument · "number")

/-- Refuses a datum as a number of fraction digits. -/
def refusePrecision {α : Type} (precision : Datum) : Except Failure α := do
  let shown ← precision.shown machine
  (Complaint.invalidPrecision shown).raise (.argument · "precision")

/-- The operands of a decimal number without its sign, if it is finite; `number` is the datum
that it comes from. -/
def ofExtended (number : Datum) : ExtendedDecimal → Except Failure Operands
  | .finite d => ofDecimal machine d.abs
  | _ => refuse machine number "value is not finite"

/-- The operands of a number with `places` fraction digits for binary numbers. -/
def ofDatum (number : Datum) (places : Nat) : Except Failure Operands :=
  match number with
  | .truth _ => refuse machine number "booleans are not numbers"
  | .integer i => .ok (ofNat i.natAbs)
  | .binary (.finite _ significand exponent) => do
    let d ← (Binary64.shortest false significand exponent).rounded places
    ofDecimal machine d
  | .binary _ => refuse machine number "value is not finite"
  | .decimal d => ofExtended machine number d
  | .text t =>
    match ExtendedDecimal.read? t with
    | some d => ofExtended machine number d
    | none => refuse machine number "not a decimal number"
  | .brokenText _ => refuse machine number "not a decimal number"
  | _ => refuse machine number ("unsupported type " ++ number.kind)

end OnMachine

/-- The operands of a number, with the number of fraction digits kept of binary numbers given as a
datum. That datum is looked at first. -/
def of (number : Datum) (precision : Datum := Datum.defaultPrecision)
    (machine : Machine := .usual) : Except Failure Operands :=
  match precision.precision? with
  | some places => ofDatum machine number places
  | none => refusePrecision machine precision

end Operands

end Numerus
