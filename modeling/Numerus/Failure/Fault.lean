import Numerus.Diagnostic.Basic

/-!
Values that no type of the library admits, by the rule they break.
-/

namespace Numerus

/-- Why a value is refused. Numbers and texts are carried as the message shows them. -/
inductive Fault where
  /-- A numeral read has more digits than may be read. -/
  | numeralTooLong (digits : Nat)
  /-- A number to be written has more digits than may be written. -/
  | numberTooLong
  | span (fault : Span.Fault)
  | negativeLow (low : Text)
  | reversedRange (low high : Text)
  | unknownOperand (operand : Text)
  | modulusNotPositive (modulus : Text)
  | noRanges
  /-- The condition that never holds has no rule text. -/
  | unwritableFalse
  /-- A disjunction under a conjunction has no rule text. -/
  | unwritableGrouping
  /-- A tag names no member of a closed vocabulary. -/
  | notAMember (tag vocabulary : Text)
  /-- More working digits are asked for than arithmetic admits. -/
  | workingDigits
  deriving DecidableEq

namespace Fault

/-- The most digits that a numeral may have. -/
def digitLimit : Nat := 4300

/-- The wording of the limit on digits, with `detail` on the numeral at hand. -/
def digitLimitMessage (detail : Text) : Text :=
  "Exceeds the limit (" ++ Numeral.ofNat digitLimit
    ++ " digits) for integer string conversion" ++ detail
    ++ "; use sys.set_int_max_str_digits() to increase the limit"

/-- The wording of a fault. -/
def message : Fault → Text
  | numeralTooLong digits =>
    digitLimitMessage (": value has " ++ Numeral.ofNat digits ++ " digits")
  | numberTooLong => digitLimitMessage []
  | span fault => fault.message
  | negativeLow low => "Range.low must be >= 0, got " ++ low
  | reversedRange low high => "Range.high (" ++ high ++ ") must be >= low (" ++ low ++ ")"
  | unknownOperand operand =>
    "Relation.operand must be one of ['c', 'e', 'f', 'i', 'n', 't', 'v', 'w'], got " ++ operand
  | modulusNotPositive modulus => "Relation.modulus must be > 0, got " ++ modulus
  | noRanges => "Relation.ranges must not be empty"
  | unwritableFalse => "Literal(False) has no rule text representation"
  | unwritableGrouping => "Or nested inside And cannot be written without parentheses"
  | notAMember tag vocabulary => tag ++ " is not a valid " ++ vocabulary
  | workingDigits => "valid range for prec is [1, MAX_PREC]"

end Fault

end Numerus
