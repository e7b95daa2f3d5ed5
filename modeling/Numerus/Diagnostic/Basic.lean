import Numerus.Numeral.Basic

/-!
Diagnostics: what went wrong, where, and what to do about it.

A diagnostic carries a code from a closed list, a message, and, where they apply, the place in a
rule text, the rule text itself, a hint, a page to read and the locale concerned.
-/

namespace Numerus

/-- The kinds of fault. Codes from 1000 on concern rule texts and rule data, codes from 2000 on
locales without rules, codes from 3000 on arguments, codes from 4000 on documents. -/
inductive Code where
  | unexpectedToken
  | unexpectedEnd
  | unknownOperand
  | unknownOperator
  | invalidRange
  | invalidModulus
  | parenthesesUnsupported
  | ruleTooLong
  | unknownCategory
  | duplicateCategory
  | conditionalOther
  | unknownPluralRules
  | invalidNumber
  | invalidPrecision
  | invalidLocale
  | missingSection
  | invalidEntry
  | duplicateLocale
  deriving DecidableEq

namespace Code

/-- All codes, in ascending order of their numbers. -/
def all : List Code :=
  [.unexpectedToken, .unexpectedEnd, .unknownOperand, .unknownOperator, .invalidRange,
   .invalidModulus, .parenthesesUnsupported, .ruleTooLong, .unknownCategory, .duplicateCategory,
   .conditionalOther, .unknownPluralRules, .invalidNumber, .invalidPrecision, .invalidLocale,
   .missingSection, .invalidEntry, .duplicateLocale]

/-- The name under which a code is reported. -/
def name : Code → Text
  | unexpectedToken => "GRAMMAR_UNEXPECTED_TOKEN"
  | unexpectedEnd => "GRAMMAR_UNEXPECTED_END"
  | unknownOperand => "GRAMMAR_UNKNOWN_OPERAND"
  | unknownOperator => "GRAMMAR_UNKNOWN_OPERATOR"
  | invalidRange => "GRAMMAR_INVALID_RANGE"
  | invalidModulus => "GRAMMAR_INVALID_MODULUS"
  | parenthesesUnsupported => "GRAMMAR_PARENTHESES_UNSUPPORTED"
  | ruleTooLong => "GRAMMAR_RULE_TOO_LONG"
  | unknownCategory => "GRAMMAR_UNKNOWN_CATEGORY"
  | duplicateCategory => "GRAMMAR_DUPLICATE_CATEGORY"
  | conditionalOther => "GRAMMAR_CONDITIONAL_OTHER"
  | unknownPluralRules => "UNKNOWN_PLURAL_RULES"
  | invalidNumber => "INVALID_NUMBER"
  | invalidPrecision => "INVALID_PRECISION"
  | invalidLocale => "INVALID_LOCALE"
  | missingSection => "DATA_MISSING_SECTION"
  | invalidEntry => "DATA_INVALID_ENTRY"
  | duplicateLocale => "DATA_DUPLICATE_LOCALE"

/-- The number of a code. -/
def number : Code → Nat
  | unexpectedToken => 1001
  | unexpectedEnd => 1002
  | unknownOperand => 1003
  | unknownOperator => 1004
  | invalidRange => 1005
  | invalidModulus => 1006
  | parenthesesUnsupported => 1007
  | ruleTooLong => 1008
  | unknownCategory => 1101
  | duplicateCategory => 1102
  | conditionalOther => 1103
  | unknownPluralRules => 2001
  | invalidNumber => 3001
  | invalidPrecision => 3002
  | invalidLocale => 3003
  | missingSection => 4001
  | invalidEntry => 4002
  | duplicateLocale => 4003

/-- The code with the given name. -/
def ofName? (name : Text) : Option Code := all.find? (·.name = name)

end Code

/-- A part of a rule text, from offset `start` up to, and without, offset `stop`. -/
structure Span where
  start : Nat
  stop : Nat
  start_le_stop : start ≤ stop := by omega
  deriving DecidableEq

namespace Span

/-- Why two offsets bound no part of a text. -/
inductive Fault where
  | negativeStart (start : Int)
  | reversed (start stop : Int)
  deriving DecidableEq

/-- The wording of a fault. -/
def Fault.message : Fault → Text
  | negativeStart start => "SourceSpan.start must be >= 0, got " ++ Numeral.ofInt start
  | reversed start stop =>
    "SourceSpan.end (" ++ Numeral.ofInt stop ++ ") must be >= start (" ++ Numeral.ofInt start ++ ")"

/-- The span between two offsets, if they are in order and not negative. -/
def ofBounds (start stop : Int) : Except Fault Span :=
  if start < 0 then .error (.negativeStart start)
  else if h : start ≤ stop then
    .ok { start := start.toNat, stop := stop.toNat, start_le_stop := Int.toNat_le_toNat h }
  else .error (.reversed start stop)

/-- The column of the first character, counted from one. -/
def column (s : Span) : Nat := s.start + 1

/-- The number of characters covered. -/
def width (s : Span) : Nat := s.stop - s.start

/-- Offsets that are in order and not negative bound a span, and it has those offsets. -/
theorem ofBounds_eq_ok {start stop : Nat} (h : start ≤ stop) :
    ofBounds start stop = .ok ⟨start, stop, h⟩ := by
  have h₁ : ¬ (start : Int) < 0 := by omega
  have h₂ : (start : Int) ≤ stop := by omega
  simp [ofBounds, h₁, h₂]

end Span

/-- What went wrong, where, and what to do about it. -/
structure Diagnostic where
  code : Code
  message : Text
  /-- The part of `source` at fault. -/
  span : Option Span := none
  /-- The rule text concerned. -/
  source : Option Text := none
  hint : Option Text := none
  /-- The page that explains the rule broken. -/
  helpUrl : Option Text := none
  localeCode : Option Text := none
  /-- The word that opens the report: anything but a warning is reported as an error. -/
  severity : Option Text := some "error"
  deriving DecidableEq

end Numerus
