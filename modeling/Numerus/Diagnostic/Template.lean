import Numerus.Datum.Shown
import Numerus.Diagnostic.Complaint

/-!
Diagnostics made by hand: from the name of a template and arguments of any kind.

There is a template for each code. It takes the parts of the complaint with that code, in their
order. What is only named in the message may be a datum of any kind and is written as text. A
fragment of a rule text must have a length and its position must be an integer. A rule text or a
locale that is absent is left out of the diagnostic.
-/

namespace Numerus

namespace Code

/-- The name of the template for diagnostics with a code. -/
def template : Code → Text
  | unexpectedToken => "unexpected_token"
  | unexpectedEnd => "unexpected_end"
  | unknownOperand => "unknown_operand"
  | unknownOperator => "unknown_operator"
  | invalidRange => "invalid_range"
  | invalidModulus => "invalid_modulus"
  | parenthesesUnsupported => "parentheses_unsupported"
  | ruleTooLong => "rule_too_long"
  | unknownCategory => "unknown_category"
  | duplicateCategory => "duplicate_category"
  | conditionalOther => "conditional_other"
  | unknownPluralRules => "unknown_plural_rules"
  | invalidNumber => "invalid_number"
  | invalidPrecision => "invalid_precision"
  | invalidLocale => "invalid_locale"
  | missingSection => "data_missing_section"
  | invalidEntry => "data_invalid_entry"
  | duplicateLocale => "data_duplicate_locale"

/-- The code whose template has the given name. -/
def ofTemplate? (name : Text) : Option Code := all.find? (·.template = name)

end Code

namespace Datum

/-- The text of a part that may be absent. -/
def stated : Datum → Except Failure (Option Text)
  | absent => .ok none
  | d => some <$> d.written

/-- The number of characters, bytes, items or entries. -/
def length : Datum → Except Failure Nat
  | text value => .ok value.length
  | brokenText points => .ok points.length
  | bytes value => .ok value.length
  | sequence items => .ok items.length
  | mapping entries => .ok entries.length
  | _ => .error .wrongKind

/-- The offset that a datum gives. -/
def offset : Datum → Except Failure Int
  | integer i => .ok i
  | truth b => .ok b.toNat
  | _ => .error .wrongKind

/-- Whether a datum counts as nothing: it is absent, false, zero or without parts. -/
def isVoid : Datum → Bool
  | absent => true
  | text value => value.isEmpty
  | bytes value => value.isEmpty
  | sequence items => items.isEmpty
  | mapping entries => entries.isEmpty
  | d => d.magnitude? == some (.finite (Decimal.ofNat 0))

end Datum

namespace Diagnostic

/-- The diagnostic on a fragment of a rule text. -/
def onFragment (ruleText fragment position : Datum) (complaint : Text → Text → Int → Complaint) :
    Except Failure Diagnostic := do
  let shown ← fragment.written
  let length ← fragment.length
  let start ← position.offset
  let span ← spanOf start (start + length)
  let source ← ruleText.stated
  let d ← (complaint (source.getD []) shown start).diagnostic
  return { d with span := some span, source }

/-- The diagnostic on the end of a rule text. -/
def onEnd (ruleText position expected : Datum) : Except Failure Diagnostic := do
  let expected ← expected.written
  let start ← position.offset
  let source ← ruleText.stated
  let d ← (Complaint.unexpectedEnd (source.getD []) start expected).diagnostic
  return { d with source }

/-- The diagnostic on a character of a rule text. -/
def onCharacter (ruleText position : Datum) (complaint : Text → Int → Complaint) :
    Except Failure Diagnostic := do
  let some source := ruleText.text? | throw .wrongKind
  let start ← position.offset
  (complaint source start).diagnostic

/-- The diagnostic on a locale. -/
def onLocale (localeCode : Datum) (complaint : Text → Complaint) : Except Failure Diagnostic := do
  let shown ← localeCode.written
  let stated ← localeCode.stated
  let d ← (complaint shown).diagnostic
  return { d with localeCode := stated }

/-- The diagnostic that the template for a code makes of arguments. -/
def ofArguments : Code → List Datum → Except Failure Diagnostic
  | .unexpectedToken, [ruleText, fragment, position, expected] => do
    let expected ← expected.written
    onFragment ruleText fragment position (.unexpectedToken · · · expected)
  | .unexpectedEnd, [ruleText, position, expected] => onEnd ruleText position expected
  | .unknownOperand, [ruleText, fragment, position] =>
    onFragment ruleText fragment position .unknownOperand
  | .unknownOperator, [ruleText, fragment, position] =>
    onFragment ruleText fragment position .unknownOperator
  | .invalidRange, [ruleText, fragment, position] =>
    onFragment ruleText fragment position .invalidRange
  | .invalidModulus, [ruleText, fragment, position] =>
    onFragment ruleText fragment position .invalidModulus
  | .parenthesesUnsupported, [ruleText, position] =>
    onCharacter ruleText position .parenthesesUnsupported
  | .ruleTooLong, [length, limit] => do
    let length ← length.written
    let limit ← limit.written
    (Complaint.ruleTooLong length limit).diagnostic
  | .unknownCategory, [localeCode, category] => do
    let category ← category.written
    onLocale localeCode (.unknownCategory · category)
  | .duplicateCategory, [localeCode, category] => do
    let category ← category.written
    onLocale localeCode (.duplicateCategory · category)
  | .conditionalOther, [localeCode, ruleText] => do
    let shown ← ruleText.written
    let source ← ruleText.stated
    let d ← onLocale localeCode (.conditionalOther · shown)
    return { d with source }
  | .unknownPluralRules, [localeCode, language, family] => do
    let language ← if language.isVoid then pure [] else language.written
    let family ← family.written
    onLocale localeCode (.unknownPluralRules · language family)
  | .invalidNumber, [value, reason] => do
    let value ← value.shown
    let reason ← reason.written
    (Complaint.invalidNumber value reason).diagnostic
  | .invalidPrecision, [value] => do
    let value ← value.shown
    (Complaint.invalidPrecision value).diagnostic
  | .invalidLocale, [localeCode, reason] => do
    let reason ← reason.written
    onLocale localeCode (.invalidLocale · reason)
  | .missingSection, [name] => do
    let name ← name.written
    (Complaint.missingSection name).diagnostic
  | .invalidEntry, [localeCode, key] => do
    let key ← key.written
    onLocale localeCode (.invalidEntry · key)
  | .duplicateLocale, [localeCode, firstKey, secondKey] => do
    let firstKey ← firstKey.written
    let secondKey ← secondKey.written
    onLocale localeCode (.duplicateLocale · firstKey secondKey)
  | _, _ => .error .wrongKind

/-- The diagnostic that the template with the given name makes of arguments. -/
def ofTemplate (name : Text) (arguments : List Datum) : Except Failure Diagnostic :=
  match Code.ofTemplate? name with
  | some code => ofArguments code arguments
  | none => .error .unknownTemplate

end Diagnostic

end Numerus
