import Numerus.Failure.Basic

/-!
Complaints: the faults that the library reports, with what is needed to tell them.

A complaint is turned into a diagnostic with its code, its wording, the part of the rule text at
fault, a hint and a page to read. The parts of rule texts are given by offsets; complaints that
are made by hand may give offsets that bound no part, and then there is no diagnostic.
-/

namespace Numerus

/-- A fault to be reported. -/
inductive Complaint where
  /-- A token stands where the grammar wants something else. -/
  | unexpectedToken (ruleText fragment : Text) (position : Int) (expected : Text)
  /-- A rule text ends where the grammar wants more. -/
  | unexpectedEnd (ruleText : Text) (position : Int) (expected : Text)
  | unknownOperand (ruleText fragment : Text) (position : Int)
  | unknownOperator (ruleText fragment : Text) (position : Int)
  /-- A bound of a range is missing, or its bounds are in the wrong order. -/
  | invalidRange (ruleText fragment : Text) (position : Int)
  /-- A modulus is zero. -/
  | invalidModulus (ruleText fragment : Text) (position : Int)
  | parenthesesUnsupported (ruleText : Text) (position : Int)
  /-- A rule text has more characters than the limit; both numbers are given as they are written. -/
  | ruleTooLong (length limit : Text)
  | unknownCategory (localeCode category : Text)
  | duplicateCategory (localeCode category : Text)
  /-- The category for all other numbers has a condition. -/
  | conditionalOther (localeCode ruleText : Text)
  | unknownPluralRules (localeCode language family : Text)
  /-- What was given for a number, as messages show it, is none. -/
  | invalidNumber (value reason : Text)
  /-- What was given for a number of places, as messages show it, is none. -/
  | invalidPrecision (value : Text)
  | invalidLocale (localeCode reason : Text)
  | missingSection (name : Text)
  | invalidEntry (localeCode key : Text)
  /-- Two keys of the data name one locale. -/
  | duplicateLocale (localeCode firstKey secondKey : Text)

/-- The page on plural categories. -/
def categoriesPage : Text :=
  "https://www.unicode.org/cldr/charts/47/supplemental/language_plural_rules.html"

/-- The page on the grammar of rules. -/
def grammarPage : Text :=
  "https://unicode.org/reports/tr35/tr35-numbers.html#Plural_rules_syntax"

namespace Diagnostic

/-- The span between two offsets. -/
def spanOf (start stop : Int) : Except Failure Span :=
  (Span.ofBounds start stop).mapError fun fault => .invalid (.span fault)

/-- A diagnostic on a part of a rule text. -/
def ofRule (code : Code) (message ruleText : Text) (position : Int) (length : Nat)
    (hint : Option Text) : Except Failure Diagnostic := do
  let span ← spanOf position (position + length)
  return { code, message, hint, span := some span, source := some ruleText,
           helpUrl := some grammarPage }

end Diagnostic

namespace Complaint

open Diagnostic (ofRule)

/-- What a rule may be written with instead of an operator unknown to the grammar. -/
def operatorsHint : Text :=
  "Relations use '=', '!=', 'is', 'is not', 'in', 'not in' or 'within'"

/-- What to do about parentheses. -/
def groupingHint : Text :=
  "'and' binds tighter than 'or'; rewrite the rule without grouping"

/-- The wording for a locale without rules: the language is named if it was tried too. -/
def unknownRulesMessage (localeCode language family : Text) : Text :=
  let opening := "No " ++ family ++ " plural rules available for '" ++ localeCode ++ "'"
  if language ≠ [] ∧ language ≠ localeCode then opening ++ " or '" ++ language ++ "'" else opening

/-- The diagnostic that tells the fault. -/
def diagnostic : Complaint → Except Failure Diagnostic
  | unexpectedToken ruleText fragment position expected =>
    ofRule .unexpectedToken ("Unexpected '" ++ fragment ++ "', expected " ++ expected)
      ruleText position fragment.length none
  | unexpectedEnd ruleText position expected =>
    ofRule .unexpectedEnd ("Unexpected end of rule, expected " ++ expected)
      ruleText position 0 none
  | unknownOperand ruleText fragment position =>
    ofRule .unknownOperand ("Unknown operand '" ++ fragment ++ "'")
      ruleText position fragment.length (some "Operands are n, i, v, w, f, t, c and e")
  | unknownOperator ruleText fragment position =>
    ofRule .unknownOperator ("Unknown operator '" ++ fragment ++ "'")
      ruleText position fragment.length (some operatorsHint)
  | invalidRange ruleText fragment position =>
    ofRule .invalidRange ("Invalid range '" ++ fragment ++ "'")
      ruleText position fragment.length (some "Ranges are written low..high with low <= high")
  | invalidModulus ruleText fragment position =>
    ofRule .invalidModulus ("Invalid modulus '" ++ fragment ++ "'")
      ruleText position fragment.length (some "The modulus must be a positive integer")
  | parenthesesUnsupported ruleText position =>
    match Text.at? ruleText position with
    | none => .error .outOfBounds
    | some c =>
      ofRule .parenthesesUnsupported
        ("Parentheses are not part of the plural rule grammar: '" ++ c :: ['\''])
        ruleText position 1 (some groupingHint)
  | ruleTooLong length limit =>
    .ok { code := .ruleTooLong
          message := "Rule text is " ++ length ++ " characters long (limit: " ++ limit ++ ")"
          hint := some "Check that the rule data is CLDR plural rule data" }
  | unknownCategory localeCode category =>
    .ok { code := .unknownCategory
          message := "Unknown plural category '" ++ category ++ "' for locale '" ++ localeCode
            ++ "'"
          hint := some "Categories are zero, one, two, few, many and other"
          localeCode := some localeCode
          helpUrl := some categoriesPage }
  | duplicateCategory localeCode category =>
    .ok { code := .duplicateCategory
          message := "Plural category '" ++ category ++ "' declared twice for locale '"
            ++ localeCode ++ "'"
          localeCode := some localeCode
          helpUrl := some categoriesPage }
  | conditionalOther localeCode ruleText =>
    .ok { code := .conditionalOther
          message := "Plural category 'other' for locale '" ++ localeCode
            ++ "' has a condition: '" ++ ruleText ++ "'"
          source := some ruleText
          hint := some "'other' is the unconditional default and must have empty rule text"
          localeCode := some localeCode
          helpUrl := some categoriesPage }
  | unknownPluralRules localeCode language family =>
    .ok { code := .unknownPluralRules
          message := unknownRulesMessage localeCode language family
          hint := some
            "Use a locale listed by known_locale_names() or fall back to a default locale"
          localeCode := some localeCode
          helpUrl := some categoriesPage }
  | invalidNumber value reason =>
    .ok { code := .invalidNumber
          message := "Cannot compute plural operands for " ++ value ++ ": " ++ reason
          hint := some "Pass an int, a finite float, a finite Decimal or a numeric string" }
  | invalidPrecision value =>
    .ok { code := .invalidPrecision
          message := "Precision must be a non-negative integer, got " ++ value }
  | invalidLocale localeCode reason =>
    .ok { code := .invalidLocale
          message := "Invalid locale identifier '" ++ localeCode ++ "': " ++ reason
          hint := some
            "Use a BCP-47 or POSIX locale code such as 'en', 'pt-PT' or 'sr_Latn_BA'"
          localeCode := some localeCode }
  | missingSection name =>
    .ok { code := .missingSection
          message := "CLDR plural document has no '" ++ name ++ "' section"
          hint := some
            "Expected cldr-json supplemental/plurals.json or supplemental/ordinals.json" }
  | invalidEntry localeCode key =>
    .ok { code := .invalidEntry
          message := "Invalid plural rule entry '" ++ key ++ "' for locale '" ++ localeCode ++ "'"
          hint := some "Entries are 'pluralRule-count-<category>': '<rule text>'"
          localeCode := some localeCode }
  | duplicateLocale localeCode firstKey secondKey =>
    .ok { code := .duplicateLocale
          message := "Locale keys '" ++ firstKey ++ "' and '" ++ secondKey
            ++ "' both name locale '" ++ localeCode ++ "'"
          hint := some "Keep one entry per locale; '-' and '_' are the same separator"
          localeCode := some localeCode }

/-- Ends an operation with the complaint, told by `kind`; if there is no diagnostic, with the
failure to make one. -/
def raise {α : Type} (c : Complaint) (kind : Notice → Failure) : Except Failure α := do
  let diagnostic ← c.diagnostic
  throw (kind (.diagnosed diagnostic))

end Complaint

end Numerus
