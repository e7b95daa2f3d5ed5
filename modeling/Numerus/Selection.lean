import Numerus.Catalog.Basic
import Numerus.Locale.Tag
import Numerus.Operands.OfNumber

/-!
The plural category of a number in a locale.

The operands of the number are computed first. Then the rules of the locale are looked up under
its name, and, if there are none, under its language. The first category whose condition holds
is the answer. Tags of locales are read with a library.
-/

namespace Numerus

/-- A catalog with the number of fraction digits kept of binary numbers unless told otherwise. -/
structure Selector where
  catalog : Catalog
  precision : Datum := Datum.defaultPrecision

namespace Selector

variable (library : TagLibrary)

/-- The rules of a locale: those under its name, or else those under its language. -/
def lookup (s : Selector) (l : Locale) : Option RuleSet :=
  (s.catalog.lookup l.name).or
    (if l.language ≠ [] ∧ l.language ≠ l.name then s.catalog.lookup l.language else none)

/-- The rules of the locale that a datum stands for. -/
def rulesFor (s : Selector) (locale : Datum) : Except Failure RuleSet := do
  let l ← Locale.ofDatum library locale
  match s.lookup l with
  | some rules => return rules
  | none =>
    let family := s.catalog.family.tag
    (Complaint.unknownPluralRules l.name l.language family).raise (.unknownRules · l.name family)

/-- The number of fraction digits asked for, or that of the selector if none is. -/
def precisionOr (s : Selector) : Datum → Datum
  | .absent => s.precision
  | precision => precision

/-- The category of a number in a locale. -/
def select (s : Selector) (number locale : Datum) (precision : Datum := .absent) :
    Except Failure Category := do
  let operands ← Operands.of number (s.precisionOr precision)
  let rules ← s.rulesFor library locale
  return rules.select operands

/-- What `substitutions` give for the category of a number in a locale, or else for the category of
all other numbers. Of several entries for one category the last one counts. -/
def pluralize {V : Type} (s : Selector) (number locale : Datum) (substitutions : List (Text × V))
    (precision : Datum := .absent) : Except Failure (Option V) := do
  let category ← s.select library number locale precision
  let entries := substitutions.reverse
  return (entries.lookup category.tag).or (entries.lookup Category.other.tag)

/-- The categories of a locale with their places. -/
def numbered (s : Selector) (locale : Datum) : Except Failure (List (Category × Nat)) := do
  let rules ← s.rulesFor library locale
  return rules.numbered

end Selector

end Numerus
