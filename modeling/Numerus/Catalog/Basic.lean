import Numerus.Catalog.RuleSet
import Numerus.Locale.Basic
import Numerus.Text.Quoted

/-!
Catalogs: the rules of many locales, of one family.

A catalog is asked by the name of a locale, with hyphens or underscores, and knows no other
fallback. The rule sets stand in the order in which they were declared.
-/

namespace Numerus

/-- The rule sets of many locales. -/
structure Catalog where
  family : Family
  ruleSets : List RuleSet
  deriving DecidableEq

namespace Catalog

/-- The rule set of the locale with the given name. -/
def lookup (c : Catalog) (name : Text) : Option RuleSet :=
  let name := Locale.underscored name
  c.ruleSets.find? (·.localeName = name)

/-- Whether the locale with the given name has rules. -/
def contains (c : Catalog) (name : Text) : Bool := (c.lookup name).isSome

/-- The number of locales. -/
def size (c : Catalog) : Nat := c.ruleSets.length

/-- The names of the locales, in the order of their declaration. -/
def names (c : Catalog) : List Text := c.ruleSets.map (·.localeName)

/-- The names of the locales, in the order of their code points. -/
def sortedNames (c : Catalog) : List Text := c.names.mergeSort Text.precedes

/-- The categories of a locale with their places. -/
def numbered (c : Catalog) (name : Text) : Option (List (Category × Nat)) :=
  (c.lookup name).map (·.numbered)

/-- The catalog in short. -/
def summary (c : Catalog) : Text :=
  "PluralRuleRegistry(family=" ++ c.family.tag.quoted ++ ", locales=" ++ Numeral.ofNat c.size
    ++ ")"

end Catalog

end Numerus
