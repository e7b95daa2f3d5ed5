import Numerus.DefaultRules.Cardinal
import Numerus.DefaultRules.Ordinal
import Numerus.DefaultRules.Sparse
import Numerus.Selection
import Numerus.Vocabulary

/-!
The default rules of both families, and selection by them.
-/

namespace Numerus.DefaultRules

/-- The groups of locales of a family. -/
def groups : Family → List Group
  | .cardinal => cardinalGroups
  | .ordinal => ordinalGroups

/-- The locales of a family with their rules, in no particular order. -/
def table (family : Family) : FullTable :=
  (groups family).flatMap fun g => g.entries.map fun entry => (entry.1, some entry.2)

/-- The default rules for counting. -/
def cardinalSection : Section := (table .cardinal).sparse

/-- The default rules for ranking. -/
def ordinalSection : Section := (table .ordinal).sparse

/-- The default rules of a family. -/
def ofFamily : Family → Section
  | .cardinal => cardinalSection
  | .ordinal => ordinalSection

/-- The catalog of a section. -/
def catalogOf (family : Family) (locales : Section) : Except Failure Catalog :=
  Catalog.build family (locales.map fun locale => (locale.1, .pairs locale.2))

/-- The catalog of the default rules for counting. -/
def cardinalCatalog : Except Failure Catalog := catalogOf .cardinal cardinalSection

/-- The catalog of the default rules for ranking. -/
def ordinalCatalog : Except Failure Catalog := catalogOf .ordinal ordinalSection

/-- The catalog of the default rules of a family. -/
def catalog : Family → Except Failure Catalog
  | .cardinal => cardinalCatalog
  | .ordinal => ordinalCatalog

/-- Selection by the default rules of the family with the given tag. -/
def selector (family : Datum) : Except Failure Selector := do
  let family ← Family.ofDatum family
  let catalog ← catalog family
  return { catalog }

variable (library : TagLibrary)

/-- The category of a number in a locale by the default rules. -/
def resolve (number locale : Datum) (precision : Datum := Datum.defaultPrecision)
    (family : Datum := .text Family.cardinal.tag) : Except Failure Category := do
  let selector ← selector family
  selector.select library number locale precision

/-- What `substitutions` give for the category of a number in a locale by the default rules. -/
def pluralize {V : Type} (number locale : Datum) (substitutions : List (Text × V))
    (precision : Datum := Datum.defaultPrecision)
    (family : Datum := .text Family.cardinal.tag) : Except Failure (Option V) := do
  let selector ← selector family
  selector.pluralize library number locale substitutions precision

/-- The names of the locales with default rules of a family, in the order of their code points. -/
def knownNames (family : Datum := .text Family.cardinal.tag) : Except Failure (List Text) := do
  let selector ← selector family
  return selector.catalog.sortedNames

end Numerus.DefaultRules
