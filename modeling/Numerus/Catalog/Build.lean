import Numerus.Catalog.Basic
import Numerus.Entries
import Numerus.Rule.Compile

/-!
Catalogs built from rule data.

The data give each locale its categories with rule texts, as pairs or as a table. A catalog is
built if every text compiles, every category is known and declared once, the category for all
other numbers has no condition, and no two keys name one locale; any fault ends the whole build.
-/

namespace Numerus

/-- The rule texts of one locale, by the tags of their categories. In a table a tag that is given
again replaces its text. -/
inductive Declarations where
  | pairs (entries : List (Text × Text))
  | table (entries : List (Text × Text))

namespace Declarations

/-- The declarations as pairs of tags and texts. -/
def toPairs : Declarations → List (Text × Text)
  | pairs entries => entries
  | table entries => Entries.ofList (· == ·) entries

end Declarations

/-- Rule data: locale keys with the rule texts of their categories. -/
abbrev RuleData := List (Text × Declarations)

namespace RuleSet

/-- Refuses a tag of a category. -/
def refuseTag {α : Type} (c : Complaint) (tag : Text) : Except Failure α :=
  c.raise (.grammar · [] tag (-1))

/-- The condition of a category with the given rule text; a blank text sets no condition. -/
def conditionOf (text : Text) : Except Failure Condition :=
  if Text.isBlank text then .ok .always else Rule.compile text

/-- The rules read so far of a locale, with the category that `tag` and `text` declare. -/
def declare (localeName : Text) (rules : List (Category × Condition)) (entry : Text × Text) :
    Except Failure (List (Category × Condition)) := do
  let (tag, text) := entry
  match Category.ofTag? tag with
  | none => refuseTag (.unknownCategory localeName tag) tag
  | some category =>
    if category ∈ rules.map (·.1) then refuseTag (.duplicateCategory localeName tag) tag
    else
      let condition ← conditionOf text
      if category = .other ∧ condition ≠ .always then
        (Complaint.conditionalOther localeName text).raise (.grammar · text text (-1))
      else return rules ++ [(category, condition)]

/-- The rules with one for all other numbers, which is put in at the end if none is declared. -/
def withOther (rules : List (Category × Condition)) : List (Category × Condition) :=
  if .other ∈ rules.map (·.1) then rules else rules ++ [(.other, .always)]

/-- The rules in the order of their categories, with one for all other numbers. -/
def ordered (rules : List (Category × Condition)) : List (Category × Condition) :=
  (withOther rules).mergeSort (·.1.rank ≤ ·.1.rank)

/-- The rule set of a locale with the given declarations. -/
def build (localeName : Text) (entries : List (Text × Text)) : Except Failure RuleSet := do
  let rules ← entries.foldlM (declare localeName) []
  return { localeName, rules := ordered rules }

end RuleSet

namespace Catalog

/-- The rule sets read so far, each with its key, and the one that `entry` declares. -/
def declare (ruleSets : List (Text × RuleSet)) (entry : Text × Declarations) :
    Except Failure (List (Text × RuleSet)) := do
  let (key, declarations) := entry
  let name := Locale.underscored key
  match ruleSets.find? (·.2.localeName = name) with
  | some first => (Complaint.duplicateLocale name first.1 key).raise .data
  | none =>
    let ruleSet ← RuleSet.build name declarations.toPairs
    return ruleSets ++ [(key, ruleSet)]

/-- The catalog of rule data. -/
def build (family : Family) (data : RuleData) : Except Failure Catalog := do
  let ruleSets ← data.foldlM declare []
  return { family, ruleSets := ruleSets.map (·.2) }

end Catalog

end Numerus
