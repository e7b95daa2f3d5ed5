import Numerus.Text.Basic

/-!
Groups of locales with equal rules, from which the tables of default rules are made up.
-/

namespace Numerus.DefaultRules

/-- Locales with equal rules. -/
structure Group where
  /-- The names of the locales, several to a line, with spaces between them. -/
  names : List Text
  /-- The tags of the categories with their rule texts. -/
  rules : List (Text × Text)

/-- The locales of a group, each with its rules. -/
def Group.entries (g : Group) : List (Text × List (Text × Text)) :=
  (g.names.flatMap (List.splitOn ' ')).map fun name => (name, g.rules)

end Numerus.DefaultRules
