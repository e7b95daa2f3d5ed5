import Numerus.Document.Basic

/-!
Tables of rules made sparse.

A full table gives every locale its rules, also where a regional locale has the rules of its
language. Since rules are looked up under the language too, such a locale can be left out: what is
kept are the languages, and the regional locales whose rules differ from those of their language.
-/

namespace Numerus

/-- Locales with their rules, of which some locales have none. -/
abbrev FullTable := List (Text × Option (List (Text × Text)))

namespace FullTable

/-- The name that stands for no locale: it holds what all locales share. -/
def sharedName : Text := "root"

/-- The language in the name of a locale. -/
def languageOf (name : Text) : Text := name.before '_'

/-- The locales kept so far, with one more locale of the table if it is to be kept. -/
def keep (kept : Section) (entry : Text × Option (List (Text × Text))) : Section :=
  let (name, rules) := entry
  let rules := (rules.map Document.ordered).getD []
  let language := languageOf name
  if name = sharedName ∨ name ≠ language ∧ kept.lookup language = some rules then kept
  else kept ++ [(name, rules)]

/-- The table by ascending names, so that each language precedes its regional locales. -/
def sorted (table : FullTable) : FullTable := table.mergeSort fun a b => Text.precedes a.1 b.1

/-- The locales that are kept of a table. -/
def sparse (table : FullTable) : Section := table.sorted.foldl keep []

end FullTable

end Numerus
