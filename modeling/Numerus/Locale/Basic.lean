import Numerus.Text.Basic

/-!
Locales as rules are looked up for them.

A locale has a canonical name, which is tried first, and a language, which is tried next.
-/

namespace Numerus

/-- A locale: its canonical name and its language. -/
structure Locale where
  name : Text
  language : Text
  deriving DecidableEq

namespace Locale

/-- The separator of the parts of a name is the underscore; a hyphen is put for it as well. -/
def separated (c : Char) : Char := if c = '-' then '_' else c

/-- The name with underscores for hyphens. -/
def underscored (name : Text) : Text := name.map separated

theorem separated_separated (c : Char) : separated (separated c) = separated c := by
  by_cases h : c = '-'
  · subst h
    rfl
  · simp [separated, h]

@[simp] theorem underscored_underscored (name : Text) :
    underscored (underscored name) = underscored name := by
  simp [underscored, Function.comp_def, separated_separated]

end Locale

end Numerus
