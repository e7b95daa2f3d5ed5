import Numerus.Locale.Basic
import Numerus.Text.Printable

/-!
The library that tags of locales are read with.

What a locale tag means is not decided here: a library tells the parts of the locale that a tag
names, and how the parts of a locale are written as one identifier. Whatever looks up a locale by a
tag takes the library as a parameter.
-/

namespace Numerus

/-- The parts of a locale; all but the language may be missing. -/
structure Locale.Parts where
  language : Text
  territory : Option Text := none
  script : Option Text := none
  variant : Option Text := none
  modifier : Option Text := none
  deriving DecidableEq

/-- A library for locale tags. -/
structure TagLibrary where
  /-- The parts of the locale that a tag with underscores names, or the reason why it names none. -/
  parse : Text → Except Text Locale.Parts
  /-- The identifier that the parts of a locale make up. -/
  identifier : Locale.Parts → Text

/-- A locale as an object of a library: its written form, its language, and the object as messages
show it, which has no characters but printable ones. -/
structure Locale.Object where
  name : Text
  language : Text
  shown : Text
  isPrintable_shown : shown.all isPrintable = true
  deriving DecidableEq

end Numerus
