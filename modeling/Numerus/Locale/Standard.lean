import Numerus.Locale.Library
import Numerus.Text.Casing
import Numerus.Text.Digit
import Numerus.Text.Letter
import Numerus.Text.Quoted

/-!
A library for locale tags of the usual form.

A tag has subtags with underscores between them: a language, and then, each of them optional, a
script of four letters, a territory of two letters or three digits, and a variant. An encoding after
a point is left out, and what follows an at sign is a modifier. The language is written in lower
case, the script in title case, territory and variant in upper case.
-/

namespace Numerus.TagLibrary

/-- The script at the head of the subtags, in title case, and the subtags after it. -/
def takeScript : List Text → Option Text × List Text
  | s :: rest =>
    if s.length = 4 ∧ Text.isLetters s then (some (Text.title s), rest) else (none, s :: rest)
  | [] => (none, [])

/-- The territory at the head of the subtags, in upper case, and the subtags after it. -/
def takeTerritory : List Text → Option Text × List Text
  | s :: rest =>
    if s.length = 2 ∧ Text.isLetters s then (some (Text.upper s), rest)
    else if s.length = 3 ∧ Text.isDigits s then (some s, rest)
    else (none, s :: rest)
  | [] => (none, [])

/-- Whether a subtag has the form of a variant. -/
def isVariant (s : Text) : Bool :=
  match s.head? with
  | some c => s.length == 4 && isDigitSign c || 5 ≤ s.length && isLetter c
  | none => false

/-- The last subtag as the variant, in upper case, if the first subtag has the form of one; and
the subtags before it. -/
def takeVariant (subtags : List Text) : Option Text × List Text :=
  if (subtags.head?.map isVariant).getD false then
    (subtags.getLast?.map Text.upper, subtags.dropLast)
  else (none, subtags)

/-- The parts of a locale whose subtags are given, without a modifier. -/
def ofSubtags (identifier : Text) (subtags : List Text) : Except Text Locale.Parts := do
  let language := Text.lower (subtags.headD [])
  if !Text.isLetters language then throw ("expected only letters, got " ++ language.quoted)
  let (script, rest) := takeScript subtags.tail
  let (territory, rest) := takeTerritory rest
  let (variant, rest) := takeVariant rest
  if rest ≠ [] then throw (identifier.quoted ++ " is not a valid locale identifier")
  return { language, territory, script, variant }

/-- The parts of the locale that a tag of the usual form names. -/
def standardParse (tag : Text) : Except Text Locale.Parts := do
  if tag = [] then throw ("empty locale identifier" : Text)
  let modifier := tag.after '@'
  let identifier := (tag.before '@').before '.'
  let parts ← ofSubtags identifier (List.splitOn '_' identifier)
  return { parts with modifier := if modifier = [] then none else some modifier }

/-- The identifier of a locale; empty parts are left out. -/
def standardIdentifier (parts : Locale.Parts) : Text :=
  let subtags := [some parts.language, parts.script, parts.territory, parts.variant]
  let tag := Text.joined "_" (subtags.filterMap (·.filter (· ≠ [])))
  match parts.modifier.filter (· ≠ []) with
  | some modifier => tag ++ '@' :: modifier
  | none => tag

/-- The library for tags of the usual form. -/
def standard : TagLibrary where
  parse := standardParse
  identifier := standardIdentifier

end Numerus.TagLibrary
