import Numerus.Datum.Shown
import Numerus.Diagnostic.Complaint
import Numerus.Locale.Library
import Numerus.Text.Blank

/-!
The locales that callers ask for.

A locale is asked for by a tag, by its name and language, or by an object of the library. A tag is
read by the library once the white space around it is off and hyphens are underscores. Whether the
locale exists is not asked.
-/

namespace Numerus.Locale

variable (library : TagLibrary)

/-- The locale that a tag names. -/
def ofTag (tag : Text) : Except Failure Locale :=
  match library.parse (underscored tag.strip) with
  | .ok parts => .ok ⟨library.identifier parts, parts.language⟩
  | .error reason => (Complaint.invalidLocale tag reason).raise (.argument · "locale")

/-- The locale that a datum stands for: a tag, a locale or an object of the library. -/
def ofDatum : Datum → Except Failure Locale
  | .locale l => .ok l
  | .text tag => ofTag library tag
  | .brokenText points => ofTag library (points.map CodePoint.toChar)
  | .localeObject value => .ok ⟨value.name, value.language⟩
  | d => do
    let shown ← d.shown
    (Complaint.invalidLocale shown "expected str, LocaleId or babel.Locale").raise
      (.argument · "locale")

end Numerus.Locale
