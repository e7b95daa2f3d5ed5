import Numerus.Category
import Numerus.Datum.Shown

/-!
The closed vocabularies from which callers choose: categories, families, forms of diagnostics and
codes. A member is chosen by its value, and a datum that is no member's value is refused.
-/

namespace Numerus

namespace Datum

/-- The member of a vocabulary with the given datum as its value. -/
def member {α : Type} (vocabulary : Text) (members : List α) (value : α → Datum) (d : Datum) :
    Except Failure α :=
  match members.find? fun m => (value m).sameKey d with
  | some m => .ok m
  | none => do
    let shown ← d.shown
    throw (.invalid (.notAMember shown vocabulary))

end Datum

/-- The category with the given tag. -/
def Category.ofDatum (d : Datum) : Except Failure Category :=
  d.member "PluralCategory" all (.text ·.tag)

/-- The family with the given tag. -/
def Family.ofDatum (d : Datum) : Except Failure Family :=
  d.member "RuleFamily" all (.text ·.tag)

/-- The form with the given tag. -/
def Format.ofDatum (d : Datum) : Except Failure Format :=
  d.member "OutputFormat" all (.text ·.tag)

/-- The code with the given number. -/
def Code.ofDatum (d : Datum) : Except Failure Code :=
  d.member "DiagnosticCode" all (.integer ·.number)

/-- The name of the member of a vocabulary whose value is the given tag. -/
def nameOfTag (tag : Text) : Text := tag.map Char.toUpper

end Numerus
