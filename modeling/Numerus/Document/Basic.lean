import Numerus.Catalog.Build
import Numerus.Datum.Shown
import Numerus.Diagnostic.Complaint

/-!
Documents with plural rules, decoded into rule data.

A document has a section for each family of rules, one of which may be missing. A section maps
locales to entries, and an entry maps keys, which name categories behind a fixed opening, to
rule texts with samples. The rules of a locale are put in the order of the categories; unknown
tags follow in the order of the document, so that a later build reports them.
-/

namespace Numerus

/-- The rules of the locales of one section: the tags of categories with their rule texts. -/
abbrev Section := List (Text × List (Text × Text))

/-- The section of each family that a document has. -/
abbrev Document := List (Family × Section)

namespace Document

/-- The name of the part of a document that has the sections. -/
def root : Text := "supplemental"

/-- The name of the section of a family. -/
def sectionName (family : Family) : Text := "plurals-type-" ++ family.tag

/-- The name of the section of a family with that of the part it stands in. -/
def sectionPath (family : Family) : Text := root ++ '.' :: sectionName family

/-- What the keys of an entry start with; the tag of a category follows. -/
def keyOpening : Text := "pluralRule-count-"

/-- The tag of the category that a key names. -/
def tagOfKey? (key : Text) : Option Text :=
  if keyOpening.isPrefixOf key then some (key.drop keyOpening.length) else none

/-- The pairs of known categories, in their order, and then the others as they stand. -/
def ordered (rules : List (Text × Text)) : List (Text × Text) :=
  Category.all.filterMap (fun c => (rules.lookup c.tag).map ((c.tag, ·)))
    ++ rules.filter (fun rule => (Category.ofTag? rule.1).isNone)

/-- Refuses a document for want of a section. -/
def refuse {α : Type} (name : Text) : Except Failure α :=
  (Complaint.missingSection name).raise .data

/-- Refuses a key or an entry of a locale. -/
def refuseEntry {α : Type} (localeName key : Text) : Except Failure α :=
  (Complaint.invalidEntry localeName key).raise .data

/-- The tag and the rule text of one key of an entry, without samples. -/
def decodeRule (localeName : Text) (rule : Datum × Datum) : Except Failure (Text × Text) :=
  match rule.1.text?.bind tagOfKey?, rule.2.text? with
  | some tag, some text => .ok (tag, Rule.stripSamples text)
  | _, _ => do
    let key ← rule.1.written
    refuseEntry localeName key

/-- The rules of one locale. -/
def decodeEntry (localeName : Text) : Datum → Except Failure (List (Text × Text))
  | .mapping rules => do
    let rules ← rules.mapM (decodeRule localeName)
    return ordered rules
  | entry => do
    let shown ← entry.shown
    refuseEntry localeName shown

/-- A locale under its name, whose code points are given. -/
def named (locale : List Nat × List (Text × Text)) : Text × List (Text × Text) :=
  (locale.1.map CodePoint.toChar, locale.2)

/-- The locales decoded so far, under the code points of their names, with one more entry of a
section. Keys of different kinds may be written alike; then the later entry counts. -/
def decodeLocale (locales : List (List Nat × List (Text × Text))) (entry : Datum × Datum) :
    Except Failure (List (List Nat × List (Text × Text))) := do
  let points ← entry.1.writtenPoints
  let rules ← decodeEntry (points.map CodePoint.toChar) entry.2
  return Entries.put (· == ·) locales points rules

/-- The section of a family, if the document has it. -/
def decodeSection (sections : List (Datum × Datum)) (family : Family) :
    Except Failure (Option (Family × Section)) :=
  match Datum.get? sections (sectionName family) with
  | none | some .absent => .ok none
  | some (.mapping locales) => do
    let locales ← locales.foldlM decodeLocale []
    return some (family, locales.map named)
  | some _ => refuse (sectionPath family)

/-- Decodes a mapping with a part that has the sections. -/
def decodeMapping (entries : List (Datum × Datum)) : Except Failure Document :=
  match Datum.get? entries root with
  | some (.mapping sections) => do
    let decoded ← Family.all.mapM (decodeSection sections)
    let document := decoded.filterMap id
    if document = [] then refuse (Text.joined " or " (Family.all.map sectionPath))
    else return document
  | _ => refuse root

/-- Decodes a document. -/
def decode : Datum → Except Failure Document
  | .mapping entries => decodeMapping entries
  | _ => .error .notMapping

/-- The rule data of a family. -/
def data (document : Document) (family : Family) : Except Failure RuleData :=
  match document.lookup family with
  | some locales => .ok (locales.map fun locale => (locale.1, .pairs locale.2))
  | none => .error (.unknownName family.tag)

end Document

end Numerus
