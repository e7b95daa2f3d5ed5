import Numerus.Diagnostic.Basic
import Numerus.Json.Writer

/-!
Diagnostics as text.

A report has a heading, the place of the fault, the hint and the page to read, each on lines of
its own; under a rule text, carets mark the part at fault. A line holds the code and the message.
A record is a JSON object. On request texts are clipped to a number of characters.
-/

namespace Numerus

/-- The forms in which a diagnostic is written. -/
inductive Format where
  | report
  | line
  | record
  deriving DecidableEq

namespace Format

/-- All forms. -/
def all : List Format := [.report, .line, .record]

/-- The tag by which a form is chosen. -/
def tag : Format → Text
  | report => "rust"
  | line => "simple"
  | record => "json"

end Format

/-- How diagnostics are written. -/
structure Style where
  format : Format := .report
  /-- Whether texts longer than `limit` are clipped. -/
  clips : Bool := false
  /-- Whether the heading of a report is colored for a terminal. -/
  colors : Bool := false
  limit : Int := 100

namespace Style

/-- The text as this style shows it: cut after `limit` characters, with three dots to tell, if it
is longer and the style clips. A negative limit counts from the end of the text. -/
def clip (style : Style) (t : Text) : Text :=
  if style.clips ∧ style.limit < t.length then t.span 0 style.limit ++ "..." else t

theorem clip_of_not_clips {style : Style} (h : style.clips = false) (t : Text) :
    style.clip t = t := by
  simp [clip, h]

/-- The escape sequences that print `t` in bold, in the color with the given number. -/
def bold (color : Nat) (t : Text) : Text :=
  "\x1b[1;" ++ Numeral.ofNat color ++ "m" ++ t ++ "\x1b[0m"

/-- The word that opens a report: red for an error, yellow for a warning. -/
def severity (style : Style) (severity : Option Text) : Text :=
  if severity = some "warning".toList then
    if style.colors then bold 33 "warning" else "warning"
  else
    if style.colors then bold 31 "error" else "error"

end Style

namespace Diagnostic

/-- The text, unless it is missing or empty. -/
def stated (t : Option Text) : Option Text := t.filter (· ≠ [])

/-- A line with the given label in front of the text, if there is a text. -/
def labelled (label : Text) : Option Text → List Text
  | some t => [label ++ t]
  | none => []

/-- A member of a record, if there is a text for it. -/
def member (key : Text) : Option Text → List (Text × Json.Scalar)
  | some t => [(key, .text t)]
  | none => []

/-- The lines that show the part of a rule text at fault. -/
def excerpt (style : Style) (span : Span) : Option Text → List Text
  | some source =>
    ["   |",
     "   | " ++ style.clip source,
     "   | " ++ List.replicate span.start ' ' ++ List.replicate (max 1 span.width) '^']
  | none => []

/-- The lines that say where the fault is. -/
def location (style : Style) (d : Diagnostic) : List Text :=
  match d.span with
  | some span => ("  --> column " ++ Numeral.ofNat span.column) :: excerpt style span d.source
  | none => labelled "  --> locale " (stated d.localeCode)

/-- The first line of a report. -/
def heading (style : Style) (d : Diagnostic) : Text :=
  style.severity d.severity ++ "[" ++ d.code.name ++ "]: " ++ d.message

/-- The lines of a report. -/
def reportLines (style : Style) (d : Diagnostic) : List Text :=
  heading style d :: location style d
    ++ labelled "  = help: " ((stated d.hint).map style.clip)
    ++ labelled "  = note: see " (stated d.helpUrl)

/-- The members that give the part of the rule text at fault. -/
def offsets : Option Span → List (Text × Json.Scalar)
  | some span => [("start", .number span.start), ("end", .number span.stop)]
  | none => []

/-- A member's value, which is null for a text that is missing. -/
def scalar : Option Text → Json.Scalar
  | some t => .text t
  | none => .null

/-- The members that every record has. -/
def opening (style : Style) (d : Diagnostic) : List (Text × Json.Scalar) :=
  [("code", .text d.code.name), ("code_value", .number d.code.number),
   ("message", .text (style.clip d.message)), ("severity", scalar d.severity)]

/-- The members of a record. -/
def members (style : Style) (d : Diagnostic) : List (Text × Json.Scalar) :=
  opening style d ++ offsets d.span
    ++ member "source" (d.source.map style.clip)
    ++ member "locale_code" (stated d.localeCode)
    ++ member "hint" ((stated d.hint).map style.clip)
    ++ member "help_url" (stated d.helpUrl)

/-- The diagnostic as text. -/
def render (style : Style) (d : Diagnostic) : Text :=
  match style.format with
  | .report => Text.joined "\n" (reportLines style d)
  | .line => d.code.name ++ ": " ++ style.clip d.message
  | .record => Json.writeObject (members style d)

/-- Several diagnostics as text, with an empty line between neighbours. -/
def renderAll (style : Style) (ds : List Diagnostic) : Text :=
  Text.joined "\n\n" (ds.map (render style))

end Diagnostic

end Numerus
