import Numerus.Datum.Shown

/-!
Diagnostics of any origin shown as text.

The offsets of a diagnostic made by hand may be numbers of more digits than are written, or lie so
far out that the lines of a report that point at them cannot be made. `Diagnostic.display` looks at
that before it renders.
-/

namespace Numerus

namespace Diagnostic

/-- Fails if the lines of a report that say where the fault is cannot be made. -/
def checkLocation (d : Diagnostic) : Except Failure Unit :=
  match d.span with
  | some span => do
    let _ ← Numeral.write span.column
    if d.source.isSome then
      Numeral.checkCapacity span.start
      Numeral.checkCapacity (max 1 span.width)
  | none => .ok ()

/-- Fails if the members of a record that say where the fault is cannot be written. -/
def checkOffsets (d : Diagnostic) : Except Failure Unit :=
  match d.span with
  | some span => do
    let _ ← Numeral.write span.start
    let _ ← Numeral.write span.stop
  | none => .ok ()

/-- Fails if the diagnostic cannot be written in the given form. -/
def check (d : Diagnostic) : Format → Except Failure Unit
  | .report => d.checkLocation
  | .line => .ok ()
  | .record => d.checkOffsets

/-- The diagnostic as text, if it can be written. -/
def display (style : Style) (d : Diagnostic) : Except Failure Text := do
  d.check style.format
  return d.render style

/-- Several diagnostics as text, if each of them can be written. -/
def displayAll (style : Style) (ds : List Diagnostic) : Except Failure Text := do
  let _ ← ds.mapM (display style)
  return renderAll style ds

end Diagnostic

/-- The notice that carries a diagnostic, if its report can be written. -/
def Notice.ofDiagnostic (d : Diagnostic) : Except Failure Notice := do
  d.check .report
  return .diagnosed d

end Numerus
