import Numerus.Diagnostic.Display
import Numerus.Proofs.Wordings

/-!
Diagnostics written on one line.

A diagnostic written as a line has the line breaks of the texts that its wording takes over as they
are, unless they are clipped off. If no text that an operation was given has a line break, the
diagnostic that it ends with is one line, and lines put together are told apart again. A number is
always shown quoted; but a rule text, a key or a tag is not, and its line breaks are those of the
message.

* `Operation.diagnostic?` — the diagnostic that an operation ends with.
* `Diagnostic.lineBreaks_display` — the line breaks of a diagnostic written as a line.
* `Operation.line_breaks_as_given` — which diagnostics are one line.
* `Operation.token_breaks_line` — a token that is a line break.
-/

namespace Numerus

/-! ### Operations -/

/-- An operation that may end with a diagnostic, with what it is given. -/
inductive Operation where
  | compile (ruleText : Text)
  | build (family : Family) (data : RuleData)
  | operands (number precision : Datum)
  | locale (datum : Datum)
  | rulesFor (selector : Selector) (datum : Datum)
  | decode (document : Datum)

namespace Operation

/-- The diagnostic that an operation without an answer ends with, if its failure has one. -/
def diagnosticOf? {α : Type} : Except Failure α → Option Diagnostic
  | .error e => e.diagnostic?
  | .ok _ => none

/-- The diagnostic that the operation ends with, if it does. -/
def diagnostic? (library : TagLibrary) : Operation → Option Diagnostic
  | compile ruleText => diagnosticOf? (Rule.compile ruleText)
  | build family data => diagnosticOf? (Catalog.build family data)
  | operands number precision => diagnosticOf? (Operands.of number precision)
  | .locale datum => diagnosticOf? (Locale.ofDatum library datum)
  | rulesFor selector datum => diagnosticOf? (selector.rulesFor library datum)
  | decode document => diagnosticOf? (Document.decode document)

/-- The texts given that may be taken over as they are: the rule text; the keys, tags and texts of
rule data; the texts of a locale; the keys of a document. -/
def Gives : Operation → Text → Prop
  | compile ruleText => (· = ruleText)
  | build _ data => data.Gives
  | operands _ _ => fun _ => False
  | .locale datum => (· ∈ datum.rawTexts)
  | rulesFor _ datum => (· ∈ datum.rawTexts)
  | decode document => document.GivesKey

/-- The diagnostic that an operation ends with tells a complaint, and what the wording of this takes
over has no line breaks but those of texts given. -/
theorem exists_complaint {library : TagLibrary} (hlibrary : library.IsDocumented) {op : Operation}
    {d : Diagnostic} (h : op.diagnostic? library = some d) :
    ∃ c : Complaint, c.diagnostic = .ok d ∧ ∀ q ∈ c.quotes, BreaksAs op.Gives q := by
  have told {α : Type} {given : Text → Prop} {x : Except Failure α}
      (hx : FailsWith (Failure.Quotes given) x) (hd : diagnosticOf? x = some d) :
      ∃ c : Complaint, c.diagnostic = .ok d ∧ ∀ q ∈ c.quotes, BreaksAs given q := by
    cases x with
    | error e => exact hx e rfl d hd
    | ok a => cases hd
  cases op with
  | compile ruleText => exact told (Rule.compile_quotes ruleText) h
  | build family data => exact told (Catalog.build_quotes family data) h
  | operands number precision => exact told (Operands.of_quotes number precision) h
  | locale datum => exact told (Locale.ofDatum_quotes hlibrary datum) h
  | rulesFor selector datum => exact told (selector.rulesFor_quotes hlibrary datum) h
  | decode document => exact told (Document.decode_quotes document) h

end Operation

/-! ### Lines -/

theorem Code.lineBreaks_name (code : Code) : code.name.lineBreaks = [] := by
  cases code <;> decide

/-- Clipping a text adds no line breaks. -/
theorem Style.lineBreaks_clip_sublist (style : Style) (t : Text) :
    (style.clip t).lineBreaks.Sublist t.lineBreaks := by
  unfold clip
  split
  · have hdots : Text.lineBreaks "..." = [] := by decide
    rw [Text.lineBreaks_append, hdots, List.append_nil]
    exact Text.lineBreaks_sublist (t.slice_sublist _ _)
  · exact .refl _

namespace Diagnostic

variable {style : Style}

theorem lineBreaks_render (hformat : style.format = .line) (d : Diagnostic) :
    (d.render style).lineBreaks = (style.clip d.message).lineBreaks := by
  have hcolon : Text.lineBreaks ": " = [] := by decide
  simp only [render, hformat]
  rw [Text.lineBreaks_append, Text.lineBreaks_append, d.code.lineBreaks_name, hcolon]
  rfl

theorem render_ne_nil (hformat : style.format = .line) (d : Diagnostic) : d.render style ≠ [] := by
  simp [render, hformat]

/-- Any diagnostic can be written as a line. -/
theorem display_line (hformat : style.format = .line) (d : Diagnostic) :
    d.display style = .ok (d.render style) := by
  rw [display, hformat]
  rfl

theorem mapM_display (hformat : style.format = .line) (ds : List Diagnostic) :
    ds.mapM (display style) = .ok (ds.map (render style)) := by
  rw [funext (display_line hformat)]
  exact List.mapM_pure

theorem displayAll_line (hformat : style.format = .line) (ds : List Diagnostic) :
    displayAll style ds = .ok (renderAll style ds) := by
  rw [displayAll, mapM_display hformat]
  rfl

/-- A line has no line breaks but those that the wording of its complaint takes over. -/
theorem lineBreaks_render_sublist (hformat : style.format = .line) {c : Complaint} {d : Diagnostic}
    (hc : c.diagnostic = .ok d) :
    (d.render style).lineBreaks.Sublist (c.quotes.flatMap Text.lineBreaks) := by
  rw [lineBreaks_render hformat, ← Complaint.lineBreaks_message hc]
  exact style.lineBreaks_clip_sublist _

/-- Without clipping it has all of them. -/
theorem lineBreaks_render_eq (hformat : style.format = .line) (hclips : style.clips = false)
    {c : Complaint} {d : Diagnostic} (hc : c.diagnostic = .ok d) :
    (d.render style).lineBreaks = c.quotes.flatMap Text.lineBreaks := by
  rw [lineBreaks_render hformat, Style.clip_of_not_clips hclips, Complaint.lineBreaks_message hc]

end Diagnostic

namespace Operation

open Diagnostic (display displayAll)

/-- **Which diagnostics are one line.** Let tags be read by a library that keeps to their grammar,
and let a style write lines. The diagnostic that an operation ends with is written as a line whose
line breaks are those of the texts that its wording takes over as they are, or what clipping leaves
of these; and they are line breaks of texts that the operation was given. So it is one line if no
text given has a line break, as always where numbers are given. Diagnostics that are one line each
are told apart again when they are put together: they are the lines that are not empty. -/
theorem line_breaks_as_given {library : TagLibrary} (hlibrary : library.IsDocumented)
    {style : Style} (hformat : style.format = .line) :
    (∀ (op : Operation) d, op.diagnostic? library = some d →
      ∃ c : Complaint, c.diagnostic = .ok d ∧ (∀ q ∈ c.quotes, BreaksAs op.Gives q) ∧
        ∃ line, d.display style = .ok line ∧
          line.lineBreaks.Sublist (c.quotes.flatMap Text.lineBreaks) ∧
          (style.clips = false → line.lineBreaks = c.quotes.flatMap Text.lineBreaks)) ∧
    (∀ (op : Operation) d, op.diagnostic? library = some d → (∀ t, op.Gives t → t.lineBreaks = []) →
      ∃ line, d.display style = .ok line ∧ line.lineBreaks = []) ∧
    ∀ (ds : List Diagnostic) (lines : List Text), ds.mapM (display style) = .ok lines →
      (∀ line ∈ lines, line.lineBreaks = []) →
      ∃ t, displayAll style ds = .ok t ∧ t.lines.filter (· ≠ []) = lines := by
  refine ⟨?breaks, ?single, ?apart⟩
  case breaks =>
    intro op d hd
    obtain ⟨c, hc, hquotes⟩ := exists_complaint hlibrary hd
    exact ⟨c, hc, hquotes, _, Diagnostic.display_line hformat d,
      Diagnostic.lineBreaks_render_sublist hformat hc,
      fun hclips => Diagnostic.lineBreaks_render_eq hformat hclips hc⟩
  case single =>
    intro op d hd hgiven
    obtain ⟨c, hc, hquotes⟩ := exists_complaint hlibrary hd
    refine ⟨_, Diagnostic.display_line hformat d, ?_⟩
    have hnone : c.quotes.flatMap Text.lineBreaks = [] := by
      refine List.flatMap_eq_nil_iff.2 fun q hq => List.eq_nil_iff_forall_not_mem.2 fun b hb => ?_
      obtain ⟨t, ht, hmem⟩ := hquotes q hq b hb
      exact Text.notMem_of_lineBreaks (hgiven t ht) (Text.mem_lineBreaks_iff.1 hb).2 hmem
    exact List.sublist_nil.1 (hnone ▸ Diagnostic.lineBreaks_render_sublist hformat hc)
  case apart =>
    intro ds lines hlines hbreaks
    obtain rfl := Except.ok.inj ((Diagnostic.mapM_display hformat ds).symm.trans hlines)
    refine ⟨_, Diagnostic.displayAll_line hformat ds, Text.lines_joined_blank hbreaks ?_⟩
    simpa using fun d _ => Diagnostic.render_ne_nil hformat d

/-- The diagnostic on a text with a line feed in it, which is no number. -/
def brokenNumber : Diagnostic where
  code := .invalidNumber
  message := "Cannot compute plural operands for '1\\n2': not a decimal number"
  hint := some "Pass an int, a finite float, a finite Decimal or a numeric string"

/-- A number is shown quoted, so the line feed in it does not break the line. -/
theorem line_breaks_as_given_number :
    ({ format := .line } : Style).format = .line ∧
      (operands (.text "1\n2") (.integer 3)).diagnostic? .standard = some brokenNumber ∧
      ∃ line, brokenNumber.display { format := .line } = .ok line ∧ line.lineBreaks = [] := by
  have hformat : ({ format := .line } : Style).format = .line := rfl
  have hrefused : Operands.of (.text "1\n2") (.integer 3) =
      .error (.argument (.diagnosed brokenNumber) "number") := rfl
  have hdiagnostic :
      (operands (.text "1\n2") (.integer 3)).diagnostic? .standard = some brokenNumber :=
    congrArg diagnosticOf? hrefused
  have hlines := line_breaks_as_given TagLibrary.standard_isDocumented hformat
  exact ⟨hformat, hdiagnostic, hlines.2.1 _ _ hdiagnostic fun _ h => h.elim⟩

/-- The diagnostic on a rule text that is a line feed and nothing else. -/
def lineFeedToken : Diagnostic where
  code := .unexpectedToken
  message := "Unexpected '\n', expected an operand"
  span := some ⟨0, 1, by decide⟩
  source := some "\n"
  helpUrl := some grammarPage

/-- **A token may break the line.** A line feed is a token, and where another one is wanted the
diagnostic shows it as it is; so the diagnostic is not one line but two. -/
theorem token_breaks_line :
    (compile "\n").diagnostic? .standard = some lineFeedToken ∧
      ∃ line, lineFeedToken.display { format := .line } = .ok line ∧
        displayAll { format := .line } [lineFeedToken] = .ok line ∧
        line.lines =
          ["GRAMMAR_UNEXPECTED_TOKEN: Unexpected '".toList, "', expected an operand".toList] := by
  have hrefused : Rule.compile "\n" =
      .error (.grammar (.diagnosed lineFeedToken) "\n" "\n" 0) := by cbv
  exact ⟨congrArg diagnosticOf? hrefused, _, rfl, rfl, rfl⟩

end Operation

end Numerus
