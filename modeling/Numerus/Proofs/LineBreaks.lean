import Mathlib
import Numerus.Proofs.Blanks
import Numerus.Proofs.LocaleTag

/-!
Line breaks in what messages show.

What is printable has no line breaks, so a datum as messages show it stands on one line, whatever it
holds. A text that is taken over as it is keeps its line breaks, and so do locales by their names.

* `Text.lineBreaks`, `Text.lines` — the line breaks of a text, and the lines between them.
* `Text.lines_joined_blank` — texts on one line each, with an empty line between neighbours.
* `Datum.mem_of_mem_written` — a datum written as text has the line breaks of its texts.
* `Locale.mem_of_mem_name` — the name of a locale has those of the tag.
-/

namespace Numerus

/-! ### Line breaks -/

/-- The characters that end a line. -/
def lineBreakMarks : List Char :=
  ['\n', '\x0b', '\x0c', '\r', '\x1c', '\x1d', '\x1e', '\u0085', '\u2028', '\u2029']

/-- Whether a line ends with `c`. -/
def isLineBreak (c : Char) : Bool := lineBreakMarks.contains c

section Marks

variable {c : Char}

theorem isLineBreak_iff : isLineBreak c = true ↔ c ∈ lineBreakMarks := List.contains_iff_mem

/-- No printable character is a line break. -/
theorem isLineBreak_of_isPrintable (h : isPrintable c = true) : isLineBreak c = false := by
  refine Bool.eq_false_iff.2 fun hbreak => ?_
  have hmarks : lineBreakMarks.all (!isPrintable ·) = true := by decide +kernel
  have hnot := List.all_eq_true.1 hmarks c (isLineBreak_iff.1 hbreak)
  simp [h] at hnot

/-- No letter is a line break. -/
theorem isLetter_of_isLineBreak (h : isLineBreak c = true) : isLetter c = false := by
  have hblank : ∀ mark ∈ lineBreakMarks, isBlank mark = true := List.all_eq_true.1 (by decide)
  exact isLetter_of_isBlank (hblank c (isLineBreak_iff.1 h))

/-- Line breaks have no case. -/
theorem isCaseless_of_isLineBreak (h : isLineBreak c = true) : IsCaseless c := by
  have hmark := isLineBreak_iff.1 h
  simp only [lineBreakMarks, List.mem_cons, List.not_mem_nil, or_false] at hmark
  rcases hmark with rfl | rfl | rfl | rfl | rfl | rfl | rfl | rfl | rfl | rfl <;> decide +kernel

theorem separator_of_isLineBreak (h : isLineBreak c = true) : c ∉ ['_', '@'] := by
  intro hmem
  rcases List.mem_pair.1 hmem with rfl | rfl <;> exact absurd h (by decide)

end Marks

namespace Text

/-- The line breaks of a text. -/
def lineBreaks (t : Text) : Text := t.filter isLineBreak

/-- The lines of a text, without the line breaks that end them. -/
def lines (t : Text) : List Text := t.splitOnP isLineBreak

variable {s t : Text} {ts : List Text} {c : Char}

theorem lineBreaks_eq_nil_iff : t.lineBreaks = [] ↔ ∀ c ∈ t, isLineBreak c = false := by
  simp [lineBreaks]

theorem mem_lineBreaks_iff : c ∈ t.lineBreaks ↔ c ∈ t ∧ isLineBreak c = true := List.mem_filter

/-- No line break is in a text without line breaks. -/
theorem notMem_of_lineBreaks (ht : t.lineBreaks = []) (hc : isLineBreak c = true) : c ∉ t :=
  fun hmem => by simp [lineBreaks_eq_nil_iff.1 ht c hmem] at hc

@[simp] theorem lineBreaks_append (s t : Text) :
    (s ++ t).lineBreaks = s.lineBreaks ++ t.lineBreaks :=
  List.filter_append s t

/-- A text without line breaks, in a form that is decided for the wordings of messages. -/
theorem lineBreaks_eq_nil (h : t.any isLineBreak = false) : t.lineBreaks = [] := by
  simpa [lineBreaks] using h

theorem lineBreaks_sublist (h : s.Sublist t) : s.lineBreaks.Sublist t.lineBreaks :=
  h.filter isLineBreak

/-- What is printable stands on one line. -/
theorem IsPrintable.lineBreaks_eq_nil (h : t.IsPrintable) : t.lineBreaks = [] :=
  lineBreaks_eq_nil_iff.2 fun c hc => isLineBreak_of_isPrintable (h c hc)

/-- Texts that stand on one line each and are not empty are told apart again when they are put
together with an empty line between neighbours: they are the lines that are not empty. -/
theorem lines_joined_blank (hlines : ∀ t ∈ ts, t.lineBreaks = []) (hne : ∀ t ∈ ts, t ≠ []) :
    (joined "\n\n" ts).lines.filter (· ≠ []) = ts := by
  induction ts with
  | nil => simp [joined, lines]
  | cons t ts ih =>
    obtain ⟨hfirst, hrest⟩ := List.forall_mem_cons.1 hlines
    obtain ⟨hfirst', hrest'⟩ := List.forall_mem_cons.1 hne
    have hline := lineBreaks_eq_nil_iff.1 hfirst
    cases ts with
    | nil => simp [joined, lines, List.splitOnP_eq_singleton hline, hfirst']
    | cons t' ts =>
      have hsplit (rest : Text) : lines (t ++ "\n\n".toList ++ rest) = t :: [] :: rest.lines := by
        have hnewline : isLineBreak '\n' = true := by decide
        have hblank := List.splitOnP_append_cons_of_forall_mem hline '\n' hnewline ('\n' :: rest)
        have hempty : ∀ c ∈ ([] : Text), isLineBreak c = false := by simp
        have hrest := List.splitOnP_append_cons_of_forall_mem hempty '\n' hnewline rest
        simpa [lines] using hblank.trans (congrArg (t :: ·) hrest)
      rw [joined, List.intercalate_cons_cons, hsplit,
        List.filter_cons_of_pos (by simpa using hfirst'), List.filter_cons_of_neg (by simp)]
      exact congrArg (t :: ·) (ih hrest hrest')

end Text

/-! ### Texts taken over as they are -/

/-- The texts that a datum is written with as they are. -/
def Datum.rawTexts : Datum → List Text
  | .text value => [value]
  | .brokenText points => [points.map CodePoint.toChar]
  | .decimal (.notANumber _ _ payload) => [payload]
  | .locale value => [value.name, value.language]
  | .localeObject value => [value.name, value.language]
  | _ => []

section Raw

variable {library : TagLibrary} {c : Char} {t tag : Text} {l : Locale} {d : Datum}

namespace Locale

/-- Separators are no line breaks. -/
theorem mem_of_mem_underscored (hc : isLineBreak c = true) (h : c ∈ underscored t) : c ∈ t := by
  obtain ⟨b, hb, heq⟩ := List.mem_map.1 h
  unfold separated at heq
  split at heq
  · exact absurd (heq ▸ List.mem_cons_self) (separator_of_isLineBreak hc)
  · exact heq ▸ hb

/-- The name of a locale has the line breaks of the tag that names it. -/
theorem mem_of_mem_name (hlibrary : library.IsDocumented) (hc : isLineBreak c = true)
    (hl : ofTag library tag = .ok l) (h : c ∈ l.name) : c ∈ tag := by
  by_contra hno
  refine notMem_name hlibrary (isCaseless_of_isLineBreak hc) (separator_of_isLineBreak hc) hl
    (fun hmem => hno ?_) h
  exact Text.mem_of_mem_strip (mem_of_mem_underscored hc hmem)

/-- Its language has none. -/
theorem notMem_language (hlibrary : library.IsDocumented) (hc : isLineBreak c = true)
    (h : ofTag library tag = .ok l) : c ∉ l.language :=
  Text.notMem_of_isLetters (isLetters_language hlibrary h) (isLetter_of_isLineBreak hc)

/-- The name and the language of the locale that a datum stands for have the line breaks of the
texts that the datum is written with. -/
theorem mem_of_ofDatum (hlibrary : library.IsDocumented) (hc : isLineBreak c = true)
    (hl : ofDatum library d = .ok l) (h : c ∈ l.name ∨ c ∈ l.language) :
    ∃ t ∈ d.rawTexts, c ∈ t := by
  have ofTag {tag : Text} (hl : ofTag library tag = .ok l) : c ∈ tag := by
    rcases h with h | h
    · exact mem_of_mem_name hlibrary hc hl h
    · exact absurd h (notMem_language hlibrary hc hl)
  have given {name language : Text} (hl : (.ok ⟨name, language⟩ : Except Failure Locale) = .ok l) :
      ∃ t ∈ [name, language], c ∈ t := by
    obtain rfl := Except.ok.inj hl
    simpa using h
  unfold ofDatum at hl
  split at hl
  · exact given hl
  · exact ⟨_, List.mem_cons_self, ofTag hl⟩
  · exact ⟨_, List.mem_cons_self, ofTag hl⟩
  · exact given hl
  · obtain ⟨shown, -, hraise⟩ := bind_eq_ok_iff.1 hl
    exact absurd hraise (Complaint.raise_ne_ok _ _ _)

end Locale

theorem ExtendedDecimal.mem_of_mem_write {x : ExtendedDecimal} (hc : isLineBreak c = true)
    (h : c ∈ x.write) : ∃ t ∈ (Datum.decimal x).rawTexts, c ∈ t := by
  have printable {t : Text} (ht : t.IsPrintable) : c ∉ t :=
    Text.notMem_of_lineBreaks ht.lineBreaks_eq_nil hc
  cases x with
  | finite value => exact absurd h (printable value.isPrintable_write)
  | infinite negative =>
    exact absurd h (printable (Text.isPrintable_append.2 ⟨Text.isPrintable_sign _, by decide⟩))
  | notANumber negative signaling payload =>
    rw [write, List.mem_append] at h
    rcases h with h | h
    · refine absurd h (printable ?_)
      cases negative <;> cases signaling <;> decide
    · exact ⟨payload, List.mem_cons_self, h⟩

/-- A datum written as text has the line breaks of the texts that it is written with. -/
theorem Datum.mem_of_mem_written (hc : isLineBreak c = true) (ht : d.written = .ok t) (h : c ∈ t) :
    ∃ s ∈ d.rawTexts, c ∈ s := by
  have given {s : Text} {more : List Text} (heq : (.ok s : Except Failure Text) = .ok t) :
      ∃ u ∈ s :: more, c ∈ u := by
    obtain rfl := Except.ok.inj heq
    exact ⟨s, List.mem_cons_self, h⟩
  unfold written at ht
  split at ht
  · exact given ht
  · exact given ht
  · next value =>
    obtain rfl := Except.ok.inj ht
    exact ExtendedDecimal.mem_of_mem_write hc h
  · exact given ht
  · exact given ht
  · exact absurd h (Text.notMem_of_lineBreaks (isPrintable_shown ht).lineBreaks_eq_nil hc)

end Raw

end Numerus
