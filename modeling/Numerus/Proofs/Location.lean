import Numerus.Proofs.Fragments

/-!
Where refused rule texts are shown to be wrong.

A refusal gives the offset of its fragment in the rule text as it was given, samples included, and
its diagnostic marks the same part. A report of the diagnostic has the rule text on a line of its
own, and the line after it has carets under the fragment.

* `Token.covered_bounds` — the part that tokens of a rule text cover, by its offsets.
* `Diagnostic.excerpt_lines` — the two lines of a report that show a part of a rule text.
* `Rule.refusal_locates_fragment` — where the fragment of a refused rule text is, and is shown.
-/

namespace Numerus

/-! ### Parts of texts -/

namespace Text

/-- The part of a text between two offsets is as long as they are apart. -/
theorem length_slice_of_le {t : Text} {start stop : Nat} (h : stop ≤ t.length) :
    (t.slice start stop).length = stop - start := by
  rw [length_slice]
  omega

theorem before_prefix (mark : Char) (t : Text) : t.before mark <+: t :=
  List.takeWhile_prefix _

end Text

namespace Token

/-- Tokens in order start before they stop. -/
theorem startOf_le_stopOf {ts : List Token} (h : ts.Pairwise (·.position < ·.position)) :
    startOf ts ≤ stopOf ts := by
  cases ts with
  | nil => exact Nat.le_refl 0
  | cons t ts =>
    induction ts generalizing t with
    | nil => exact Nat.le_add_right _ _
    | cons u ts ih =>
      rw [List.pairwise_cons] at h
      have hfirst : t.position < u.position := h.1 u List.mem_cons_self
      have hrest := ih u h.2
      rw [startOf_cons, stopOf_cons_cons]
      rw [startOf_cons] at hrest
      omega

/-- The tokens of a rule text cover no more than the rule. -/
theorem stopOf_le {t : Text} {ts : List Token} (h : ∀ u ∈ ts, u ∈ ofText t) :
    stopOf ts ≤ (t.before '@').length := by
  rcases List.eq_nil_or_concat ts with rfl | ⟨ts, u, rfl⟩
  · exact Nat.zero_le _
  · have hu : u ∈ ofText t := h u (by simp)
    have hstop := (ofText_standsIn_before t u hu).stop_le
    simpa [stopOf] using hstop

/-- The part that tokens of a rule text cover, by its offsets: it ends before the samples, and it is
what stands there. -/
theorem covered_bounds {t : Text} {before shown rest : List Token}
    (h : ofText t = before ++ (shown ++ rest)) :
    startOf shown + (covered t shown).length ≤ (t.before '@').length ∧
      t.slice (startOf shown) (startOf shown + (covered t shown).length) = covered t shown := by
  have hascend := ofText_pairwise t
  rw [h, List.pairwise_append, List.pairwise_append] at hascend
  have horder : startOf shown ≤ stopOf shown := startOf_le_stopOf hascend.2.1.1
  have hmem : ∀ u ∈ shown, u ∈ ofText t := by
    intro u hu
    rw [h]
    simp [hu]
  have hstop : stopOf shown ≤ (t.before '@').length := stopOf_le hmem
  have hshort : stopOf shown ≤ t.length :=
    hstop.trans (Text.before_prefix '@' t).length_le
  have hlength : startOf shown + (covered t shown).length = stopOf shown := by
    rw [covered, Text.length_slice_of_le hshort]
    omega
  rw [hlength]
  exact ⟨hstop, rfl⟩

end Token

/-! ### Reports -/

/-- Texts joined by line feeds are broken into lines where the texts are. -/
theorem Text.splitOnP_joined {breaks : Char → Bool} (hbreaks : breaks '\n' = true) {ts : List Text}
    (hne : ts ≠ []) : (Text.joined "\n" ts).splitOnP breaks = ts.flatMap (·.splitOnP breaks) := by
  induction ts with
  | nil => exact absurd rfl hne
  | cons t ts ih =>
    cases ts with
    | nil => simp [joined]
    | cons u ts =>
      have hjoined : joined "\n" (t :: u :: ts) = t ++ '\n' :: joined "\n" (u :: ts) := by
        simp [joined]
      rw [hjoined, List.splitOnP_append_cons _ _ hbreaks, ih (List.cons_ne_nil _ _)]
      exact List.flatMap_cons.symm

namespace Diagnostic

variable {d : Diagnostic} {source : Text} {position length : Nat}

/-- The line of a report that has the rule text. -/
def sourceLine (source : Text) : Text := "   | " ++ source

/-- The line of a report with carets under a part of the rule text; an empty part has one caret. -/
def caretLine (position length : Nat) : Text :=
  "   | " ++ List.replicate position ' ' ++ List.replicate (max 1 length) '^'

/-- A report has the rule text on a line, followed by the line with the carets. -/
theorem Marks.reportLines (h : d.Marks source position length) :
    [sourceLine source, caretLine position length] <:+: reportLines {} d := by
  have hlocation : location {} d =
      ["  --> column " ++ Numeral.ofNat (position + 1), "   |"] ++
        [sourceLine source, caretLine position length] := by
    simp [location, h.1, h.2, excerpt, Span.width, Span.column, Style.clip, sourceLine, caretLine]
  refine ⟨heading {} d :: ["  --> column " ++ Numeral.ofNat (position + 1), "   |"],
    labelled "  = help: " ((stated d.hint).map (Style.clip {})) ++
      labelled "  = note: see " (stated d.helpUrl), ?_⟩
  simp [Diagnostic.reportLines, hlocation]

/-- A rule text without breaks is on one line of a report, and the next one has the carets. -/
theorem Marks.lines (h : d.Marks source position length) {breaks : Char → Bool}
    (hfeed : breaks '\n' = true) (hmarks : ∀ c ∈ " |^".toList, breaks c = false)
    (hsource : ∀ c ∈ source, breaks c = false) :
    [sourceLine source, caretLine position length] <:+: (d.render {}).splitOnP breaks := by
  have hlabel : ∀ c ∈ "   | ".toList, breaks c = false := by
    have hsubset : "   | ".toList ⊆ " |^".toList := by decide
    intro c hc
    exact hmarks c (hsubset hc)
  have hblank : breaks ' ' = false := hmarks ' ' (by decide)
  have hcaret : breaks '^' = false := hmarks '^' (by decide)
  have hfirst : (sourceLine source).splitOnP breaks = [sourceLine source] := by
    apply List.splitOnP_eq_singleton
    intro c hc
    rcases List.mem_append.1 hc with hc | hc
    · exact hlabel c hc
    · exact hsource c hc
  have hsecond : (caretLine position length).splitOnP breaks = [caretLine position length] := by
    apply List.splitOnP_eq_singleton
    intro c hc
    simp only [caretLine, List.mem_append, List.mem_replicate] at hc
    rcases hc with (hc | ⟨-, rfl⟩) | ⟨-, rfl⟩
    · exact hlabel c hc
    · exact hblank
    · exact hcaret
  obtain ⟨before, after, hlines⟩ := h.reportLines
  have hne : Diagnostic.reportLines {} d ≠ [] := by simp [Diagnostic.reportLines]
  refine ⟨before.flatMap (·.splitOnP breaks), after.flatMap (·.splitOnP breaks), ?_⟩
  calc before.flatMap (·.splitOnP breaks) ++ [sourceLine source, caretLine position length] ++
        after.flatMap (·.splitOnP breaks)
      = (Diagnostic.reportLines {} d).flatMap (·.splitOnP breaks) := by
        rw [← hlines]
        simp [hfirst, hsecond]
    _ = (d.render {}).splitOnP breaks := (Text.splitOnP_joined hfeed hne).symm

end Diagnostic

namespace Rule

open Diagnostic (sourceLine caretLine)

/-- **Refusals tell where the fragment is.** A rule text of admitted length that does not compile is
refused with a diagnostic, the rule text, a fragment of it and an offset. The fragment stands in the
rule text at the offset and ends before the samples. The diagnostic has the rule text as its source
and marks the fragment in it. The message of the refusal is the report of the diagnostic. Whatever
characters besides the line feed break lines, if the rule text has none of them, it is on one line
of the report, and on the line after it the carets are under the fragment, or one caret is at the
offset if the fragment is empty. -/
theorem refusal_locates_fragment {t : Text} {e : Failure} (hlength : t.length ≤ lengthLimit)
    (h : compile t = .error e) :
    ∃ (d : Diagnostic) (fragment : Text) (position : Nat),
      e = .grammar (.diagnosed d) t fragment position ∧
      position + fragment.length ≤ (t.before '@').length ∧
      t.slice position (position + fragment.length) = fragment ∧
      d.Marks t position fragment.length ∧
      e.message? = some (d.render {}) ∧
      ∀ breaks : Char → Bool, breaks '\n' = true → (∀ c ∈ " |^".toList, breaks c = false) →
        (∀ c ∈ t, breaks c = false) →
        [sourceLine t, caretLine position fragment.length] <:+: (d.render {}).splitOnP breaks := by
  obtain ⟨d, before, here, shown, htokens, hshown, rfl, hmarks⟩ := exists_shown hlength h
  obtain ⟨rest, rfl⟩ := hshown.isPrefix
  obtain ⟨hbound, hslice⟩ := Token.covered_bounds htokens
  refine ⟨d, Token.covered t shown, Token.startOf shown, rfl, hbound, hslice, hmarks, rfl, ?_⟩
  intro breaks hfeed hlabels hunbroken
  exact hmarks.lines hfeed hlabels hunbroken

/-- The diagnostic on a rule that ends where an operand is wanted. -/
def missingOperand : Diagnostic where
  code := .unexpectedEnd
  message := "Unexpected end of rule, expected an operand"
  span := some ⟨10, 10, by decide⟩
  source := some "n = 1 and @integer 1".toList
  helpUrl := some grammarPage

theorem refusal_locates_fragment_at_end :
    "n = 1 and @integer 1".toList.length ≤ lengthLimit ∧
      compile "n = 1 and @integer 1" = .error
        (.grammar (.diagnosed missingOperand) "n = 1 and @integer 1" "" 10) ∧
      (Text.before '@' "n = 1 and @integer 1").length = 10 ∧
      ["   | n = 1 and @integer 1".toList, "   |           ^".toList] <:+:
        (missingOperand.render {}).splitOnP (· == '\n') := by
  have hlength : "n = 1 and @integer 1".toList.length ≤ lengthLimit := by decide
  have h : compile "n = 1 and @integer 1" = .error
      (.grammar (.diagnosed missingOperand) "n = 1 and @integer 1" "" 10) := by cbv
  obtain ⟨d, fragment, position, heq, -, -, -, -, hlines⟩ := refusal_locates_fragment hlength h
  injection heq with hnotice _ hfragment hposition
  cases hnotice
  cases hfragment
  obtain rfl := Int.ofNat_inj.1 hposition
  exact ⟨hlength, h, rfl, hlines (· == '\n') rfl (by simp) (by simp)⟩

end Rule

end Numerus
