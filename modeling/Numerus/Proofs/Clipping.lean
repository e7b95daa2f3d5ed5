import Numerus.Diagnostic.Display

/-!
What clipped diagnostics tell.

A style that clips shows no more of a text than its opening. `Diagnostic.AgreeTo` relates two
diagnostics that differ only where a clipped text is cut off. A line and a record of one are those
of the other. So are the lines of a report under its heading; but the heading holds the message as
it is, and a report tells all of it.

* `Style.clip_eq` — texts that agree up to the limit are clipped to the same text.
* `Diagnostic.members_eq`, `Diagnostic.details_eq` — the parts that tell no more than openings.
* `Diagnostic.clipped_output_tells_only_openings` — what the output tells of the texts.
* `Diagnostic.report_tells_whole_message` — two reports that differ behind the limit.
-/

namespace Numerus

/-! ### Texts -/

/-- `Text.AgreeTo limit s t`: the texts are the same, or both have more than `limit` characters, of
which the first `limit` are the same. -/
inductive Text.AgreeTo (limit : Nat) : Text → Text → Prop where
  | same (t : Text) : AgreeTo limit t t
  | cut {s t : Text} : limit < s.length → limit < t.length → s.take limit = t.take limit →
      AgreeTo limit s t

/-- The opening of a text, as a part between two offsets. -/
theorem Text.span_zero (t : Text) (stop : Nat) : t.span 0 stop = t.take stop := by
  have hstop : ¬ (stop : Int) < 0 := by omega
  simp [span, place, slice, hstop]

/-- The rest of joined texts does not depend on the first of them. -/
theorem Text.exists_joined_cons (separator : Text) (ts : List Text) :
    ∃ rest, ∀ t, joined separator (t :: ts) = t ++ rest := by
  cases ts with
  | nil => exact ⟨[], fun t => by simp [joined, List.intercalate_singleton]⟩
  | cons u ts =>
    refine ⟨separator ++ joined separator (u :: ts), fun t => ?_⟩
    simp [joined, List.intercalate_cons_cons]

/-- Texts that agree up to the limit are clipped to the same text. -/
theorem Style.clip_eq {style : Style} {limit : Nat} {s t : Text} (hclips : style.clips = true)
    (hlimit : style.limit = limit) (h : Text.AgreeTo limit s t) : style.clip s = style.clip t := by
  cases h with
  | same => rfl
  | cut hs ht htake =>
    have clip_long {u : Text} (hu : limit < u.length) : style.clip u = u.take limit ++ "..." := by
      have hlong : style.clips = true ∧ style.limit < u.length := ⟨hclips, by omega⟩
      rw [clip, if_pos hlong, hlimit, Text.span_zero]
    rw [clip_long hs, clip_long ht, htake]

namespace Diagnostic

/-- `AgreeTo limit d d'`: the diagnostics agree in all but their texts. Of these, the same ones are
present in both, and they agree up to the limit. -/
structure AgreeTo (limit : Nat) (d d' : Diagnostic) : Prop where
  code_eq : d.code = d'.code
  span_eq : d.span = d'.span
  localeCode_eq : d.localeCode = d'.localeCode
  helpUrl_eq : d.helpUrl = d'.helpUrl
  severity_eq : d.severity = d'.severity
  message : Text.AgreeTo limit d.message d'.message
  source : Option.Rel (Text.AgreeTo limit) d.source d'.source
  hint : Option.Rel (Text.AgreeTo limit) d.hint d'.hint

/-- The lines of a report under its heading. -/
def details (style : Style) (d : Diagnostic) : List Text :=
  location style d ++ labelled "  = help: " ((stated d.hint).map style.clip)
    ++ labelled "  = note: see " (stated d.helpUrl)

theorem reportLines_eq (style : Style) (d : Diagnostic) :
    reportLines style d = heading style d :: details style d := rfl

theorem stated_some {t : Text} (h : t ≠ []) : stated (some t) = some t := by
  simp [stated, h]

theorem rel_refl (limit : Nat) (t : Option Text) : Option.Rel (Text.AgreeTo limit) t t := by
  cases t with
  | none => exact .none
  | some t => exact .some (.same t)

/-- Diagnostics made from one diagnostic by giving it other texts. -/
theorem agreeTo_of_texts {limit : Nat} (d : Diagnostic) {message message' : Text}
    {source source' : Option Text} (hmessage : Text.AgreeTo limit message message')
    (hsource : Option.Rel (Text.AgreeTo limit) source source') :
    { d with message, source }.AgreeTo limit { d with message := message', source := source' } :=
  ⟨rfl, rfl, rfl, rfl, rfl, hmessage, hsource, rel_refl limit d.hint⟩

/-- A text that is longer than some limit is not empty, so the same texts are stated. -/
theorem stated_rel {limit : Nat} {t t' : Option Text} (h : Option.Rel (Text.AgreeTo limit) t t') :
    Option.Rel (Text.AgreeTo limit) (stated t) (stated t') := by
  cases h with
  | none => exact .none
  | @some s s' hagree =>
    cases hagree with
    | same => exact rel_refl limit (stated (some s))
    | cut hs hs' htake =>
      have hne : s ≠ [] := List.ne_nil_of_length_pos (by omega)
      have hne' : s' ≠ [] := List.ne_nil_of_length_pos (by omega)
      rw [stated_some hne, stated_some hne']
      exact .some (.cut hs hs' htake)

section Clipped

variable {style : Style} {limit : Nat} {d d' : Diagnostic}

theorem map_clip_eq (hclips : style.clips = true) (hlimit : style.limit = limit)
    {t t' : Option Text} (h : Option.Rel (Text.AgreeTo limit) t t') :
    t.map style.clip = t'.map style.clip := by
  cases h with
  | none => rfl
  | some h => exact congrArg some (Style.clip_eq hclips hlimit h)

/-- The lines that show a part of a rule text show it clipped. -/
theorem excerpt_eq (hclips : style.clips = true) (hlimit : style.limit = limit) (span : Span)
    {t t' : Option Text} (h : Option.Rel (Text.AgreeTo limit) t t') :
    excerpt style span t = excerpt style span t' := by
  cases h with
  | none => rfl
  | some h => rw [excerpt, Style.clip_eq hclips hlimit h, excerpt]

/-- The lines under the heading of a report tell no more than openings. -/
theorem details_eq (hclips : style.clips = true) (hlimit : style.limit = limit)
    (h : d.AgreeTo limit d') : details style d = details style d' := by
  have hlocation : location style d = location style d' := by
    unfold location
    rw [h.span_eq, h.localeCode_eq]
    cases d'.span with
    | none => rfl
    | some span => simp only [excerpt_eq hclips hlimit span h.source]
  rw [details, hlocation, map_clip_eq hclips hlimit (stated_rel h.hint), h.helpUrl_eq, details]

/-- The members of a record tell no more than openings. -/
theorem members_eq (hclips : style.clips = true) (hlimit : style.limit = limit)
    (h : d.AgreeTo limit d') : members style d = members style d' := by
  have hopening : opening style d = opening style d' := by
    rw [opening, Style.clip_eq hclips hlimit h.message, h.code_eq, h.severity_eq, opening]
  rw [members, hopening, h.span_eq, map_clip_eq hclips hlimit h.source, h.localeCode_eq,
    map_clip_eq hclips hlimit (stated_rel h.hint), h.helpUrl_eq, members]

/-- Reports of diagnostics that agree up to the limit differ in the message alone. -/
theorem exists_report_eq (hclips : style.clips = true) (hlimit : style.limit = limit)
    (h : d.AgreeTo limit d') (hformat : style.format = .report) :
    ∃ before after, d.render style = before ++ d.message ++ after ∧
      d'.render style = before ++ d'.message ++ after := by
  obtain ⟨rest, hrest⟩ := Text.exists_joined_cons "\n" (details style d)
  refine ⟨style.severity d.severity ++ "[" ++ d.code.name ++ "]: ", rest, ?_, ?_⟩
  · rw [render, hformat]
    simp only [reportLines_eq, hrest, heading]
  · rw [render, hformat]
    simp only [reportLines_eq, ← details_eq hclips hlimit h, hrest, heading, ← h.severity_eq,
      ← h.code_eq]

/-- Lines and records of diagnostics that agree up to the limit are the same. -/
theorem render_eq_of_ne_report (hclips : style.clips = true) (hlimit : style.limit = limit)
    (h : d.AgreeTo limit d') (hformat : style.format ≠ .report) :
    d.render style = d'.render style := by
  unfold render
  cases hform : style.format with
  | report => exact absurd hform hformat
  | line => simp only [h.code_eq, Style.clip_eq hclips hlimit h.message]
  | record => simp only [members_eq hclips hlimit h]

/-- Whether a diagnostic can be written does not depend on what its texts are. -/
theorem check_eq (h : d.AgreeTo limit d') (format : Format) : d.check format = d'.check format := by
  have hsource : d.source.isSome = d'.source.isSome := by
    generalize d.source = t, d'.source = t', h.source = hsource
    cases hsource <;> rfl
  cases format with
  | report => rw [check, check, checkLocation, checkLocation, h.span_eq, hsource]
  | line => rfl
  | record => rw [check, check, checkOffsets, checkOffsets, h.span_eq]

/-! ### Output -/

theorem display_eq (style : Style) (d : Diagnostic) :
    d.display style = d.check style.format >>= fun _ => .ok (d.render style) := rfl

/-- Reports are the same if the messages are, or if there is no room for them. -/
theorem display_report_eq_iff (hclips : style.clips = true) (hlimit : style.limit = limit)
    (h : d.AgreeTo limit d') (hformat : style.format = .report) :
    d.display style = d'.display style ↔
      d.message = d'.message ∨ ∃ e, d.display style = .error e := by
  obtain ⟨before, after, hd, hd'⟩ := exists_report_eq hclips hlimit h hformat
  rw [display_eq, display_eq, ← check_eq h, hd, hd']
  cases d.check style.format with
  | error e => simp [bind, Except.bind]
  | ok => simp [bind, Except.bind]

end Clipped

/-- **What clipped output tells.** Let a style clip texts, and let two diagnostics agree up to its
limit: they differ in nothing but characters behind the limit of texts that are too long. Lines and
records of the two are the same, with or without colors. Reports tell no more of the rule text and
of the hint than their openings either; but they tell the whole message, so they are the same, if
there is room for them, only if the messages are. -/
theorem clipped_output_tells_only_openings {style : Style} {d d' : Diagnostic}
    (hclips : style.clips = true) (hlimit : 0 ≤ style.limit)
    (h : d.AgreeTo style.limit.toNat d') :
    (style.format ≠ .report → d.display style = d'.display style) ∧
      (style.format = .report →
        (d.display style = d'.display style ↔
          d.message = d'.message ∨ ∃ e, d.display style = .error e) ∧
        ∃ before after, d.render style = before ++ d.message ++ after ∧
          d'.render style = before ++ d'.message ++ after) := by
  have hlimit : style.limit = style.limit.toNat := (Int.toNat_of_nonneg hlimit).symm
  refine ⟨fun hformat => ?_, fun hformat =>
    ⟨display_report_eq_iff hclips hlimit h hformat, exists_report_eq hclips hlimit h hformat⟩⟩
  rw [display_eq, display_eq, check_eq h, render_eq_of_ne_report hclips hlimit h hformat]

/-- A diagnostic of a range, which does not tell the range. -/
def announcement : Diagnostic :=
  { code := .invalidRange
    message := "Invalid range"
    span := some ⟨4, 6, by decide⟩
    hint := some "Ranges are written low..high with low <= high" }

/-- A diagnostic that tells a range that is kept secret, in its message and in the rule text. -/
def telling (secret : Text) : Diagnostic :=
  { announcement with
    message := "Invalid range " ++ secret
    source := some ("n = " ++ secret) }

/-- The style that clips after four characters. -/
def clipping (format : Format) : Style := { format, clips := true, limit := 4 }

theorem telling_agreeTo : (telling "5..1").AgreeTo 4 (telling "7..3") := by
  have hmessage : Text.AgreeTo 4 ("Invalid range " ++ "5..1") ("Invalid range " ++ "7..3") :=
    .cut (by decide) (by decide) (by decide)
  have hsource : Text.AgreeTo 4 ("n = " ++ "5..1") ("n = " ++ "7..3") :=
    .cut (by decide) (by decide) (by decide)
  exact agreeTo_of_texts announcement hmessage (.some hsource)

/-- Records do not tell the secret. -/
theorem clipped_output_tells_only_openings_record :
    (telling "5..1").AgreeTo (clipping .record).limit.toNat (telling "7..3") ∧
      (telling "5..1").display (clipping .record) = (telling "7..3").display (clipping .record) := by
  have hlimit : 0 ≤ (clipping .record).limit := by decide
  have h : (telling "5..1").AgreeTo (clipping .record).limit.toNat (telling "7..3") :=
    telling_agreeTo
  exact ⟨h, (clipped_output_tells_only_openings rfl hlimit h).1 (by decide)⟩

/-- Reports tell it: their messages are not clipped. -/
theorem report_tells_whole_message :
    (telling "5..1").AgreeTo (clipping .report).limit.toNat (telling "7..3") ∧
      (telling "5..1").display (clipping .report) ≠ (telling "7..3").display (clipping .report) := by
  refine ⟨telling_agreeTo, ?_⟩
  rw [Ne, display_report_eq_iff rfl rfl telling_agreeTo rfl]
  rintro (hmessage | ⟨e, he⟩)
  · exact absurd hmessage (by decide)
  · have hcolumn : Numeral.isWritable (5 : Nat) = true := Numeral.isWritable_of_le (by decide)
    have hroom : (telling "5..1").check .report = .ok () := by
      change Numeral.write (5 : Nat) >>= _ = _
      rw [Numeral.write_eq_ok hcolumn]
      rfl
    rw [display_eq, show (clipping .report).format = .report from rfl, hroom] at he
    cases he

end Diagnostic

end Numerus
