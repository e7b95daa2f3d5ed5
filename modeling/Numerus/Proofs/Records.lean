import Numerus.Diagnostic.Display
import Numerus.Proofs.Answer
import Numerus.Proofs.JsonText

/-!
Records of diagnostics read back.

A record is a JSON object on one line. It has a member for each thing that the diagnostic tells, in
a fixed order, and is read to a mapping with these entries and no others. Texts come back as they
are, or as they were clipped. The record is written unless an offset has too many digits.

* `Diagnostic.Tells` — what a record has under which name.
* `Diagnostic.mem_map_pair_members_iff` — the members of a record are what it tells.
* `Diagnostic.record_reads_back` — a record is written, without control characters, and read back.
* `Diagnostic.far_record_not_written` — the record of a diagnostic whose offsets are too long.
-/

namespace Numerus

/-- Numbers of more digits than are written. -/
theorem Numeral.digitLimit_lt_length_iff {n : Nat} :
    Fault.digitLimit < length n ↔ powerOfTen Fault.digitLimit ≤ n := by
  rw [← Nat.not_le, ← isWritable_iff, isWritable_iff_lt, Nat.not_lt]

namespace Diagnostic

/-- `Tells style d name value`: the record of a diagnostic has `value` under `name`. -/
inductive Tells (style : Style) (d : Diagnostic) : Text → Json.Scalar → Prop
  | code : Tells style d "code" (.text d.code.name)
  | codeValue : Tells style d "code_value" (.number d.code.number)
  | message : Tells style d "message" (.text (style.clip d.message))
  | severity {t : Text} (h : d.severity = some t) : Tells style d "severity" (.text t)
  | noSeverity (h : d.severity = none) : Tells style d "severity" .null
  | start {span : Span} (h : d.span = some span) : Tells style d "start" (.number span.start)
  | stop {span : Span} (h : d.span = some span) : Tells style d "end" (.number span.stop)
  | source {t : Text} (h : d.source = some t) : Tells style d "source" (.text (style.clip t))
  | localeCode {t : Text} (h : d.localeCode = some t) (hne : t ≠ []) :
      Tells style d "locale_code" (.text t)
  | hint {t : Text} (h : d.hint = some t) (hne : t ≠ []) :
      Tells style d "hint" (.text (style.clip t))
  | helpUrl {t : Text} (h : d.helpUrl = some t) (hne : t ≠ []) :
      Tells style d "help_url" (.text t)

/-! ### Members -/

theorem mem_member_iff {key : Text} {t : Option Text} {m : Text × Json.Scalar} :
    m ∈ member key t ↔ ∃ s, t = some s ∧ m = (key, .text s) := by
  cases t <;> simp [member]

theorem mem_offsets_iff {span : Option Span} {m : Text × Json.Scalar} :
    m ∈ offsets span ↔ ∃ s, span = some s ∧
      (m = ("start".toList, .number s.start) ∨ m = ("end".toList, .number s.stop)) := by
  cases span <;> simp [offsets]

theorem stated_eq_some_iff {t : Option Text} {s : Text} :
    stated t = some s ↔ t = some s ∧ s ≠ [] := by
  simp [stated, Option.filter_eq_some_iff]

/-- The names under which records have members, in their order. -/
def memberNames : List Text :=
  ["code", "code_value", "message", "severity"] ++ ["start", "end"] ++ ["source"]
    ++ ["locale_code"] ++ ["hint"] ++ ["help_url"]

section Members

variable {style : Style} {d : Diagnostic}

theorem map_fst_members_sublist : List.Sublist ((members style d).map (·.1)) memberNames := by
  have hmember (key : Text) (t : Option Text) : List.Sublist ((member key t).map (·.1)) [key] := by
    cases t with
    | none => exact List.nil_sublist _
    | some t => exact .refl _
  have hoffsets : List.Sublist ((offsets d.span).map (·.1)) ["start".toList, "end".toList] := by
    cases d.span with
    | none => exact List.nil_sublist _
    | some span => exact .refl _
  simp only [members, List.map_append, memberNames]
  exact (((((List.Sublist.refl _).append hoffsets).append (hmember _ _)).append
    (hmember _ _)).append (hmember _ _)).append (hmember _ _)

/-- No two members of a record have the same name. -/
theorem nodup_map_fst_members : ((members style d).map (·.1)).Nodup :=
  map_fst_members_sublist.nodup (by decide)

/-- The members of a record are what it tells. -/
theorem mem_members_iff {name : Text} {value : Json.Scalar} :
    (name, value) ∈ members style d ↔ Tells style d name value := by
  simp only [members, List.mem_append, mem_member_iff, mem_offsets_iff, Option.map_eq_some_iff,
    stated_eq_some_iff, Prod.mk.injEq]
  constructor
  · rintro (((((hm | hm) | hm) | hm) | hm) | hm)
    · simp only [opening, List.mem_cons, Prod.mk.injEq, List.not_mem_nil, or_false] at hm
      rcases hm with ⟨rfl, rfl⟩ | ⟨rfl, rfl⟩ | ⟨rfl, rfl⟩ | ⟨rfl, rfl⟩
      · exact .code
      · exact .codeValue
      · exact .message
      · cases hseverity : d.severity with
        | none => exact .noSeverity hseverity
        | some t => exact .severity hseverity
    · obtain ⟨span, hspan, ⟨rfl, rfl⟩ | ⟨rfl, rfl⟩⟩ := hm
      · exact .start hspan
      · exact .stop hspan
    · obtain ⟨_, ⟨t, ht, rfl⟩, rfl, rfl⟩ := hm
      exact .source ht
    · obtain ⟨t, ⟨ht, hne⟩, rfl, rfl⟩ := hm
      exact .localeCode ht hne
    · obtain ⟨_, ⟨t, ⟨ht, hne⟩, rfl⟩, rfl, rfl⟩ := hm
      exact .hint ht hne
    · obtain ⟨t, ⟨ht, hne⟩, rfl, rfl⟩ := hm
      exact .helpUrl ht hne
  · intro h
    cases h with
    | code => simp [opening]
    | codeValue => simp [opening]
    | message => simp [opening]
    | severity h => simp [opening, h, scalar]
    | noSeverity h => simp [opening, h, scalar]
    | start h => simp [h]
    | stop h => simp [h]
    | source h => simp [h]
    | localeCode h hne => simp [h, hne]
    | hint h hne => simp [h, hne]
    | helpUrl h hne => simp [h, hne]

theorem isWritable_start {span : Span} (h : Numeral.length span.stop ≤ Fault.digitLimit) :
    Numeral.isWritable span.start = true :=
  Numeral.isWritable_iff_lt.2 (Nat.lt_of_le_of_lt span.start_le_stop
    (Numeral.isWritable_iff_lt.1 (Numeral.isWritable_iff.2 h)))

/-- The numbers of a record can be written: codes are small. -/
theorem Tells.isWritable {name : Text} {value : Json.Scalar}
    (hspan : ∀ span ∈ d.span, Numeral.length span.stop ≤ Fault.digitLimit)
    (h : Tells style d name value) : value.IsWritable := by
  cases h with
  | codeValue =>
    refine Numeral.isWritable_of_le ?_
    cases d.code <;> decide
  | start h => exact isWritable_start (hspan _ h)
  | stop h => exact Numeral.isWritable_iff.2 (hspan _ h)
  | _ => trivial

theorem checkOffsets_eq_ok
    (hspan : ∀ span ∈ d.span, Numeral.length span.stop ≤ Fault.digitLimit) :
    d.checkOffsets = .ok () := by
  unfold checkOffsets
  cases hd : d.span with
  | none => rfl
  | some span =>
    have hstop := hspan span hd
    simp only [Numeral.write_eq_ok (isWritable_start hstop),
      Numeral.write_eq_ok (Numeral.isWritable_iff.2 hstop)]
    rfl

/-- An offset of more digits than are written keeps the record from being written. -/
theorem checkOffsets_eq_error {span : Span} (hspan : d.span = some span)
    (hlong : Fault.digitLimit < Numeral.length span.stop) :
    d.checkOffsets = .error (.invalid .numberTooLong) := by
  have hstop : Numeral.write span.stop = .error (.invalid .numberTooLong) := by
    rw [Numeral.write, if_neg fun h => Nat.not_le_of_lt hlong (Numeral.isWritable_iff.1 h)]
  simp only [checkOffsets, hspan, hstop]
  cases hstart : Numeral.write span.start with
  | ok => rfl
  | error e =>
    obtain rfl := Numeral.write_failsWith _ _ hstart
    rfl

/-- Then the record is not written. -/
theorem display_eq_error {span : Span} (hformat : style.format = .record)
    (hspan : d.span = some span) (hlong : Fault.digitLimit < Numeral.length span.stop) :
    d.display style = .error (.invalid .numberTooLong) := by
  rw [display, hformat, check, checkOffsets_eq_error hspan hlong]
  rfl

end Members

/-! ### Records -/

/-- Records are read back. If its offsets have no more digits than are written, the record of a
diagnostic is written, clipped or not, without control characters; and it is read to a mapping that
has each thing the record tells under its name, once, and nothing else. -/
theorem record_reads_back {style : Style} {d : Diagnostic} (hformat : style.format = .record)
    (hspan : ∀ span ∈ d.span, Numeral.length span.stop ≤ Fault.digitLimit) :
    ∃ t entries, d.display style = .ok t ∧ (∀ c ∈ t, 0x20 ≤ c.toNat) ∧
      Json.read t = .ok (.mapping entries) ∧ (entries.map (·.1)).Nodup ∧
      ∀ key value, (key, value) ∈ entries ↔
        ∃ name scalar, Tells style d name scalar ∧ key = .text name ∧ value = scalar.datum := by
  have hdisplay : d.display style = .ok (Json.writeObject (members style d)) := by
    rw [display, hformat, check, checkOffsets_eq_ok hspan, render, hformat]
    rfl
  have hvalues : ∀ m ∈ members style d, m.2.IsWritable := fun m hm =>
    (mem_members_iff.1 hm).isWritable hspan
  have hread := Json.read_writeObject nodup_map_fst_members hvalues
  refine ⟨_, _, hdisplay, fun c => Json.le_of_mem_writeObject, hread, ?_, fun key value => ?_⟩
  · have hkeys : ((members style d).map Json.pair).map (·.1) =
        ((members style d).map (·.1)).map Datum.text := by
      simp [Json.pair, Function.comp_def]
    rw [hkeys]
    exact nodup_map_fst_members.map fun _ _ heq => Datum.text.inj heq
  · simp only [List.mem_map, Json.pair, Prod.mk.injEq, Prod.exists, mem_members_iff]
    constructor
    · rintro ⟨name, scalar, h, rfl, rfl⟩
      exact ⟨name, scalar, h, rfl, rfl⟩
    · rintro ⟨name, scalar, h, rfl, rfl⟩
      exact ⟨name, scalar, h, rfl, rfl⟩

/-- A warning in which a text has a quotation mark, a backslash and a line feed. -/
def spelling : Diagnostic :=
  { code := .invalidRange
    message := "Invalid range '\"5\\..1\n'"
    span := some ⟨4, 8, by decide⟩
    source := some "n = 5..1"
    severity := some "warning" }

/-- The style of records with texts clipped behind 17 characters. -/
def shortRecords : Style := { format := .record, clips := true, limit := 17 }

/-- The record of it is read back to the message that was clipped behind the quotation mark. -/
theorem record_reads_back_clipped :
    ∃ t entries, spelling.display shortRecords = .ok t ∧
      Json.read t = .ok (.mapping entries) ∧
      (.text "message", .text "Invalid range '\"5...") ∈ entries := by
  have hspan : ∀ span ∈ spelling.span, Numeral.length span.stop ≤ Fault.digitLimit := by
    rintro _ ⟨⟩
    exact Numeral.isWritable_iff.1 (Numeral.isWritable_of_le (by decide))
  have hformat : shortRecords.format = .record := rfl
  obtain ⟨t, entries, hdisplay, -, hread, -, hentries⟩ := record_reads_back hformat hspan
  exact ⟨t, entries, hdisplay, hread, (hentries _ _).2 ⟨_, _, .message, rfl, rfl⟩⟩

/-- The diagnostic of a rule that ends at the given offset. -/
def endsAt (position : Nat) : Diagnostic :=
  { code := .unexpectedEnd
    message := "Unexpected end of rule, expected x"
    span := some ⟨position, position, Nat.le_refl _⟩
    helpUrl := some grammarPage }

theorem display_endsAt {position : Nat} (h : powerOfTen Fault.digitLimit ≤ position) :
    (endsAt position).display { format := .record } = .error (.invalid .numberTooLong) :=
  display_eq_error rfl rfl (Numeral.digitLimit_lt_length_iff.2 h)

/-- No record is written of one whose offset has one digit too many. -/
theorem far_record_not_written :
    (endsAt (powerOfTen Fault.digitLimit)).display { format := .record } =
      .error (.invalid .numberTooLong) :=
  display_endsAt (Nat.le_refl _)

end Diagnostic

end Numerus
