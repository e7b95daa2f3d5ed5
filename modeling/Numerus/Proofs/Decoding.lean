import Numerus.Document.Basic
import Numerus.Proofs.Validity

/-!
Which documents are decoded.

A document has the shape of one if a part of it holds a section at least, sections map locales to
entries, and entries map keys with the common opening to texts. `Document.HasShape` says so, and
documents of this shape, and no others, are decoded; the others are refused with a diagnostic, if
what it quotes can be shown. The readers of rules, entries, sections and documents are told one
after another: what they read, and how they fail.

* `Document.decodeRule_eq_ok_iff`, `Document.decodeEntry_eq_ok_iff`,
  `Document.decodeSection_eq_ok_iff`, `Document.decode_eq_ok_iff` — what the readers read.
* `Document.exists_decode_iff` — what is decoded is what has the shape.
* `Document.decode_failsWith` — other documents are refused with a diagnostic.
-/

namespace Numerus

theorem Family.mem_all (family : Family) : family ∈ Family.all := by
  cases family <;> decide

namespace Document

/-! ### The shape of a document -/

/-- Whether the key and the value are those of a rule: the key is a text with the common opening,
and the value is a text. -/
structure IsRule (rule : Datum × Datum) : Prop where
  key : ∃ tag, rule.1.text? = some (keyOpening ++ tag)
  text : ∃ text, rule.2.text? = some text

/-- Whether a datum is an entry: a mapping of rules. -/
inductive IsEntry : Datum → Prop where
  | mapping {rules : List (Datum × Datum)} : (∀ rule ∈ rules, IsRule rule) →
      IsEntry (.mapping rules)

/-- Whether a datum is a section: a mapping of entries. -/
inductive IsSection : Datum → Prop where
  | mapping {locales : List (Datum × Datum)} : (∀ locale ∈ locales, IsEntry locale.2) →
      IsSection (.mapping locales)

/-- `Stores entries family d`: in the document the part that has the sections is a mapping, and
there is something in the place of the section of `family`, namely `d`. -/
structure Stores (entries : List (Datum × Datum)) (family : Family) (d : Datum) : Prop where
  stored : ∃ sections, Datum.get? entries root = some (.mapping sections) ∧
    Datum.get? sections (sectionName family) = some d
  ne_absent : d ≠ .absent

/-- Whether a document has the shape of one: there is something in the place of one section or both,
and it is a section. -/
structure HasShape (entries : List (Datum × Datum)) : Prop where
  present : ∃ family d, Stores entries family d
  sections : ∀ family d, Stores entries family d → IsSection d

/-- Whether all that messages quote of a section can be shown: the keys of locales, what is no
mapping in the place of an entry, and the keys of what is no rule. -/
structure Quotable (locales : List (Datum × Datum)) : Prop where
  names : ∀ locale ∈ locales, ∃ name, locale.1.written = .ok name
  entries : ∀ locale ∈ locales, (∀ rules, locale.2 ≠ .mapping rules) →
    ∃ shown, locale.2.shown = .ok shown
  keys : ∀ locale ∈ locales, ∀ rules, locale.2 = .mapping rules → ∀ rule ∈ rules, ¬ IsRule rule →
    ∃ key, rule.1.written = .ok key

/-- Keys that are texts can be quoted. -/
theorem quotable_of_texts {locales : List (Datum × Datum)}
    (hnames : ∀ locale ∈ locales, ∃ name, locale.1 = .text name)
    (hentries : ∀ locale ∈ locales, ∃ rules, locale.2 = .mapping rules ∧
      ∀ rule ∈ rules, ∃ key, rule.1 = .text key) : Quotable locales where
  names locale hlocale := by
    obtain ⟨name, hname⟩ := hnames locale hlocale
    exact ⟨name, by rw [hname, Datum.written]⟩
  entries locale hlocale hnotMapping := by
    obtain ⟨rules, hrules, -⟩ := hentries locale hlocale
    exact absurd hrules (hnotMapping rules)
  keys locale hlocale rules hrules rule hrule _ := by
    obtain ⟨rules', hrules', hkeys⟩ := hentries locale hlocale
    obtain rfl : rules' = rules := Datum.mapping.inj (hrules'.symm.trans hrules)
    obtain ⟨key, hkey⟩ := hkeys rule hrule
    exact ⟨key, by rw [hkey, Datum.written]⟩

/-- Whether a failure tells by a diagnostic what is wrong with a document. -/
def IsRefusal (e : Failure) : Prop := ∃ d, e = .data (.diagnosed d)

/-! ### Rules -/

/-- `States rule pair`: the pair has the tag that the key names, and the text without samples. -/
structure States (rule : Datum × Datum) (pair : Text × Text) : Prop where
  key : rule.1.text? = some (keyOpening ++ pair.1)
  text : ∃ text, rule.2.text? = some text ∧ pair.2 = Rule.stripSamples text

theorem tagOfKey?_eq_some_iff {key tag : Text} :
    tagOfKey? key = some tag ↔ key = keyOpening ++ tag := by
  unfold tagOfKey?
  rw [Option.ite_none_right_eq_some, Option.some.injEq, List.isPrefixOf_iff_prefix]
  constructor
  · rintro ⟨⟨rest, rfl⟩, rfl⟩
    rw [List.drop_left]
  · rintro rfl
    exact ⟨List.prefix_append _ _, List.drop_left⟩

theorem exists_states_iff {rule : Datum × Datum} : (∃ pair, States rule pair) ↔ IsRule rule := by
  constructor
  · rintro ⟨pair, hkey, text, htext, -⟩
    exact ⟨⟨pair.1, hkey⟩, text, htext⟩
  · rintro ⟨⟨tag, hkey⟩, text, htext⟩
    exact ⟨(tag, _), hkey, text, htext, rfl⟩

theorem refuseEntry_ne_ok {α : Type} (localeName key : Text) (a : α) :
    refuseEntry localeName key ≠ .ok a :=
  Complaint.raise_ne_ok _ _ a

theorem decodeRule_eq_ok_iff {name : Text} {rule : Datum × Datum} {pair : Text × Text} :
    decodeRule name rule = .ok pair ↔ States rule pair := by
  unfold decodeRule
  constructor
  · intro h
    split at h
    · next tag text htag htext =>
      obtain ⟨key, hkey, htag⟩ := Option.bind_eq_some_iff.1 htag
      obtain rfl := Except.ok.inj h
      exact ⟨hkey.trans (congrArg some (tagOfKey?_eq_some_iff.1 htag)), text, htext, rfl⟩
    · obtain ⟨key, -, hrefused⟩ := bind_eq_ok_iff.1 h
      exact absurd hrefused (refuseEntry_ne_ok _ _ _)
  · rintro ⟨hkey, text, htext, hpair⟩
    have htag : rule.1.text?.bind tagOfKey? = some pair.1 := by
      rw [hkey, Option.bind_some]
      exact tagOfKey?_eq_some_iff.2 rfl
    rw [htag, htext]
    exact congrArg Except.ok (Prod.ext rfl hpair.symm)

theorem refuseEntry_failsWith {α : Type} (localeName key : Text) :
    FailsWith IsRefusal (refuseEntry localeName key : Except Failure α) :=
  .raise rfl ⟨_, rfl⟩

theorem decodeRule_failsWith (name : Text) {rule : Datum × Datum}
    (h : ¬ IsRule rule → ∃ key, rule.1.written = .ok key) :
    FailsWith IsRefusal (decodeRule name rule) := by
  by_cases hrule : IsRule rule
  · obtain ⟨pair, hpair⟩ := exists_states_iff.2 hrule
    rw [decodeRule_eq_ok_iff.2 hpair]
    exact .ok pair
  · obtain ⟨key, hkey⟩ := h hrule
    unfold decodeRule
    split
    · exact .ok _
    · rw [hkey]
      exact refuseEntry_failsWith name key

/-! ### Entries -/

/-- The name of a locale is its key written as text, once the code points are characters. -/
theorem written_of_writtenPoints {d : Datum} {points : List ℕ} (h : d.writtenPoints = .ok points) :
    d.written = .ok (points.map CodePoint.toChar) := by
  unfold Datum.writtenPoints at h
  split at h
  · obtain rfl := Except.ok.inj h
    rfl
  · obtain ⟨name, hname, h⟩ := bind_eq_ok_iff.1 h
    obtain rfl := pure_eq_ok_iff.1 h
    rw [hname, List.map_map, Function.comp_def]
    simp

theorem exists_writtenPoints {d : Datum} {name : Text} (h : d.written = .ok name) :
    ∃ points, d.writtenPoints = .ok points ∧ points.map CodePoint.toChar = name := by
  have hpoints : ∃ points, d.writtenPoints = .ok points := by
    unfold Datum.writtenPoints
    split
    · exact ⟨_, rfl⟩
    · exact ⟨_, by rw [h]; rfl⟩
  obtain ⟨points, hpoints⟩ := hpoints
  exact ⟨points, hpoints, Except.ok.inj ((written_of_writtenPoints hpoints).symm.trans h)⟩

/-- `Reads locale decoded`: the key of a locale is written with the code points, the entry states
rules, and these are put in order. -/
structure Reads (locale : Datum × Datum) (decoded : List ℕ × List (Text × Text)) : Prop where
  points : locale.1.writtenPoints = .ok decoded.1
  rules : ∃ rules stated, locale.2 = .mapping rules ∧ List.Forall₂ States rules stated ∧
    decoded.2 = ordered stated

theorem decodeEntry_eq_ok_iff {name : Text} {d : Datum} {pairs : List (Text × Text)} :
    decodeEntry name d = .ok pairs ↔ ∃ rules stated, d = .mapping rules ∧
      List.Forall₂ States rules stated ∧ pairs = ordered stated := by
  have hstates (rules : List (Datum × Datum)) (stated : List (Text × Text)) :
      rules.mapM (decodeRule name) = .ok stated ↔ List.Forall₂ States rules stated := by
    simp only [mapM_eq_ok_iff, decodeRule_eq_ok_iff]
  constructor
  · intro h
    unfold decodeEntry at h
    split at h
    · next rules =>
      obtain ⟨stated, hstated, h⟩ := bind_eq_ok_iff.1 h
      exact ⟨rules, stated, rfl, (hstates _ _).1 hstated, (pure_eq_ok_iff.1 h).symm⟩
    · obtain ⟨shown, -, hrefused⟩ := bind_eq_ok_iff.1 h
      exact absurd hrefused (refuseEntry_ne_ok _ _ _)
  · rintro ⟨rules, stated, rfl, hstated, rfl⟩
    rw [decodeEntry, (hstates _ _).2 hstated]
    rfl

theorem decodeLocale_eq_ok_iff {locales out : List (List ℕ × List (Text × Text))}
    {locale : Datum × Datum} :
    decodeLocale locales locale = .ok out ↔ ∃ decoded, Reads locale decoded ∧
      out = Entries.put (· == ·) locales decoded.1 decoded.2 := by
  simp only [decodeLocale, bind_eq_ok_iff, decodeEntry_eq_ok_iff, pure_eq_ok_iff]
  constructor
  · rintro ⟨points, hpoints, pairs, hpairs, rfl⟩
    exact ⟨(points, pairs), ⟨hpoints, hpairs⟩, rfl⟩
  · rintro ⟨decoded, ⟨hpoints, hpairs⟩, rfl⟩
    exact ⟨decoded.1, hpoints, decoded.2, hpairs, rfl⟩

/-- The locales of a section are put in one after another. -/
theorem foldlM_decodeLocale_eq_ok_iff {locales : List (Datum × Datum)}
    {out : List (List ℕ × List (Text × Text))} :
    locales.foldlM decodeLocale [] = .ok out ↔
      ∃ decoded, List.Forall₂ Reads locales decoded ∧ out = Entries.ofList (· == ·) decoded :=
  foldlM_eq_ok_iff_foldl fun before locale out =>
    (decodeLocale_eq_ok_iff : decodeLocale before locale = .ok out ↔ _)

/-- Every locale of a section is read exactly if the section has its shape. -/
theorem exists_reads_iff {locales : List (Datum × Datum)} (h : Quotable locales) :
    (∃ decoded, List.Forall₂ Reads locales decoded) ↔ IsSection (.mapping locales) := by
  rw [exists_forall₂_iff]
  constructor
  · intro hreads
    refine .mapping fun locale hlocale => ?_
    obtain ⟨decoded, -, rules, stated, hrules, hstated, -⟩ := hreads locale hlocale
    rw [hrules]
    refine .mapping fun rule hrule => exists_states_iff.1 ?_
    obtain ⟨pair, -, hpair⟩ := exists_of_mem_entries hstated hrule
    exact ⟨pair, hpair⟩
  · intro hsection locale hlocale
    obtain ⟨name, hname⟩ := h.names locale hlocale
    obtain ⟨points, hpoints, -⟩ := exists_writtenPoints hname
    cases hsection with
    | mapping hentries =>
      obtain ⟨key, entry⟩ := locale
      cases hentries _ hlocale with
      | @mapping rules hrules =>
        obtain ⟨stated, hstated⟩ :=
          exists_forall₂_iff.2 fun rule hrule => exists_states_iff.2 (hrules rule hrule)
        exact ⟨(points, ordered stated), hpoints, rules, stated, rfl, hstated, rfl⟩

theorem decodeLocale_failsWith {locales : List (Datum × Datum)} (h : Quotable locales)
    {locale : Datum × Datum} (hlocale : locale ∈ locales)
    (decoded : List (List ℕ × List (Text × Text))) :
    FailsWith IsRefusal (decodeLocale decoded locale) := by
  obtain ⟨name, hname⟩ := h.names locale hlocale
  obtain ⟨points, hpoints, rfl⟩ := exists_writtenPoints hname
  obtain ⟨key, entry⟩ := locale
  have hentry : FailsWith IsRefusal (decodeEntry (points.map CodePoint.toChar) entry) := by
    unfold decodeEntry
    split
    · next rules =>
      refine .bind (.mapM fun rule hrule => decodeRule_failsWith _ ?_) fun _ _ => .pure _
      exact h.keys _ hlocale rules rfl rule hrule
    · next hnotMapping =>
      obtain ⟨shown, hshown⟩ := h.entries _ hlocale hnotMapping
      rw [hshown]
      exact refuseEntry_failsWith _ shown
  rw [decodeLocale, hpoints]
  exact hentry.bind fun _ _ => .pure _

/-! ### Sections -/

/-- `Yields sections family out`: the section of `family` is decoded as `out`, or there is none. -/
inductive Yields (sections : List (Datum × Datum)) (family : Family) :
    Option (Family × Section) → Prop where
  | missing : (∀ d, Datum.get? sections (sectionName family) = some d → d = .absent) →
      Yields sections family none
  | present {locales : List (Datum × Datum)} {decoded : List (List ℕ × List (Text × Text))} :
      Datum.get? sections (sectionName family) = some (.mapping locales) →
      List.Forall₂ Reads locales decoded →
      Yields sections family (some (family, (Entries.ofList (· == ·) decoded).map named))

theorem decodeSection_eq_ok_iff {sections : List (Datum × Datum)} {family : Family}
    {out : Option (Family × Section)} :
    decodeSection sections family = .ok out ↔ Yields sections family out := by
  constructor
  · intro h
    unfold decodeSection at h
    split at h
    · next hnone =>
      obtain rfl := Except.ok.inj h
      exact .missing fun d hd => absurd (hnone.symm.trans hd) nofun
    · next habsent =>
      obtain rfl := Except.ok.inj h
      exact .missing fun d hd => (Option.some.inj (habsent.symm.trans hd)).symm
    · next locales hlocales =>
      obtain ⟨out, hout, h⟩ := bind_eq_ok_iff.1 h
      obtain ⟨decoded, hreads, rfl⟩ := foldlM_decodeLocale_eq_ok_iff.1 hout
      obtain rfl := pure_eq_ok_iff.1 h
      exact .present hlocales hreads
    · exact absurd h (Complaint.raise_ne_ok _ _ _)
  · rintro (hmissing | ⟨hlocales, hreads⟩)
    · unfold decodeSection
      cases hd : Datum.get? sections (sectionName family) with
      | none => rfl
      | some d =>
        obtain rfl := hmissing d hd
        rfl
    · rw [decodeSection, hlocales]
      show (_ >>= _) = _
      rw [foldlM_decodeLocale_eq_ok_iff.2 ⟨_, hreads, rfl⟩]
      rfl

theorem refuse_failsWith {α : Type} (name : Text) :
    FailsWith IsRefusal (refuse name : Except Failure α) :=
  .raise rfl ⟨_, rfl⟩

section Mapping

variable {entries sections : List (Datum × Datum)} {document : Document}

/-- Something in the place of a section is what is found there, unless it is missing. -/
theorem stores_iff (hroot : Datum.get? entries root = some (.mapping sections)) {family : Family}
    {d : Datum} : Stores entries family d ↔
      Datum.get? sections (sectionName family) = some d ∧ d ≠ .absent := by
  constructor
  · rintro ⟨⟨sections', hroot', hd⟩, hne⟩
    obtain rfl : sections = sections' := by simpa [hroot] using hroot'
    exact ⟨hd, hne⟩
  · rintro ⟨hd, hne⟩
    exact ⟨⟨sections, hroot, hd⟩, hne⟩

/-- What is in the place of a section is decoded. -/
theorem Yields.eq_some {family : Family} {out : Option (Family × Section)} {d : Datum}
    (h : Yields sections family out) (hd : Datum.get? sections (sectionName family) = some d)
    (hne : d ≠ .absent) : ∃ decoded, out = some (family, decoded) := by
  cases h with
  | missing hmissing => exact absurd (hmissing d hd) hne
  | present => exact ⟨_, rfl⟩

/-- The families of decoded sections stand in the order of all families. -/
theorem map_filterMap_sublist {families : List Family} {decoded : List (Option (Family × Section))}
    (h : List.Forall₂ (Yields sections) families decoded) :
    ((decoded.filterMap id).map (·.1)).Sublist families := by
  induction h with
  | nil => exact .slnil
  | cons hyields _ ih =>
    cases hyields with
    | missing => exact ih.cons _
    | present => exact ih.cons_cons _

theorem mem_filterMap_iff {decoded : List (Option (Family × Section))}
    (h : List.Forall₂ (Yields sections) Family.all decoded) {family : Family} {out : Section} :
    (family, out) ∈ decoded.filterMap id ↔ Yields sections family (some (family, out)) := by
  rw [List.mem_filterMap]
  constructor
  · rintro ⟨_, hmem, rfl⟩
    obtain ⟨family', -, hyields⟩ := exists_entry_of_mem h hmem
    cases hyields with
    | present hlocales hreads => exact .present hlocales hreads
  · intro hyields
    obtain ⟨out', hmem, hyields'⟩ := exists_of_mem_entries h family.mem_all
    have heq := (decodeSection_eq_ok_iff.2 hyields).symm.trans (decodeSection_eq_ok_iff.2 hyields')
    exact ⟨_, hmem, (Except.ok.inj heq).symm⟩

/-- A document is decoded if its sections are, unless there is none. -/
theorem decode_eq_ok_iff : decode (.mapping entries) = .ok document ↔
    ∃ sections decoded, Datum.get? entries root = some (.mapping sections) ∧
      List.Forall₂ (Yields sections) Family.all decoded ∧ document = decoded.filterMap id ∧
      document ≠ [] := by
  have hsections (sections : List (Datum × Datum)) (decoded : List (Option (Family × Section))) :
      Family.all.mapM (decodeSection sections) = .ok decoded ↔
        List.Forall₂ (Yields sections) Family.all decoded := by
    simp only [mapM_eq_ok_iff, decodeSection_eq_ok_iff]
  rw [decode, decodeMapping]
  constructor
  · intro h
    split at h
    · next sections hroot =>
      obtain ⟨decoded, hdecoded, h⟩ := bind_eq_ok_iff.1 h
      dsimp only at h
      split at h
      · exact absurd h (Complaint.raise_ne_ok _ _ _)
      · next hne =>
        obtain rfl := pure_eq_ok_iff.1 h
        exact ⟨sections, decoded, hroot, (hsections _ _).1 hdecoded, rfl, hne⟩
    · exact absurd h (Complaint.raise_ne_ok _ _ _)
  · rintro ⟨sections, decoded, hroot, hdecoded, rfl, hne⟩
    simp only [hroot, (hsections _ _).2 hdecoded]
    exact if_neg hne

/-- What the sections of a document yield. -/
theorem exists_yields_iff {family : Family}
    (hquotable : ∀ locales, Datum.get? sections (sectionName family) = some (.mapping locales) →
      Quotable locales) : (∃ out, Yields sections family out) ↔
      ∀ d, Datum.get? sections (sectionName family) = some d → d ≠ .absent → IsSection d := by
  constructor
  · rintro ⟨_, hmissing | ⟨hlocales, hreads⟩⟩ d hd hne
    · exact absurd (hmissing d hd) hne
    · obtain rfl := Option.some.inj (hlocales.symm.trans hd)
      exact (exists_reads_iff (hquotable _ hlocales)).1 ⟨_, hreads⟩
  · intro h
    by_cases hmissing : ∀ d, Datum.get? sections (sectionName family) = some d → d = .absent
    · exact ⟨none, .missing hmissing⟩
    · simp only [not_forall] at hmissing
      obtain ⟨d, hd, hne⟩ := hmissing
      have hsection := h d hd hne
      cases hsection with
      | mapping hentries =>
        obtain ⟨decoded, hreads⟩ := (exists_reads_iff (hquotable _ hd)).2 (.mapping hentries)
        exact ⟨_, .present hd hreads⟩

/-- Documents are decoded exactly if they have the shape of one. -/
theorem exists_decode_iff (hquotable : ∀ family locales,
    Stores entries family (.mapping locales) → Quotable locales) :
    (∃ document, decode (.mapping entries) = .ok document) ↔ HasShape entries := by
  simp only [decode_eq_ok_iff]
  constructor
  · rintro ⟨_, sections, decoded, hroot, hdecoded, rfl, hne⟩
    obtain ⟨⟨family, out⟩, hmem⟩ := List.exists_mem_of_ne_nil _ hne
    refine ⟨?_, fun family d hd => ?_⟩
    · cases (mem_filterMap_iff hdecoded).1 hmem with
      | present hlocales => exact ⟨family, _, (stores_iff hroot).2 ⟨hlocales, nofun⟩⟩
    · obtain ⟨out, -, hyields⟩ := exists_of_mem_entries hdecoded family.mem_all
      obtain ⟨hstored, hne⟩ := (stores_iff hroot).1 hd
      refine (exists_yields_iff fun locales hlocales => ?_).1 ⟨out, hyields⟩ d hstored hne
      exact hquotable family locales ((stores_iff hroot).2 ⟨hlocales, nofun⟩)
  · rintro ⟨⟨family, d, ⟨sections, hroot, hd⟩, hne⟩, hsections⟩
    have hyields (family : Family) : ∃ out, Yields sections family out := by
      refine (exists_yields_iff fun locales hlocales => ?_).2 fun d hd hne => ?_
      · exact hquotable family locales ((stores_iff hroot).2 ⟨hlocales, nofun⟩)
      · exact hsections family d ((stores_iff hroot).2 ⟨hd, hne⟩)
    obtain ⟨decoded, hdecoded⟩ :=
      exists_forall₂_iff.2 fun family (_ : family ∈ Family.all) => hyields family
    obtain ⟨out, hout⟩ := hyields family
    obtain ⟨locales, rfl⟩ := hout.eq_some hd hne
    have hmem := (mem_filterMap_iff hdecoded).2 hout
    exact ⟨_, sections, decoded, hroot, hdecoded, rfl, List.ne_nil_of_mem hmem⟩

/-- A document that is not decoded is refused with a diagnostic. -/
theorem decode_failsWith (hquotable : ∀ family locales,
    Stores entries family (.mapping locales) → Quotable locales) :
    FailsWith IsRefusal (decode (.mapping entries)) := by
  rw [decode, decodeMapping]
  split
  · next sections hroot =>
    refine .bind (.mapM fun family _ => ?_) fun _ _ => .ite (refuse_failsWith _) (.pure _)
    unfold decodeSection
    split
    · exact .ok none
    · exact .ok none
    · next locales hlocales =>
      have hlocales := hquotable family locales ((stores_iff hroot).2 ⟨hlocales, nofun⟩)
      refine .bind (.foldlM (fun decoded locale hlocale => ?_) []) fun _ _ => .pure _
      exact decodeLocale_failsWith hlocales hlocale decoded
    · exact refuse_failsWith _
  · exact refuse_failsWith _

end Mapping

end Document

end Numerus
