import Numerus.Proofs.Arrangement
import Numerus.Proofs.Decoding
import Numerus.Proofs.ProperData

/-!
What becomes of a document that is decoded.

`Document.Decodes` says it: nothing is dropped but the samples in rule texts, and nothing is put in
another order but the rules of a locale. Under tags that name no category rules are kept too, so
that building a catalog tells them.

* `Document.decodes_of_decode` — what a decoded document holds.
* `Document.build_fails_of_unknown`, `Catalog.build_append_unknown` — tags that name no category are
  told when a catalog is built.
* `Document.decoded_exactly_if_shaped` — which documents are decoded, and as what.
-/

namespace Numerus

namespace Document

/-! ### What is decoded -/

/-- `DecodesLocale locale decoded`: the locale has the name that its key is written as, and its
pairs are the tags that the keys of its rules name with the texts without samples, arranged by
category. -/
structure DecodesLocale (locale : Datum × Datum) (decoded : Text × List (Text × Text)) : Prop where
  name : locale.1.written = .ok decoded.1
  rules : ∃ rules stated, locale.2 = .mapping rules ∧ List.Forall₂ States rules stated ∧
    Arranges stated decoded.2

/-- `DecodesSection locales out`: the section holds what its locales are decoded as. A later
locale takes the place of an earlier one that is written with the same code points; where none are,
as is so if all keys are texts, the locales stand as they do in the document. -/
structure DecodesSection (locales : List (Datum × Datum)) (out : Section) : Prop where
  put_in : ∃ decoded : List (List ℕ × List (Text × Text)),
    List.Forall₂ (fun locale entry => locale.1.writtenPoints = .ok entry.1 ∧
      DecodesLocale locale (named entry)) locales decoded ∧
    out = (Entries.ofList (· == ·) decoded).map named
  in_order : (locales.Pairwise fun a b => a.1.writtenPoints ≠ b.1.writtenPoints) →
    List.Forall₂ DecodesLocale locales out
  texts_in_order : (∀ locale ∈ locales, ∃ name, locale.1 = .text name) →
    List.Forall₂ DecodesLocale locales out

/-- `Decodes entries document`: the document has a section for each family that there is something
for, in the order of the families. -/
structure Decodes (entries : List (Datum × Datum)) (document : Document) : Prop where
  families_sublist : (document.map (·.1)).Sublist Family.all
  mem_families_iff : ∀ family, family ∈ document.map (·.1) ↔ ∃ d, Stores entries family d
  sections : ∀ family out, (family, out) ∈ document →
    ∃ locales, Stores entries family (.mapping locales) ∧ DecodesSection locales out

theorem replaced_notMem_keyOpening : '\ufffd' ∉ keyOpening := by decide

theorem replaced_notMem_tags : ∀ tag ∈ Category.tags, '\ufffd' ∉ tag := by decide

/-- The key of a rule for a category is a text. -/
theorem States.key_eq_text {rule : Datum × Datum} {pair : Text × Text} (h : States rule pair)
    (hproper : rule.1.Proper) (htag : pair.1 ∈ Category.tags) :
    rule.1 = .text (keyOpening ++ pair.1) := by
  refine hproper.eq_text h.key ?_
  rw [List.mem_append, not_or]
  exact ⟨replaced_notMem_keyOpening, replaced_notMem_tags _ htag⟩

/-- Rules under different keys are for different categories. -/
theorem namesOnce_of_states {rules : List (Datum × Datum)} {stated : List (Text × Text)}
    (hproper : (Datum.mapping rules).Proper) (h : List.Forall₂ States rules stated) :
    NamesOnce stated := by
  obtain ⟨hdiffer, hkeys, -⟩ := Datum.proper_mapping_iff.1 hproper
  have hrules : rules.Pairwise fun a b => a.1.Proper ∧ b.1.Proper ∧ a.1.sameKey b.1 = false :=
    hdiffer.imp_of_mem fun ha hb hab => ⟨hkeys _ ha, hkeys _ hb, hab⟩
  refine pairwise_of_entries h hrules ?_
  rintro rule rule' pair pair' ⟨hproper, hproper', hdiffer⟩ hpair hpair' heq htag
  rw [hpair.key_eq_text hproper htag, hpair'.key_eq_text hproper' (heq ▸ htag), heq] at hdiffer
  simp [Datum.sameKey] at hdiffer

theorem Reads.decodesLocale {locale : Datum × Datum} {decoded : List ℕ × List (Text × Text)}
    (h : Reads locale decoded) (hproper : locale.2.Proper) :
    DecodesLocale locale (named decoded) := by
  obtain ⟨hpoints, rules, stated, hrules, hstated, hdecoded⟩ := h
  refine ⟨written_of_writtenPoints hpoints, rules, stated, hrules, hstated, ?_⟩
  rw [named, hdecoded]
  exact arranges_ordered (namesOnce_of_states (hrules ▸ hproper) hstated)

/-- Locales that are written differently are all kept, in their order. -/
theorem ofList_eq_self {locales : List (Datum × Datum)}
    {decoded : List (List ℕ × List (Text × Text))} (h : List.Forall₂ Reads locales decoded)
    (hdiffer : locales.Pairwise fun a b => a.1.writtenPoints ≠ b.1.writtenPoints) :
    Entries.ofList (· == ·) decoded = decoded := by
  refine Entries.ofList_of_distinct (pairwise_of_entries h hdiffer ?_)
  intro locale locale' decoded decoded' hne hdecoded hdecoded'
  rw [hdecoded.points, hdecoded'.points] at hne
  exact beq_false_of_ne fun heq => hne (congrArg Except.ok heq)

/-- Different texts are written differently. -/
theorem written_pairwise {locales : List (Datum × Datum)} (hproper : (Datum.mapping locales).Proper)
    (htexts : ∀ locale ∈ locales, ∃ name, locale.1 = .text name) :
    locales.Pairwise fun a b => a.1.writtenPoints ≠ b.1.writtenPoints := by
  refine (Datum.proper_mapping_iff.1 hproper).1.imp_of_mem ?_
  intro a b ha hb hab heq
  obtain ⟨name, hname⟩ := htexts a ha
  obtain ⟨name', hname'⟩ := htexts b hb
  rw [hname, hname'] at hab heq
  have hnames : name.map Char.toNat = name'.map Char.toNat := Except.ok.inj heq
  obtain rfl : name = name' := List.map_injective_iff.2 (fun _ _ => Char.toNat_inj.1) hnames
  simp [Datum.sameKey] at hab

theorem decodesSection_of_reads {locales : List (Datum × Datum)}
    {decoded : List (List ℕ × List (Text × Text))} (hproper : (Datum.mapping locales).Proper)
    (h : List.Forall₂ Reads locales decoded) :
    DecodesSection locales ((Entries.ofList (· == ·) decoded).map named) := by
  have hvalues := (Datum.proper_mapping_iff.1 hproper).2.2
  have hdecodes : List.Forall₂ (fun locale entry => locale.1.writtenPoints = .ok entry.1 ∧
      DecodesLocale locale (named entry)) locales decoded :=
    ((List.forall₂_and_left locales decoded).2 ⟨hvalues, h⟩).imp fun _ _ ⟨hvalue, hreads⟩ =>
      ⟨hreads.points, hreads.decodesLocale hvalue⟩
  have in_order (hdiffer : locales.Pairwise fun a b => a.1.writtenPoints ≠ b.1.writtenPoints) :
      List.Forall₂ DecodesLocale locales ((Entries.ofList (· == ·) decoded).map named) := by
    rw [ofList_eq_self h hdiffer, List.forall₂_map_right_iff]
    exact hdecodes.imp fun _ _ hentry => hentry.2
  exact ⟨⟨decoded, hdecodes, rfl⟩, in_order,
    fun htexts => in_order (written_pairwise hproper htexts)⟩

/-- What a decoded document holds. -/
theorem decodes_of_decode {entries : List (Datum × Datum)} {document : Document}
    (hproper : (Datum.mapping entries).Proper) (h : decode (.mapping entries) = .ok document) :
    Decodes entries document := by
  obtain ⟨sections, decoded, hroot, hdecoded, rfl, -⟩ := decode_eq_ok_iff.1 h
  refine ⟨map_filterMap_sublist hdecoded, fun family => ?_, fun family out hmem => ?_⟩
  · rw [List.mem_map]
    constructor
    · rintro ⟨⟨family, out⟩, hmem, rfl⟩
      cases (mem_filterMap_iff hdecoded).1 hmem with
      | present hlocales => exact ⟨_, (stores_iff hroot).2 ⟨hlocales, nofun⟩⟩
    · rintro ⟨d, hd⟩
      obtain ⟨hstored, hne⟩ := (stores_iff hroot).1 hd
      obtain ⟨out, -, hyields⟩ := exists_of_mem_entries hdecoded family.mem_all
      obtain ⟨locales, rfl⟩ := hyields.eq_some hstored hne
      exact ⟨_, (mem_filterMap_iff hdecoded).2 hyields, rfl⟩
  · cases (mem_filterMap_iff hdecoded).1 hmem with
    | present hlocales hreads =>
      refine ⟨_, (stores_iff hroot).2 ⟨hlocales, nofun⟩, decodesSection_of_reads ?_ hreads⟩
      exact (hproper.get? hroot).get? hlocales

end Document

/-! ### Unknown tags -/

/-- Where the declarations in front give a rule set, a tag that names no category is told. -/
theorem RuleSet.build_append_unknown {name tag : Text} {known : List (Text × Text)} {s : RuleSet}
    (h : build name known = .ok s) (htag : tag ∉ Category.tags) (text : Text)
    (rest : List (Text × Text)) : build name (known ++ (tag, text) :: rest) =
      refuseTag (.unknownCategory name tag) tag := by
  obtain ⟨rules, hrules, -⟩ := bind_eq_ok_iff.1 h
  have hunknown : Category.ofTag? tag = none :=
    Option.isNone_iff_eq_none.1 (Category.ofTag?_isNone_iff.2 htag)
  have hrefused : declare name rules (tag, text) = refuseTag (.unknownCategory name tag) tag := by
    simp only [declare, hunknown]
  rw [build, List.foldlM_append, hrules]
  show (List.foldlM (declare name) rules ((tag, text) :: rest) >>= _) = _
  rw [List.foldlM_cons, hrefused]
  rfl

/-- Where the data in front give a catalog, a tag that names no category is told. -/
theorem Catalog.build_append_unknown {family : Family} {before : RuleData} {key tag : Text}
    {known : List (Text × Text)} {c : Catalog}
    (h : build family (before ++ [(key, .pairs known)]) = .ok c) (htag : tag ∉ Category.tags)
    (text : Text) (rest : List (Text × Text)) (after : RuleData) :
    build family (before ++ (key, .pairs (known ++ (tag, text) :: rest)) :: after) =
      RuleSet.refuseTag (.unknownCategory (Locale.underscored key) tag) tag := by
  obtain ⟨out, hout, -⟩ := bind_eq_ok_iff.1 h
  rw [List.foldlM_append] at hout
  obtain ⟨ruleSets, hbefore, hlocale⟩ := bind_eq_ok_iff.1 hout
  rw [List.foldlM_cons] at hlocale
  obtain ⟨out', hdeclare, -⟩ := bind_eq_ok_iff.1 hlocale
  have hrefused : declare ruleSets (key, .pairs (known ++ (tag, text) :: rest)) =
      RuleSet.refuseTag (.unknownCategory (Locale.underscored key) tag) tag := by
    simp only [declare] at hdeclare ⊢
    split at hdeclare
    · exact absurd hdeclare (Complaint.raise_ne_ok _ _ _)
    · next hnew =>
      obtain ⟨s, hs, -⟩ := bind_eq_ok_iff.1 hdeclare
      rw [Declarations.toPairs] at hs ⊢
      rw [RuleSet.build_append_unknown hs htag]
      rfl
  rw [build, List.foldlM_append, hbefore]
  show (List.foldlM declare ruleSets (_ :: after) >>= _) = _
  rw [List.foldlM_cons, hrefused]
  rfl

namespace Document

/-- The rule data of a section. -/
def ruleData (out : Section) : RuleData := out.map fun locale => (locale.1, .pairs locale.2)

/-- `TellsUnknown document family out`: from the data of the section no catalog is built if a tag
in them names no category, and where nothing in front of the tag is wrong, it is told. -/
structure TellsUnknown (document : Document) (family : Family) (out : Section) : Prop where
  data_eq : data document family = .ok (ruleData out)
  not_built : ∀ locale ∈ out, ∀ pair ∈ locale.2, pair.1 ∉ Category.tags →
    ∃ e, Catalog.build family (ruleData out) = .error e ∧ e.IsOfRuleData
  told : ∀ before name known tag text rest after,
    out = before ++ (name, known ++ (tag, text) :: rest) :: after → tag ∉ Category.tags →
    (∃ c, Catalog.build family (ruleData (before ++ [(name, known)])) = .ok c) →
    Catalog.build family (ruleData out) =
      RuleSet.refuseTag (.unknownCategory (Locale.underscored name) tag) tag

theorem build_fails_of_unknown {family : Family} {out : Section}
    {locale : Text × List (Text × Text)} {pair : Text × Text} (hlocale : locale ∈ out)
    (hpair : pair ∈ locale.2) (htag : pair.1 ∉ Category.tags) :
    ∃ e, Catalog.build family (ruleData out) = .error e ∧ e.IsOfRuleData := by
  cases hbuild : Catalog.build family (ruleData out) with
  | error e => exact ⟨e, rfl, Catalog.build_failsWith family _ e hbuild⟩
  | ok c =>
    have hvalid := (Catalog.exists_build_iff.1 ⟨c, hbuild⟩).entries_valid _
      (List.mem_map_of_mem hlocale)
    obtain ⟨category, hcategory⟩ := hvalid.tags_known pair hpair
    exact absurd (Category.mem_tags_iff.2 ⟨category, hcategory⟩) htag

/-- A document with one section for each family has the data of these. -/
theorem data_of_mem {document : Document} {family : Family} {out : Section}
    (hnodup : (document.map (·.1)).Nodup) (hmem : (family, out) ∈ document) :
    document.data family = .ok (ruleData out) := by
  have hlookup : document.lookup family = some out := by
    refine (Entries.lookup_eq_some_iff fun v w hv hw => ?_).2 hmem
    exact (Prod.mk.inj (List.inj_on_of_nodup_map hnodup hv hw rfl)).2
  rw [data, hlookup]
  rfl

theorem tellsUnknown_of_decodes {entries : List (Datum × Datum)} {document : Document}
    (h : Decodes entries document) {family : Family} {out : Section}
    (hmem : (family, out) ∈ document) : TellsUnknown document family out where
  data_eq := data_of_mem (h.families_sublist.nodup (by decide)) hmem
  not_built _ hlocale _ hpair htag := build_fails_of_unknown hlocale hpair htag
  told := by
    rintro before name known tag text rest after rfl htag ⟨c, hc⟩
    rw [ruleData, List.map_append] at hc ⊢
    exact Catalog.build_append_unknown hc htag text rest _

/-- **Exactly the documents of the right shape are decoded, and nothing is dropped.** Let all that
messages quote of a document be shown. Then it is decoded if and only if the part with the sections
is a mapping, there is something in the place of one section or both, sections are mappings of
entries, and entries are mappings of rules; and otherwise it is refused with a diagnostic. What is
decoded has a section for each family that the document has one of, in the order of the families,
with all its locales and all their rules, and tags that name no category are told when a catalog is
built of it. -/
theorem decoded_exactly_if_shaped {entries : List (Datum × Datum)}
    (hproper : (Datum.mapping entries).Proper)
    (hquotable : ∀ family locales, Stores entries family (.mapping locales) → Quotable locales) :
    ((∃ document, decode (.mapping entries) = .ok document) ↔ HasShape entries) ∧
      (¬ HasShape entries → ∃ e, decode (.mapping entries) = .error e ∧ IsRefusal e) ∧
      ∀ document, decode (.mapping entries) = .ok document →
        Decodes entries document ∧
        ∀ family out, (family, out) ∈ document → TellsUnknown document family out := by
  refine ⟨exists_decode_iff hquotable, fun hnot => ?_, fun document hdocument => ?_⟩
  · cases hdecode : decode (.mapping entries) with
    | ok document => exact absurd ((exists_decode_iff hquotable).1 ⟨document, hdecode⟩) hnot
    | error e => exact ⟨e, rfl, decode_failsWith hquotable e hdecode⟩
  · have hdecodes := decodes_of_decode hproper hdocument
    exact ⟨hdecodes, fun family out hmem => tellsUnknown_of_decodes hdecodes hmem⟩

/-- The rules of a locale, the last category before the others, and one under an unknown tag. -/
def breton : List (Datum × Datum) :=
  [(.text "pluralRule-count-none", .text "n = 0"),
   (.text "pluralRule-count-other", .text " @integer 0, 5~8"),
   (.text "pluralRule-count-one", .text "i = 1 and v = 0 @integer 1")]

/-- A section that has these rules, after one with nothing in its place. -/
def bretonSections : List (Datum × Datum) :=
  [(.text "plurals-type-ordinal", .absent),
   (.text "plurals-type-cardinal", .mapping [(.text "br", .mapping breton)])]

theorem proper_bretonSections : (Datum.mapping bretonSections).Proper := by
  have habsent : Datum.absent.Proper := .other nofun nofun nofun
  simp [bretonSections, breton, Datum.proper_mapping_iff, Datum.proper_text, habsent,
    Datum.sameKey]

theorem quotable_breton : Quotable [(.text "br", .mapping breton)] := by
  apply quotable_of_texts
  · simp
  · rw [List.forall_mem_singleton]
    refine ⟨breton, rfl, ?_⟩
    rw [breton, List.forall_mem_cons, List.forall_mem_cons, List.forall_mem_singleton]
    exact ⟨⟨_, rfl⟩, ⟨_, rfl⟩, ⟨_, rfl⟩⟩

/-- The unknown tag comes last, and the rules of the categories are put in order. -/
theorem decoded_exactly_if_shaped_breton :
    ∃ entries : List (Datum × Datum), (Datum.mapping entries).Proper ∧
      (∀ family locales, Stores entries family (.mapping locales) → Quotable locales) ∧
      HasShape entries ∧
      decode (.mapping entries) = .ok [(.cardinal,
        [("br", [("one", "i = 1 and v = 0"), ("other", []), ("none", "n = 0")])])] := by
  have hproper : (Datum.mapping [(.text root, .mapping bretonSections)]).Proper :=
    Datum.proper_mapping_iff.2 ⟨List.pairwise_singleton _ _, by simp [Datum.proper_text],
      by simp [proper_bretonSections]⟩
  have hroot : Datum.get? [(.text root, .mapping bretonSections)] root =
      some (.mapping bretonSections) := rfl
  have hquotable (family : Family) (locales : List (Datum × Datum))
      (h : Stores [(.text root, .mapping bretonSections)] family (.mapping locales)) :
      Quotable locales := by
    obtain ⟨hstored, -⟩ := (stores_iff hroot).1 h
    cases family with
    | cardinal =>
      have hcardinal : Datum.get? bretonSections (sectionName .cardinal) =
          some (.mapping [(.text "br", .mapping breton)]) := rfl
      obtain rfl : [(.text "br", .mapping breton)] = locales := by simpa [hcardinal] using hstored
      exact quotable_breton
    | ordinal =>
      have hordinal : Datum.get? bretonSections (sectionName .ordinal) = some .absent := rfl
      simp [hordinal] at hstored
  have hdecode : decode (.mapping [(.text root, .mapping bretonSections)]) = .ok [(.cardinal,
      [("br", [("one", "i = 1 and v = 0"), ("other", []), ("none", "n = 0")])])] := rfl
  exact ⟨_, hproper, hquotable,
    (decoded_exactly_if_shaped hproper hquotable).1.1 ⟨_, hdecode⟩, hdecode⟩

end Document

end Numerus
