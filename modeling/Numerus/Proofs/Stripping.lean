import Numerus.Proofs.Blanks
import Numerus.Proofs.DecodedRules
import Numerus.Proofs.Restatement

/-!
Samples never matter to rules.

A document gives rule texts with samples, and decoding strips them; the compiler leaves samples out
by itself. So the rules of a locale may be taken from a document as they stand there, or be decoded
before: the rule sets are equal wherever the first way gives any.

* `RuleSet.build_stripped` — declarations give the same rules with their texts stripped.
* `Document.Quotes` — what a section says, with whole texts.
* `Document.stripped_rules_unchanged` — stripped texts and decoded documents give the same rules.
-/

namespace Numerus

/-- Declarations give the same rules with their texts stripped. -/
theorem RuleSet.build_stripped {name : Text} {entries : List (Text × Text)} {s : RuleSet}
    (hs : build name entries = .ok s) :
    build name (entries.map (Prod.map id Rule.stripSamples)) = .ok s := by
  obtain ⟨rules, hrules, hnodup, rfl⟩ := build_eq_ok_iff.1 hs
  refine build_eq_ok_iff.2 ⟨rules, ?_, hnodup, rfl⟩
  rw [List.forall₂_map_left_iff]
  refine hrules.imp fun entry rule hrule => ?_
  have hsets := conditionOf_eq_ok_iff.1 hrule.condition_eq
  exact ⟨hrule.tag_eq, conditionOf_eq_ok_iff.2 hsets.stripSamples, hrule.always_of_other⟩

namespace Document

/-! ### What a section says -/

/-- `QuotesRule rule pair`: the pair has the tag that the key names, and the text as it stands. -/
structure QuotesRule (rule : Datum × Datum) (pair : Text × Text) : Prop where
  key : rule.1.text? = some (keyOpening ++ pair.1)
  text : rule.2.text? = some pair.2

/-- `QuotesLocale locale entry`: the entry has the key of the locale as it is written, and pairs
for the rules as they stand. -/
structure QuotesLocale (locale : Datum × Datum) (entry : Text × Declarations) : Prop where
  name : locale.1.written = .ok entry.1
  rules : ∃ rules, locale.2 = .mapping rules ∧ List.Forall₂ QuotesRule rules entry.2.toPairs

/-- `Quotes locales raw`: the rule data have what the section says, with its texts as they stand. -/
def Quotes (locales : List (Datum × Datum)) (raw : RuleData) : Prop :=
  List.Forall₂ QuotesLocale locales raw

/-- What a key and a text state is what they quote, stripped. -/
theorem stripped_of_quotes {rules : List (Datum × Datum)} {pairs stated : List (Text × Text)}
    (hquotes : List.Forall₂ QuotesRule rules pairs) (hstates : List.Forall₂ States rules stated) :
    stated = pairs.map (Prod.map id Rule.stripSamples) := by
  induction hquotes generalizing stated with
  | nil =>
    cases hstates
    rfl
  | cons hquote _ ih =>
    cases hstates with
    | cons hstate hrest =>
      obtain ⟨hkey, text, htext, hstripped⟩ := hstate
      have hkeys := Option.some.inj (hkey.symm.trans hquote.key)
      obtain rfl : text = _ := Option.some.inj (htext.symm.trans hquote.text)
      have htag := List.append_cancel_left hkeys
      exact congrArg₂ List.cons (Prod.ext htag hstripped) (ih hrest)

/-- The rules of a locale are the same as they stand and as they are decoded. -/
theorem build_of_reads {locale : Datum × Datum} {entry : Text × Declarations}
    {decoded : List ℕ × List (Text × Text)} (hquotes : QuotesLocale locale entry)
    (hreads : Reads locale decoded) {name : Text} {s : RuleSet}
    (hs : RuleSet.build name entry.2.toPairs = .ok s) : RuleSet.build name decoded.2 = .ok s := by
  obtain ⟨-, rules, hrules, hpairs⟩ := hquotes
  obtain ⟨-, rules', stated, hrules', hstated, hdecoded⟩ := hreads
  obtain rfl : rules = rules' := Datum.mapping.inj (hrules.symm.trans hrules')
  have hbuild : RuleSet.build name (Declarations.pairs stated).toPairs = .ok s := by
    rw [stripped_of_quotes hpairs hstated]
    exact RuleSet.build_stripped hs
  have honce : NamesOnce stated :=
    namesOnce_of_nodup (RuleSet.exists_build_iff.1 ⟨s, hbuild⟩).tags_nodup
  have hreordered : (Declarations.pairs stated).Restates (.pairs (ordered stated)) :=
    .reordered (perm_ordered honce).symm
  rw [hdecoded]
  exact hreordered.build_eq hbuild

/-! ### Decoded documents -/

/-- The locales of a section, as they stand and as they are decoded. -/
theorem ruleData_of_reads {locales : List (Datum × Datum)} {raw : RuleData}
    {decoded : List (List ℕ × List (Text × Text))}
    (hquotes : Quotes locales raw) (hreads : List.Forall₂ Reads locales decoded) :
    List.Forall₂ (fun entry entry' => entry.1 = entry'.1 ∧ ∀ name s,
      RuleSet.build name entry.2.toPairs = .ok s → RuleSet.build name entry'.2.toPairs = .ok s)
      raw (ruleData (decoded.map named)) := by
  induction hquotes generalizing decoded with
  | nil =>
    cases hreads
    exact .nil
  | cons hquote _ ih =>
    cases hreads with
    | cons hread hrest =>
      have hname := Except.ok.inj
        (hquote.name.symm.trans (written_of_writtenPoints hread.points))
      exact .cons ⟨hname, fun _ _ hs => build_of_reads hquote hread hs⟩ (ih hrest)

/-- Locales that differ in their names are all kept. -/
theorem ofList_of_names_nodup {decoded : List (List ℕ × List (Text × Text))}
    (h : ((ruleData (decoded.map named)).map (Locale.underscored ·.1)).Nodup) :
    Entries.ofList (· == ·) decoded = decoded := by
  rw [ruleData, List.map_map, List.map_map] at h
  refine Entries.ofList_of_distinct ((List.pairwise_map.1 h).imp fun hne => ?_)
  refine beq_false_of_ne fun heq => hne ?_
  exact congrArg (fun points => Locale.underscored (points.map CodePoint.toChar)) heq

/-- A decoded document has one section for each family. -/
theorem families_nodup_of_decode {entries : List (Datum × Datum)} {document : Document}
    (h : decode (.mapping entries) = .ok document) : (document.map (·.1)).Nodup := by
  obtain ⟨sections, decoded, -, hdecoded, rfl, -⟩ := decode_eq_ok_iff.1 h
  exact (map_filterMap_sublist hdecoded).nodup (by decide)

/-- The section of a family is decoded from what its locales are read as. -/
theorem exists_reads_of_stores {entries locales : List (Datum × Datum)} {document : Document}
    {family : Family} (h : decode (.mapping entries) = .ok document)
    (hstores : Stores entries family (.mapping locales)) :
    ∃ decoded, List.Forall₂ Reads locales decoded ∧
      (family, (Entries.ofList (· == ·) decoded).map named) ∈ document := by
  obtain ⟨sections, out, hroot, hdecoded, rfl, -⟩ := decode_eq_ok_iff.1 h
  obtain ⟨hstored, hne⟩ := (stores_iff hroot).1 hstores
  obtain ⟨yielded, -, hyields⟩ := exists_of_mem_entries hdecoded family.mem_all
  cases hyields with
  | missing hmissing => exact absurd (hmissing _ hstored) hne
  | @present locales' decoded hlocales hreads =>
    obtain rfl : locales' = locales :=
      Datum.mapping.inj (Option.some.inj (hlocales.symm.trans hstored))
    exact ⟨decoded, hreads, (mem_filterMap_iff hdecoded).2 (.present hlocales hreads)⟩

/-- **Stripping samples never changes a rule.** A rule text that compiles, whatever its samples and
the blanks at its ends, compiles to the same condition once it is stripped, and then has no mark of
samples. So the section of a family gives the same catalog in two ways, if it gives one in the
first: from the texts of its rules as they stand, or from the decoded document. -/
theorem stripped_rules_unchanged :
    (∀ t c, Rule.compile t = .ok c →
      '@' ∉ Rule.stripSamples t ∧ Rule.compile (Rule.stripSamples t) = .ok c) ∧
    ∀ entries document family locales raw c, decode (.mapping entries) = .ok document →
      Stores entries family (.mapping locales) → Quotes locales raw →
      Catalog.build family raw = .ok c →
      ∃ decoded, document.data family = .ok decoded ∧ Catalog.build family decoded = .ok c := by
  constructor
  · intro t c h
    exact ⟨Rule.notMem_stripSamples t, Rule.compile_stripSamples h⟩
  · intro entries document family locales raw c hdecode hstores hquotes hbuild
    obtain ⟨decoded, hreads, hmem⟩ := exists_reads_of_stores hdecode hstores
    have hdecoded : Catalog.build family (ruleData (decoded.map named)) = .ok c :=
      Catalog.build_of_builds (ruleData_of_reads hquotes hreads) hbuild
    have hnodup := (Catalog.exists_build_iff.1 ⟨c, hdecoded⟩).names_nodup
    rw [ofList_of_names_nodup hnodup] at hmem
    have hdata := data_of_mem (families_nodup_of_decode hdecode) hmem
    exact ⟨ruleData (decoded.map named), hdata, hdecoded⟩

/-- The rules of a locale with samples and a tab, the last category first. -/
def sampled : List (Datum × Datum) :=
  [(.text "pluralRule-count-other", .text " @integer 2~17, 100"),
   (.text "pluralRule-count-one", .text "\ti = 1 and v = 0 @integer 1")]

/-- A section with these rules. -/
def sampledLocales : List (Datum × Datum) := [(.text "pt-PT", .mapping sampled)]

/-- A document with this section. -/
def sampledDocument : List (Datum × Datum) :=
  [(.text "supplemental", .mapping [(.text "plurals-type-cardinal", .mapping sampledLocales)])]

/-- The rules as rule data. -/
def sampledData : RuleData :=
  [("pt-PT", .pairs [("other", " @integer 2~17, 100"), ("one", "\ti = 1 and v = 0 @integer 1")])]

theorem stripped_rules_unchanged_sampled :
    (∃ c, Rule.compile "\tn = 1  @integer 1" = .ok c ∧
      Rule.compile (Rule.stripSamples "\tn = 1  @integer 1") = .ok c) ∧
    ∃ c, Catalog.build .cardinal sampledData = .ok c ∧
      ∃ document decoded, decode (.mapping sampledDocument) = .ok document ∧
        document.data .cardinal = .ok decoded ∧ Catalog.build .cardinal decoded = .ok c := by
  obtain ⟨htexts, hdocuments⟩ := stripped_rules_unchanged
  constructor
  · have hcompile : Rule.compile "\tn = 1  @integer 1" =
        .ok (.relation ⟨{ operand := .n }, [.single 1], List.cons_ne_nil _ _⟩) := by cbv
    exact ⟨_, hcompile, (htexts _ _ hcompile).2⟩
  · have hdecode : decode (.mapping sampledDocument) = .ok [(.cardinal,
        [("pt-PT", [("one", "i = 1 and v = 0"), ("other", [])])])] := rfl
    have hstores : Stores sampledDocument .cardinal (.mapping sampledLocales) :=
      ⟨⟨_, rfl, rfl⟩, by simp⟩
    have hquotes : Quotes sampledLocales sampledData :=
      .cons ⟨rfl, sampled, rfl, .cons ⟨rfl, rfl⟩ (.cons ⟨rfl, rfl⟩ .nil)⟩ .nil
    have hbuilt : (Catalog.build .cardinal sampledData).isOk = true := by cbv
    cases hbuild : Catalog.build .cardinal sampledData with
    | error e => simp [hbuild, Except.isOk, Except.toBool] at hbuilt
    | ok c =>
      obtain ⟨decoded, hdata, hdecoded⟩ :=
        hdocuments _ _ _ _ _ _ hdecode hstores hquotes hbuild
      exact ⟨c, rfl, _, decoded, hdecode, hdata, hdecoded⟩

end Document

end Numerus
