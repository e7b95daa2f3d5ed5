import Mathlib.Data.List.Sort
import Numerus.Proofs.ListedNames
import Numerus.Proofs.Validity

/-!
The form of rule sets, whatever the form of their declarations.

The rules of a locale stand in the order of their categories, and the last of them always holds;
message catalogs number plural forms by this order. A rule set is determined by what its
declarations give for each category. So it stays the same if they are restated: in another order,
as a table, or with the category for all other numbers named explicitly.

* `RuleSet.isCanonical_of_build` — the order of the rules.
* `RuleSet.isNumbering_of_build` — the numbers of the categories.
* `RuleSet.build_eq_of_gives` — what determines a rule set.
* `Declarations.Restates` — the ways to restate declarations.
* `Catalog.rule_sets_canonical_however_stated` — all of this for the rule sets of a catalog.
* `Catalog.listed_name_not_numbered` — a listed name by which no plural forms are numbered.
-/

namespace Numerus

/-! ### The order of rules -/

namespace RuleSet

/-- Whether the categories stand in the order of all categories, each once, and the rules end with
one for all other numbers. -/
structure IsCanonical (s : RuleSet) : Prop where
  increasing : s.categories.Pairwise (·.rank < ·.rank)
  last_eq : s.rules.getLast? = some (.other, .always)

/-- Whether the categories, in their order, are numbered one-to-one from 0 on, and the category for
all other numbers has the last number. -/
structure IsNumbering (s : RuleSet) (numbers : List (Category × Nat)) : Prop where
  categories_eq : numbers.map (·.1) = s.categories
  places_eq : numbers.map (·.2) = List.range s.categories.length
  one_to_one : ∀ p ∈ numbers, ∀ q ∈ numbers, p.1 = q.1 ↔ p.2 = q.2
  last_eq : numbers.getLast? = some (.other, s.categories.length - 1)

variable {name : Text} {d d' : Declarations} {s : RuleSet}

/-- No category is ranked after the one for all other numbers. -/
theorem rank_le_other (category : Category) : category.rank ≤ Category.other.rank := by
  cases category <;> decide

/-- The rules that declarations give are in canonical form. -/
theorem isCanonical_of_build (h : build name d.toPairs = .ok s) : s.IsCanonical where
  increasing := List.pairwise_map.2 (rules_pairwise h)
  last_eq := by
    obtain ⟨before, after, hsplit⟩ := List.append_of_mem (always_mem_rules h)
    have hpairwise := rules_pairwise h
    rw [hsplit, List.pairwise_append, List.pairwise_cons] at hpairwise
    -- a rule after the last category would have a greater rank
    have hafter : after = [] := by
      refine List.eq_nil_iff_forall_not_mem.2 fun rule hrule => ?_
      exact absurd (hpairwise.2.1.1 rule hrule) (Nat.not_lt.2 (rank_le_other rule.1))
    rw [hsplit, hafter, List.getLast?_concat]

/-- The places of the categories number them. -/
theorem isNumbering_of_build (h : build name d.toPairs = .ok s) : s.IsNumbering s.numbered where
  categories_eq := List.zipIdx_map_fst 0 s.categories
  places_eq := by
    rw [numbered, List.zipIdx_map_snd, List.range_eq_range']
  one_to_one := by
    intro p hp q hq
    have hcategories : (s.numbered.map (·.1)).Nodup := by
      rw [numbered, List.zipIdx_map_fst]
      exact categories_nodup h
    have hplaces : (s.numbered.map (·.2)).Nodup := by
      rw [numbered, List.zipIdx_map_snd]
      exact List.nodup_range'
    constructor
    · intro heq
      rw [List.inj_on_of_nodup_map hcategories hp hq heq]
    · intro heq
      rw [List.inj_on_of_nodup_map hplaces hp hq heq]
  last_eq := by
    have hlast : s.categories.getLast? = some .other := by
      rw [categories, List.getLast?_map, (isCanonical_of_build h).last_eq]
      rfl
    rw [numbered, List.getLast?_zipIdx, hlast]
    simp

/-- Declarations that give the same conditions for all categories give the same rules. -/
theorem build_eq_of_gives (h : build name d.toPairs = .ok s) (hd' : d'.IsValid)
    (hgives : ∀ category condition, d'.Gives category condition ↔ d.Gives category condition) :
    build name d'.toPairs = .ok s := by
  obtain ⟨s', hs'⟩ := exists_build_iff.2 hd'
  have hname : s'.localeName = s.localeName :=
    (localeName_of_build hs').trans (localeName_of_build h).symm
  have hirrefl : Std.Irrefl fun rule rule' : Category × Condition => rule.1.rank < rule'.1.rank :=
    ⟨fun _ => Nat.lt_irrefl _⟩
  have hrules : s'.rules = s.rules := by
    refine (rules_pairwise hs').eq_of_mem_iff (rules_pairwise h) fun rule => ?_
    rw [mem_rules_iff hs', mem_rules_iff h, hgives]
  obtain rfl : s' = s := by
    cases s
    cases s'
    congr
  exact hs'

end RuleSet

/-! ### Ways to state declarations -/

/-- `Restates d d'`: `d'` says by other means what `d` says. -/
inductive Declarations.Restates : Declarations → Declarations → Prop where
  /-- The pairs may be put in another order. -/
  | reordered {d d' : Declarations} (h : d.toPairs.Perm d'.toPairs) : Restates d d'
  /-- A blank text may be added for the category for all other numbers, at any place. -/
  | otherNamed {d d' : Declarations} {text : Text} (hblank : text.strip = [])
      (hnone : Category.other.tag ∉ d.toPairs.map (·.1))
      (h : d'.toPairs.Perm ((Category.other.tag, text) :: d.toPairs)) : Restates d d'
  /-- Pairs may be put in a table. -/
  | tabulated (entries : List (Text × Text)) : Restates (.pairs entries) (.table entries)
  /-- All of this may be done one after another. -/
  | trans {d d' d'' : Declarations} : Restates d d' → Restates d' d'' → Restates d d''

/-- `Restates data data'`: under the same keys, the declarations in `data'` restate those in
`data`. -/
def RuleData.Restates (data data' : RuleData) : Prop :=
  List.Forall₂ (fun entry entry' => entry.1 = entry'.1 ∧ entry.2.Restates entry'.2) data data'

namespace Declarations

variable {d d' : Declarations} {text : Text} {category : Category} {condition : Condition}

theorem gives_iff_of_perm (h : d.toPairs.Perm d'.toPairs) :
    d'.Gives category condition ↔ d.Gives category condition := by
  simp only [Gives, h.mem_iff]

/-- A blank text for the category for all other numbers gives what this category has anyway. -/
theorem gives_iff_of_otherNamed (hblank : text.strip = [])
    (hnone : Category.other.tag ∉ d.toPairs.map (·.1))
    (h : d'.toPairs.Perm ((Category.other.tag, text) :: d.toPairs)) :
    d'.Gives category condition ↔ d.Gives category condition := by
  have hcondition : RuleSet.conditionOf text = .ok condition ↔ condition = .always := by
    rw [RuleSet.conditionOf_eq_ok_iff]
    simp [RuleSet.Sets, hblank]
  by_cases hother : category = .other
  · subst hother
    have hnotMem (text : Text) : (Category.other.tag, text) ∉ d.toPairs := fun hmem =>
      hnone (List.mem_map_of_mem (f := (·.1)) hmem)
    simp [Gives, h.mem_iff, hnotMem, hcondition]
  · have htag : category.tag ≠ Category.other.tag := mt Category.eq_of_tag_eq hother
    simp [Gives, h.mem_iff, htag, hother]

theorem isValid_of_otherNamed (hd : d.IsValid) (hblank : text.strip = [])
    (hnone : Category.other.tag ∉ d.toPairs.map (·.1))
    (h : d'.toPairs.Perm ((Category.other.tag, text) :: d.toPairs)) : d'.IsValid where
  tags_known entry hentry := by
    rcases List.mem_cons.1 (h.mem_iff.1 hentry) with rfl | hentry
    · exact ⟨.other, rfl⟩
    · exact hd.tags_known entry hentry
  tags_nodup := by
    rw [(h.map _).nodup_iff, List.map_cons, List.nodup_cons]
    exact ⟨hnone, hd.tags_nodup⟩
  texts_compile entry hentry := by
    rcases List.mem_cons.1 (h.mem_iff.1 hentry) with rfl | hentry
    · exact .inl hblank
    · exact hd.texts_compile entry hentry
  other_always text' htext' := by
    rcases List.mem_cons.1 (h.mem_iff.1 htext') with heq | hentry
    · obtain rfl := (Prod.mk.inj heq).2
      exact .inl hblank
    · exact absurd (List.mem_map_of_mem (f := (·.1)) hentry) hnone

/-- A table of pairs with different tags holds these pairs. -/
theorem toPairs_table {entries : List (Text × Text)} (h : (entries.map (·.1)).Nodup) :
    toPairs (.table entries) = entries := by
  refine Entries.ofList_of_distinct ((List.pairwise_map.1 h).imp fun hne => ?_)
  simpa using hne

/-- Restated declarations give the same rules. -/
theorem Restates.build_eq {name : Text} {s : RuleSet} (h : d.Restates d')
    (hs : RuleSet.build name d.toPairs = .ok s) : RuleSet.build name d'.toPairs = .ok s := by
  induction h with
  | reordered hperm =>
    have hvalid := RuleSet.exists_build_iff.1 ⟨s, hs⟩
    exact RuleSet.build_eq_of_gives hs ((isValid_iff_of_perm hperm).1 hvalid)
      fun _ _ => gives_iff_of_perm hperm
  | otherNamed hblank hnone hperm =>
    have hvalid := RuleSet.exists_build_iff.1 ⟨s, hs⟩
    exact RuleSet.build_eq_of_gives hs (isValid_of_otherNamed hvalid hblank hnone hperm)
      fun _ _ => gives_iff_of_otherNamed hblank hnone hperm
  | tabulated entries =>
    have hvalid := RuleSet.exists_build_iff.1 ⟨s, hs⟩
    have htable : toPairs (.table entries) = entries := toPairs_table hvalid.tags_nodup
    rw [htable]
    exact hs
  | trans _ _ ih ih' => exact ih' (ih hs)

end Declarations

/-! ### Catalogs -/

namespace Catalog

variable {family : Family} {data data' : RuleData} {c : Catalog}

/-- Data give the same catalog as other data under the same keys if the declarations of each locale
give the same rules. -/
theorem build_of_builds
    (h : List.Forall₂ (fun entry entry' => entry.1 = entry'.1 ∧ ∀ name s,
      RuleSet.build name entry.2.toPairs = .ok s → RuleSet.build name entry'.2.toPairs = .ok s)
      data data') (hc : build family data = .ok c) : build family data' = .ok c := by
  obtain ⟨ruleSets, hdeclares, hnodup, rfl⟩ := build_eq_ok_iff.1 hc
  refine build_eq_ok_iff.2 ⟨ruleSets, ?_, hnodup, rfl⟩
  clear hc hnodup
  induction h generalizing ruleSets with
  | nil => exact hdeclares
  | cons hentry _ ih =>
    obtain ⟨ruleSet, ruleSets, hruleSet, hrest, rfl⟩ := List.forall₂_cons_left_iff.1 hdeclares
    obtain ⟨hkey, hbuilds⟩ := hentry
    refine .cons ⟨hruleSet.key_eq.trans hkey, ?_⟩ (ih ruleSets hrest)
    exact hbuilds _ _ (hkey ▸ hruleSet.build_eq)

/-- Restated data give the same catalog. -/
theorem build_of_restates (h : data.Restates data') (hc : build family data = .ok c) :
    build family data' = .ok c :=
  build_of_builds (h.imp fun _ _ hentry => ⟨hentry.1, fun _ _ => hentry.2.build_eq⟩) hc

/-- The rules that are found for a locale are rules of the catalog. -/
theorem mem_ruleSets_of_lookup {default : Datum} {l : Locale} {s : RuleSet}
    (h : Selector.lookup ⟨c, default⟩ l = some s) : s ∈ c.ruleSets := by
  rcases Option.or_eq_some_iff.1 (Selector.lookup_eq_some h) with h | ⟨-, h⟩
  · exact List.mem_of_find?_eq_some h
  · exact List.mem_of_find?_eq_some h

/-- **Rule sets are in canonical form, however they are declared.** In a catalog built from any
data, the categories of each rule set stand in their order, and its last rule, for all other
numbers, always holds. The catalog numbers these categories one-to-one from 0 on, the one for all
other numbers last, under the name of the rule set with hyphens or underscores. So they are numbered
for each locale that is asked for by a datum, if its canonical name is that of the rule set; for a
locale of another name the categories of its language are so numbered, or it is refused as one
without rules. Restated data give equal rule sets, and so the same category for every number. -/
theorem rule_sets_canonical_however_stated (library : TagLibrary)
    (hbuild : build family data = .ok c) :
    (∀ s ∈ c.ruleSets, s.IsCanonical ∧
      (∀ x, Locale.underscored x = s.localeName →
        ∃ numbers, c.numbered x = some numbers ∧ s.IsNumbering numbers) ∧
      ∀ default locale l, Locale.ofDatum library locale = .ok l → l.name = s.localeName →
        ∃ numbers, Selector.numbered library ⟨c, default⟩ locale = .ok numbers ∧
          s.IsNumbering numbers) ∧
      (∀ default locale l, Locale.ofDatum library locale = .ok l →
        (∀ s, Selector.lookup ⟨c, default⟩ l = some s → s ∈ c.ruleSets ∧
          ∃ numbers, Selector.numbered library ⟨c, default⟩ locale = .ok numbers ∧
            s.IsNumbering numbers) ∧
        (Selector.lookup ⟨c, default⟩ l = none →
          ∃ notice, Selector.numbered library ⟨c, default⟩ locale =
            .error (.unknownRules notice l.name c.family.tag))) ∧
      ∀ data', data.Restates data' →
        ∃ c', build family data' = .ok c' ∧ c'.ruleSets = c.ruleSets ∧
          ∀ default number locale precision,
            Selector.select library ⟨c', default⟩ number locale precision =
              Selector.select library ⟨c, default⟩ number locale precision := by
  have hform (s : RuleSet) (hs : s ∈ c.ruleSets) :
      s.IsCanonical ∧ s.IsNumbering s.numbered := by
    obtain ⟨entry, -, hset⟩ := exists_of_mem_ruleSets hbuild hs
    exact ⟨RuleSet.isCanonical_of_build hset, RuleSet.isNumbering_of_build hset⟩
  have hstored (s : RuleSet) (hs : s ∈ c.ruleSets) {x : Text}
      (hx : Locale.underscored x = s.localeName) : c.lookup x = some s :=
    lookup_of_mem_ruleSets hbuild hs hx
  have hfound {default locale : Datum} {l : Locale} {s : RuleSet}
      (hl : Locale.ofDatum library locale = .ok l)
      (hlookup : Selector.lookup ⟨c, default⟩ l = some s) :
      ∃ numbers, Selector.numbered library ⟨c, default⟩ locale = .ok numbers ∧
        s.IsNumbering numbers :=
    ⟨s.numbered, Selector.numbered_eq_ok (Selector.rulesFor_eq_ok_iff.2 ⟨l, hl, hlookup⟩),
      (hform s (mem_ruleSets_of_lookup hlookup)).2⟩
  refine ⟨fun s hs => ⟨(hform s hs).1, fun x hx => ?named, fun default locale l hl hname => ?asked⟩,
    fun default locale l hl => ⟨fun s hlookup => ?found, fun hnone => ?refused⟩,
    fun data' h => ⟨c, build_of_restates h hbuild, rfl, fun _ _ _ _ => rfl⟩⟩
  case named =>
    refine ⟨s.numbered, ?_, (hform s hs).2⟩
    rw [numbered, hstored s hs hx]
    rfl
  case asked =>
    -- the name of a rule set has underscores already
    have hunderscored : Locale.underscored l.name = s.localeName := by
      obtain ⟨entry, -, hset⟩ := exists_of_mem_ruleSets hbuild hs
      rw [hname, RuleSet.localeName_of_build hset, Locale.underscored_underscored]
    refine hfound hl ?_
    rw [Selector.lookup, hstored s hs hunderscored]
    rfl
  case found => exact ⟨mem_ruleSets_of_lookup hlookup, hfound hl hlookup⟩
  case refused =>
    obtain ⟨notice, hrules⟩ := Selector.rulesFor_of_lookup_eq_none hl hnone
    refine ⟨notice, ?_⟩
    rw [Selector.numbered, hrules]
    rfl

end Catalog

/-- Rule data for a language, with the category for all other numbers left out. -/
def polish : RuleData :=
  [("pl", .pairs [("many", "v = 0 and i != 1 and i % 10 = 0..1"), ("one", "i = 1 and v = 0"),
    ("few", "v = 0 and i % 10 = 2..4 and i % 100 != 12..14")])]

/-- The same rule data as a table, in another order and with no category left out. -/
def polishTable : RuleData :=
  [("pl", .table [("one", "i = 1 and v = 0"), ("other", " "),
    ("few", "v = 0 and i % 10 = 2..4 and i % 100 != 12..14"),
    ("many", "v = 0 and i != 1 and i % 10 = 0..1")])]

theorem Catalog.rule_sets_canonical_however_stated_polish :
    ∃ c s, build .cardinal polish = .ok c ∧ s ∈ c.ruleSets ∧ s.IsCanonical ∧
      (∃ numbers, c.numbered "pl" = some numbers ∧ s.IsNumbering numbers) ∧
      (∃ numbers, Selector.numbered .standard ⟨c, .integer 3⟩ (.text "PL") = .ok numbers ∧
        s.IsNumbering numbers) ∧
      (∃ notice, Selector.numbered .standard ⟨c, .integer 3⟩ (.text "cs") =
        .error (.unknownRules notice "cs" c.family.tag)) ∧
      ∃ c', build .cardinal polishTable = .ok c' ∧ c'.ruleSets = c.ruleSets := by
  have hbuilt : (build .cardinal polish).toOption.map (fun c =>
      (c.names, (Selector.lookup ⟨c, .integer 3⟩ ⟨"cs", "cs"⟩).isNone)) =
      some ([("pl" : Text)], true) := by
    cbv
  have hpolish : Locale.ofDatum .standard (.text "PL") = .ok ⟨"pl", "pl"⟩ := by cbv
  have hczech : Locale.ofDatum .standard (.text "cs") = .ok ⟨"cs", "cs"⟩ := by cbv
  have hrestates : polish.Restates polishTable := by
    have hblank : Text.strip " " = [] := by decide
    exact .cons ⟨rfl, .trans (.tabulated _) (.otherNamed hblank (by decide) (by decide))⟩ .nil
  cases hc : build .cardinal polish with
  | error e => simp [hc, Except.toOption] at hbuilt
  | ok c =>
    obtain ⟨hnames, hnone⟩ : c.names = [("pl" : Text)] ∧
        (Selector.lookup ⟨c, .integer 3⟩ ⟨"cs", "cs"⟩).isNone = true := by
      simpa [hc, Except.toOption] using hbuilt
    obtain ⟨s, hs, hname⟩ := List.mem_map.1 (hnames ▸ List.mem_cons_self : ("pl" : Text) ∈ c.names)
    obtain ⟨hsets, hasked, hrestated⟩ := rule_sets_canonical_however_stated .standard hc
    obtain ⟨hcanonical, hnamed, hnumbered⟩ := hsets s hs
    obtain ⟨c', hc', hrules, -⟩ := hrestated _ hrestates
    exact ⟨c, s, rfl, hs, hcanonical, hnamed _ hname.symm, hnumbered _ _ _ hpolish hname.symm,
      (hasked _ _ _ hczech).2 (Option.isNone_iff_eq_none.1 hnone), c', hc', hrules⟩

/-- A rule set by whose listed name its plural forms are not numbered: the name, read as a tag, is
that of a locale without rules. -/
theorem Catalog.listed_name_not_numbered :
    ∃ c s, build .cardinal Selector.brazilian.tail = .ok c ∧ s ∈ c.ruleSets ∧
      s.localeName = ("pt_br" : Text) ∧
      c.numbered "pt_br" = some [(.one, 0), (.other, 1)] ∧
      ∃ notice, Selector.numbered .standard ⟨c, .integer 3⟩ (.text "pt_br") =
        .error (.unknownRules notice "pt_BR" "cardinal") := by
  let territory : RuleSet :=
    ⟨"pt_br", [(.one, .relation { operand := .n, ranges := [.single 1] }), (.other, .always)]⟩
  have hbuild : build .cardinal Selector.brazilian.tail = .ok ⟨.cardinal, [territory]⟩ := by
    cbv
  have hl : Locale.ofDatum .standard (.text "pt_br") = .ok ⟨"pt_BR", "pt"⟩ := by cbv
  have hnone : Selector.lookup ⟨⟨.cardinal, [territory]⟩, .integer 3⟩ ⟨"pt_BR", "pt"⟩ = none := by
    decide
  obtain ⟨notice, hrules⟩ := Selector.rulesFor_of_lookup_eq_none hl hnone
  refine ⟨_, territory, hbuild, List.mem_cons_self, rfl, by decide, notice, ?_⟩
  rw [Selector.numbered, hrules]
  rfl

end Numerus
