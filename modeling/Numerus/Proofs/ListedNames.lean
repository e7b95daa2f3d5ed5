import Numerus.Proofs.LeastCategory
import Numerus.Proofs.LocaleTag

/-!
Which of the names that a catalog lists lead to their rules.

A catalog lists the keys of its data with underscores for hyphens, and otherwise as they are
written. Rules are looked up by the name of a locale, in which each part has a case of its own. So
a listed name leads to its rules exactly if it is written as the locale is named. If not, the rules
of the name so written, or of the language, are taken for it, or there are none.

* `Selector.localeName_of_lookup` — the names under which rules are found.
* `Selector.listed_name_resolves_iff_canonical` — the names that lead to their rules.
* `Selector.listed_name_unresolved` — names that do not.
-/

namespace Numerus.Selector

variable {library : TagLibrary} {s : Selector} {rules : RuleSet} {l : Locale} {tag tag' : Text}

/-- The rules that are found for a locale are stored under its name or its language. -/
theorem localeName_of_lookup (hlibrary : library.IsDocumented)
    (hl : Locale.ofTag library tag = .ok l)
    (h : s.lookup l = some rules) :
    rules.localeName = l.name ∨ rules.localeName = l.language := by
  rcases Option.or_eq_some_iff.1 (lookup_eq_some h) with hname | ⟨-, hlanguage⟩
  · exact .inl ((Catalog.localeName_of_lookup hname).trans (Locale.underscored_name hlibrary hl))
  · have hname := Locale.underscored_language hlibrary hl
    exact .inr ((Catalog.localeName_of_lookup hlanguage).trans hname)

/-- The rules of a locale are the same for all tags that name it. -/
theorem rulesFor_eq_of_ofTag (hl : Locale.ofTag library tag = .ok l)
    (hl' : Locale.ofTag library tag' = .ok l) :
    s.rulesFor library (.text tag) = s.rulesFor library (.text tag') := by
  have hdatum : Locale.ofDatum library (.text tag) = Locale.ofDatum library (.text tag') :=
    hl.trans hl'.symm
  rw [rulesFor, rulesFor, hdatum]

/-- Without rules for its name or language, a locale is refused. -/
theorem rulesFor_of_lookup_eq_none {locale : Datum} (hl : Locale.ofDatum library locale = .ok l)
    (h : s.lookup l = none) :
    ∃ notice, s.rulesFor library locale =
      .error (.unknownRules notice l.name s.catalog.family.tag) := by
  rw [rulesFor, hl]
  simp only [bind, Except.bind, h]
  exact ⟨_, rfl⟩

/-- **Which listed names lead to their rules.** Let tags be read by a library that keeps to their
grammar, and let a catalog built from rule data list the name of a locale. The name, and the key
that is written for it in the data, lead to the same rules. They are the rules stored under the name
exactly if the name is written as the locale is named, each part in its own case. Otherwise they are
other rules, stored under the name so written or under the language, or the name is refused as one
without rules. -/
theorem listed_name_resolves_iff_canonical (hlibrary : library.IsDocumented) {family : Family}
    {data : RuleData} {c : Catalog} {name : Text} (default : Datum)
    (hbuild : Catalog.build family data = .ok c) (hname : name ∈ c.names)
    (hl : Locale.ofTag library name = .ok l) :
    (∀ entry ∈ data, Locale.underscored entry.1 = name → Locale.ofTag library entry.1 = .ok l ∧
      rulesFor library ⟨c, default⟩ (.text entry.1) = rulesFor library ⟨c, default⟩ (.text name)) ∧
    ∃ stored ∈ c.ruleSets, stored.localeName = name ∧
      (rulesFor library ⟨c, default⟩ (.text name) = .ok stored ↔ l.name = name) ∧
      (l.name ≠ name →
        (∃ other, rulesFor library ⟨c, default⟩ (.text name) = .ok other ∧ other.localeName ≠ name ∧
          (other.localeName = l.name ∨ other.localeName = l.language)) ∨
        ∃ notice, rulesFor library ⟨c, default⟩ (.text name) =
          .error (.unknownRules notice l.name c.family.tag)) := by
  obtain ⟨stored, hstored, rfl⟩ := List.mem_map.1 hname
  have hlookup : c.lookup stored.localeName = some stored := by
    obtain ⟨entry, -, hset⟩ := Catalog.exists_of_mem_ruleSets hbuild hstored
    refine Catalog.lookup_of_mem_ruleSets hbuild hstored ?_
    rw [RuleSet.localeName_of_build hset, Locale.underscored_underscored]
  -- rules that are stored under the name are found only if the locale is named so
  have hcanonical {rules : RuleSet} (h : lookup ⟨c, default⟩ l = some rules)
      (heq : rules.localeName = stored.localeName) : l.name = stored.localeName := by
    rcases localeName_of_lookup hlibrary hl h with hname | hlanguage
    · exact hname.symm.trans heq
    · exact Locale.name_eq_language hlibrary hl (hlanguage.symm.trans heq)
  refine ⟨fun entry _ hkey => ?_, stored, hstored, rfl, ⟨fun hrules => ?_, fun heq => ?_⟩,
    fun hne => ?_⟩
  · have hl' : Locale.ofTag library entry.1 = .ok l := Locale.ofTag_underscored.1 (hkey ▸ hl)
    exact ⟨hl', rulesFor_eq_of_ofTag hl' hl⟩
  · obtain ⟨l', hl', hfound⟩ := rulesFor_eq_ok_iff.1 hrules
    obtain rfl : l = l' := Except.ok.inj (hl.symm.trans hl')
    exact hcanonical hfound rfl
  · refine rulesFor_eq_ok_iff.2 ⟨l, hl, ?_⟩
    rw [lookup, heq, hlookup]
    rfl
  · cases hfound : lookup ⟨c, default⟩ l with
    | some other =>
      exact .inl ⟨other, rulesFor_eq_ok_iff.2 ⟨l, hl, hfound⟩, mt (hcanonical hfound) hne,
        localeName_of_lookup hlibrary hl hfound⟩
    | none => exact .inr (rulesFor_of_lookup_eq_none hl hfound)

/-- A territory leads to its own rules, by its name and as its key is written. -/
theorem listed_name_resolves_iff_canonical_portuguese :
    ∃ c stored, Catalog.build .cardinal portuguese = .ok c ∧ stored ∈ c.ruleSets ∧
      stored.localeName = ("pt_PT" : Text) ∧
      rulesFor .standard ⟨c, .integer 3⟩ (.text "pt_PT") = .ok stored ∧
      rulesFor .standard ⟨c, .integer 3⟩ (.text "pt-PT") = .ok stored := by
  have hnames : (Catalog.build .cardinal portuguese).toOption.map (·.names) =
      some [("pt" : Text), "pt_PT"] := by
    cbv
  have hl : Locale.ofTag .standard "pt_PT" = .ok ⟨"pt_PT", "pt"⟩ := by cbv
  cases hc : Catalog.build .cardinal portuguese with
  | error e => simp [hc, Except.toOption] at hnames
  | ok c =>
    have hlisted : c.names = [("pt" : Text), "pt_PT"] := by simpa [hc, Except.toOption] using hnames
    have hname : ("pt_PT" : Text) ∈ c.names := by simp [hlisted]
    obtain ⟨hkeys, stored, hmem, hstored, hresolves, -⟩ :=
      listed_name_resolves_iff_canonical TagLibrary.standard_isDocumented (.integer 3) hc hname hl
    have hkey := (hkeys _ (List.mem_cons_of_mem _ List.mem_cons_self) rfl).2
    exact ⟨c, stored, rfl, hmem, hstored, hresolves.2 rfl, hkey.trans (hresolves.2 rfl)⟩

/-- Rule data for a language and a territory, whose key is written in lower case. -/
def brazilian : RuleData :=
  [("pt", .pairs [("one", "i = 0..1")]), ("pt-br", .pairs [("one", "n = 1")])]

/-- A listed name, a tag of a locale, that does not lead to its rules. The rules of the language are
taken for it; and if there are none, it is refused as a name without rules. -/
theorem listed_name_unresolved :
    Locale.ofTag .standard "pt_br" = .ok ⟨"pt_BR", "pt"⟩ ∧
    (∃ c other, Catalog.build .cardinal brazilian = .ok c ∧ ("pt_br" : Text) ∈ c.names ∧
      rulesFor .standard ⟨c, .integer 3⟩ (.text "pt_br") = .ok other ∧
      other.localeName = ("pt" : Text)) ∧
    ∃ c notice, Catalog.build .cardinal brazilian.tail = .ok c ∧ ("pt_br" : Text) ∈ c.names ∧
      rulesFor .standard ⟨c, .integer 3⟩ (.text "pt_br") =
        .error (.unknownRules notice "pt_BR" "cardinal") := by
  let language : RuleSet :=
    ⟨"pt", [(.one, .relation { operand := .i, ranges := [{ low := 0, high := 1 }] }),
      (.other, .always)]⟩
  let territory : RuleSet :=
    ⟨"pt_br", [(.one, .relation { operand := .n, ranges := [.single 1] }), (.other, .always)]⟩
  have hbuild : Catalog.build .cardinal brazilian = .ok ⟨.cardinal, [language, territory]⟩ := by
    cbv
  have hbuild' : Catalog.build .cardinal brazilian.tail = .ok ⟨.cardinal, [territory]⟩ := by
    cbv
  have hl : Locale.ofDatum .standard (.text "pt_br") = .ok ⟨"pt_BR", "pt"⟩ := by cbv
  have hrules :
      rulesFor .standard ⟨⟨.cardinal, [language, territory]⟩, .integer 3⟩ (.text "pt_br") =
      .ok language :=
    rulesFor_eq_ok_iff.2 ⟨_, hl, rfl⟩
  have hnone : lookup ⟨⟨.cardinal, [territory]⟩, .integer 3⟩ ⟨"pt_BR", "pt"⟩ = none := by
    decide
  obtain ⟨notice, hrefused⟩ := rulesFor_of_lookup_eq_none hl hnone
  exact ⟨hl, ⟨_, language, hbuild, by decide, hrules, rfl⟩, _, notice, hbuild', by decide,
    hrefused⟩

end Numerus.Selector
