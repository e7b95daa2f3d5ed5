import Mathlib
import Numerus.Locale.Standard
import Numerus.Proofs.Build
import Numerus.Proofs.Shallow
import Numerus.Selection

/-!
The category of a number is the least one that applies.

The rules of a locale are tried in the order of their categories until one holds, and the last one
always does. So the category that is selected is the first, in the order of all categories, whose
condition in the rule data holds. The order of the data does not matter.

* `RuleSet.find?_eq_some` — some rule holds, and all rules of lesser categories do not.
* `Selector.lookup_eq_some` — the rules of a locale are those of its name, or of its language.
* `Selector.selects_least_category` — the category that is selected.
-/

namespace Numerus

open Condition

/-- The declarations of a locale: those under its name if there are any, and else those under its
language. -/
def RuleData.Serves (data : RuleData) (l : Locale) (d : Declarations) : Prop :=
  RuleData.Has data l.name d ∨
    (∀ d', ¬ RuleData.Has data l.name d') ∧ RuleData.Has data l.language d

/-- `d.Picks o category`: of the categories to which the declarations give a condition that is
true of the operands, `category` is the first. -/
structure Declarations.Picks (d : Declarations) (o : Operands) (category : Category) : Prop where
  declared : ∃ condition, d.Gives category condition
  holds {condition : Condition} : d.Gives category condition → condition.Tells o true
  least {category' : Category} {condition : Condition} : category'.rank < category.rank →
    d.Gives category' condition → condition.Tells o false

/-! ### The rules of a locale -/

/-- The truth of a condition that rule data give is told. -/
theorem Declarations.Gives.tells {d : Declarations} {category : Category}
    {condition : Condition} (h : d.Gives category condition) (o : Operands) :
    condition.Tells o (condition.holds o) := by
  have halways : always.Tells o (always.holds o) := tells_of_depth_lt (by decide) o
  rcases h with ⟨text, -, htext⟩ | ⟨-, rfl, -⟩
  · unfold RuleSet.conditionOf at htext
    split at htext
    · obtain rfl := Except.ok.inj htext
      exact halways
    · exact Rule.tells_of_compile htext o
  · exact halways

namespace RuleSet

variable {name : Text} {d : Declarations} {s : RuleSet}

/-- Some rule holds, and all rules of lesser categories do not. -/
theorem find?_eq_some (h : build name d.toPairs = .ok s) (o : Operands) :
    ∃ category condition, s.rules.find? (·.2.holds o) = some (category, condition) ∧
      ∀ category' condition', (category', condition') ∈ s.rules →
        category'.rank < category.rank → condition'.holds o = false := by
  have hsome : (s.rules.find? (·.2.holds o)).isSome = true :=
    List.find?_isSome.2 ⟨_, always_mem_rules h, rfl⟩
  obtain ⟨⟨category, condition⟩, hfind⟩ := Option.isSome_iff_exists.1 hsome
  refine ⟨category, condition, hfind, ?_⟩
  intro category' condition' hmem hlt
  obtain ⟨-, before, after, hrules, hbefore⟩ := List.find?_eq_some_iff_append.1 hfind
  have hsorted := rules_pairwise h
  rw [hrules] at hsorted hmem
  -- a rule that stands after the one found has no lesser category
  rcases List.mem_append.1 hmem with hmem | hmem
  · simpa using hbefore _ hmem
  · have hnotlt : ¬ category'.rank < category.rank := by
      rcases List.mem_cons.1 hmem with heq | hafter
      · obtain ⟨rfl, rfl⟩ := Prod.mk.inj heq
        exact Nat.lt_irrefl _
      · have := List.rel_of_pairwise_cons (List.pairwise_append.1 hsorted).2.1 hafter
        exact Nat.not_lt.2 (Nat.le_of_lt this)
    exact absurd hlt hnotlt

/-- Trying rules whose truth is told does not fail. -/
theorem go_eq_ok {rules : List (Category × Condition)} {room : Nat} {o : Operands}
    (h : ∀ rule ∈ rules, rule.2.holdsWithin o room = .ok (rule.2.holds o)) :
    selectWithin.go room o rules =
      .ok (((rules.find? (·.2.holds o)).map (·.1)).getD .other) := by
  induction rules with
  | nil => rfl
  | cons rule rules ih =>
    rw [selectWithin.go, h rule List.mem_cons_self, List.find?_cons]
    cases rule.2.holds o with
    | true => rfl
    | false => exact ih fun rule' hmem => h rule' (List.mem_cons_of_mem _ hmem)

/-- The rules built from data tell a category. -/
theorem selectWithin_of_build (h : build name d.toPairs = .ok s) (o : Operands) {room : ℕ}
    (hroom : Rule.depthLimit + truthSteps ≤ room) : s.selectWithin room o = .ok (s.select o) :=
  go_eq_ok fun _ hmem => ((mem_rules_iff h).1 hmem).tells o room hroom

end RuleSet

/-! ### The rules that are used -/

namespace Selector

variable {library : TagLibrary} {s : Selector} {rules : RuleSet}

/-- The rules of a locale are those of its name, or else those of its language. -/
theorem lookup_eq_some {l : Locale} (h : s.lookup l = some rules) :
    (s.catalog.lookup l.name).or (s.catalog.lookup l.language) = some rules := by
  unfold lookup at h
  split at h
  · exact h
  · rw [Option.or_none] at h
    rw [h]
    rfl

theorem rulesFor_eq_ok_iff {locale : Datum} : s.rulesFor library locale = .ok rules ↔
    ∃ l, Locale.ofDatum library locale = .ok l ∧ s.lookup l = some rules := by
  unfold rulesFor
  rw [bind_eq_ok_iff]
  refine exists_congr fun l => and_congr_right fun _ => ?_
  cases s.lookup l with
  | none => simp
  | some rules' => simp [pure_eq_ok_iff]

theorem numbered_eq_ok {locale : Datum} (hrules : s.rulesFor library locale = .ok rules) :
    s.numbered library locale = .ok rules.numbered := by
  rw [numbered, hrules]
  rfl

theorem select_eq_ok {number locale : Datum} {o : Operands} (precision : Datum)
    (ho : Operands.of number (s.precisionOr precision) = .ok o)
    (hrules : s.rulesFor library locale = .ok rules) :
    s.select library number locale precision = .ok (rules.select o) := by
  rw [select, ho, hrules]
  rfl

end Selector

/-- The rule set found for a locale is built from the declarations that serve it, and from no
others. -/
theorem Catalog.serves_of_lookup {family : Family} {data : RuleData} {c : Catalog} {l : Locale}
    {s : RuleSet} (h : build family data = .ok c)
    (hs : (c.lookup l.name).or (c.lookup l.language) = some s) :
    ∃ d, (∀ d', RuleData.Serves data l d' ↔ d' = d) ∧
      RuleSet.build s.localeName d.toPairs = .ok s := by
  rcases Option.or_eq_some_iff.1 hs with hname | ⟨hnone, hlanguage⟩
  · obtain ⟨d, hd, hbuild⟩ := (lookup_eq_some_iff h).1 hname
    refine ⟨d, fun d' => ⟨?_, ?_⟩, (RuleSet.localeName_of_build hbuild).symm ▸ hbuild⟩
    · rintro (hd' | ⟨hnot, -⟩)
      · exact has_unique h hd' hd
      · exact absurd hd (hnot d)
    · rintro rfl
      exact .inl hd
  · obtain ⟨d, hd, hbuild⟩ := (lookup_eq_some_iff h).1 hlanguage
    have hnot := (lookup_eq_none_iff h).1 hnone
    refine ⟨d, fun d' => ⟨?_, ?_⟩, (RuleSet.localeName_of_build hbuild).symm ▸ hbuild⟩
    · rintro (hd' | ⟨-, hd'⟩)
      · exact absurd hd' (hnot d')
      · exact has_unique h hd' hd
    · rintro rfl
      exact .inr ⟨hnot, hd⟩

/-- **The least category that applies is selected.** With a catalog that is built from rule data,
a locale that has rules and a number that has operands, the rules are those stored under the name
of the locale, or else under its language; one declaration in the data serves the locale; and the
category that is selected is the first to which this declaration gives a condition that is true
of the operands, wherever there is room for conditions as deep as those of rule texts. It is found
among the rules and never for want of one. -/
theorem Selector.selects_least_category {library : TagLibrary} {family : Family} {data : RuleData}
    {catalog : Catalog} {default : Datum} {rules : RuleSet} {o : Operands}
    (number locale precision : Datum)
    (hbuild : Catalog.build family data = .ok catalog)
    (hrules : rulesFor library ⟨catalog, default⟩ locale = .ok rules)
    (ho : Operands.of number (precisionOr ⟨catalog, default⟩ precision) = .ok o) :
    ∃ l d category,
      Locale.ofDatum library locale = .ok l ∧
      (catalog.lookup l.name).or (catalog.lookup l.language) = some rules ∧
      (∀ d', RuleData.Serves data l d' ↔ d' = d) ∧
      RuleSet.build rules.localeName d.toPairs = .ok rules ∧
      select library ⟨catalog, default⟩ number locale precision = .ok category ∧
      (∀ room, Rule.depthLimit + truthSteps ≤ room → rules.selectWithin room o = .ok category) ∧
      (∃ condition, rules.rules.find? (·.2.holds o) = some (category, condition)) ∧
      category ∈ rules.categories ∧
      d.Picks o category := by
  obtain ⟨l, hl, hlookup⟩ := rulesFor_eq_ok_iff.1 hrules
  have hstored := lookup_eq_some hlookup
  obtain ⟨d, hserves, hset⟩ := Catalog.serves_of_lookup hbuild hstored
  obtain ⟨category, condition, hfind, hleast⟩ := RuleSet.find?_eq_some hset o
  have hmem : (category, condition) ∈ rules.rules := List.mem_of_find?_eq_some hfind
  have hselect : rules.select o = category := by rw [RuleSet.select, hfind]; rfl
  have hholds : condition.holds o = true := by simpa using List.find?_some hfind
  refine ⟨l, d, category, hl, hstored, hserves, hset, hselect ▸ select_eq_ok precision ho hrules,
    fun _ hroom => hselect ▸ RuleSet.selectWithin_of_build hset o hroom, ⟨condition, hfind⟩,
    List.mem_map_of_mem (f := (·.1)) hmem, ?_⟩
  refine ⟨⟨condition, (RuleSet.mem_rules_iff hset).1 hmem⟩, ?_, ?_⟩
  · intro condition' hgives
    have hmem' := (RuleSet.mem_rules_iff hset).2 hgives
    obtain rfl := RuleSet.condition_unique hset hmem hmem'
    exact hholds ▸ hgives.tells o
  · intro category' condition' hlt hgives
    have hfalse := hleast category' condition' ((RuleSet.mem_rules_iff hset).2 hgives) hlt
    exact hfalse ▸ hgives.tells o

/-- Rule data for a language and one of its territories, the last category first. -/
def portuguese : RuleData :=
  [("pt", .pairs [("other", []), ("one", "i = 0..1 @integer 0, 1")]),
   ("pt-PT", .table [("other", []), ("one", "i = 1 and v = 0")])]

theorem Selector.selects_least_category_portuguese :
    ∃ catalog rules o d, Catalog.build .cardinal portuguese = .ok catalog ∧
      rulesFor .standard ⟨catalog, .integer 3⟩ (.text "PT-br") = .ok rules ∧
      Operands.of (.decimal (.finite ⟨true, 15, -1⟩)) (.integer 3) = .ok o ∧
      RuleData.Serves portuguese ⟨"pt_BR", "pt"⟩ d ∧
      select .standard ⟨catalog, .integer 3⟩ (.decimal (.finite ⟨true, 15, -1⟩)) (.text "PT-br") =
        .ok .one ∧
      d.Picks o .one := by
  let language : RuleSet :=
    ⟨"pt", [(.one, .relation { operand := .i, ranges := [{ low := 0, high := 1 }] }),
      (.other, .always)]⟩
  let territory : RuleSet :=
    ⟨"pt_PT", [(.one, .and (.relation { operand := .i, ranges := [.single 1] })
      (.relation { operand := .v, ranges := [.single 0] })), (.other, .always)]⟩
  have hbuild : Catalog.build .cardinal portuguese = .ok ⟨.cardinal, [language, territory]⟩ := by
    cbv
  have hlocale : Locale.ofDatum .standard (.text "PT-br") = .ok ⟨"pt_BR", "pt"⟩ := by cbv
  have hrules : rulesFor .standard ⟨⟨.cardinal, [language, territory]⟩, .integer 3⟩
      (.text "PT-br") = .ok language :=
    rulesFor_eq_ok_iff.2 ⟨_, hlocale, by decide⟩
  have ho : Operands.of (.decimal (.finite ⟨true, 15, -1⟩)) (.integer 3) =
      .ok ⟨⟨false, 15, -1⟩, 1, 1, 1, 5, 5, 0⟩ := by
    cbv
  obtain ⟨l, d, category, hl, -, hserves, -, hselect, -, -, -, hpicks⟩ :=
    selects_least_category _ _ .absent hbuild hrules ho
  obtain rfl : _ = l := Except.ok.inj (hlocale.symm.trans hl)
  have hone : language.select ⟨⟨false, 15, -1⟩, 1, 1, 1, 5, 5, 0⟩ = .one := by decide
  have hcategory := (Selector.select_eq_ok .absent ho hrules).symm.trans hselect
  rw [hone] at hcategory
  obtain rfl := Except.ok.inj hcategory
  exact ⟨_, _, _, d, hbuild, hrules, ho, (hserves d).2 rfl, hselect, hpicks⟩

end Numerus
