import Mathlib.Data.List.Nodup
import Numerus.Proofs.Build
import Numerus.Proofs.Compilation
import Numerus.Proofs.LeastCategory

/-!
Which rule data give a catalog, and what the catalog keeps of them.

Data are valid if no two keys name one locale and the declarations of every locale are valid.
Neither depends on the order in which anything is declared. From valid data, and from no others, a
catalog is built, and everything that was declared can be found in it.

* `RuleSet.exists_build_iff`, `Catalog.exists_build_iff` — what is valid is what can be built.
* `RuleData.Rearranges.isValid_iff` — the order does not matter.
* `Catalog.keeps_of_build` — what a catalog keeps.
* `Catalog.build_failsWith` — how building fails.
* `Catalog.built_from_exactly_valid_data` — all of this in one.
-/

namespace Numerus

/-- A text consists of blanks exactly if nothing is left when they are taken off its ends. -/
theorem Text.strip_eq_nil_iff {t : Text} : t.strip = [] ↔ t.isBlank = true := by
  have hall : t.isBlank = true ↔ t.dropWhile Numerus.isBlank = [] := by
    rw [List.dropWhile_eq_nil_iff, isBlank, List.all_eq_true]
  rw [hall, strip, List.reverse_eq_nil_iff]
  constructor
  · intro h
    by_contra hne
    -- the text starts with a character that is not blank, so that one is not taken off the end
    have hhead := List.head_dropWhile_not Numerus.isBlank hne
    have hmem : (t.dropWhile Numerus.isBlank).head hne ∈ (t.dropWhile Numerus.isBlank).reverse :=
      List.mem_reverse.2 (List.head_mem hne)
    have hblank := List.dropWhile_eq_nil_iff.1 h _ hmem
    simp [hhead] at hblank
  · intro h
    rw [h]
    rfl

/-! ### Valid data -/

/-- `Sets text c`: as the text of a category, `text` sets the condition `c`. A blank text sets the
condition that always holds, and any other text the one that it compiles to. -/
def RuleSet.Sets (text : Text) (c : Condition) : Prop :=
  text.strip = [] ∧ c = .always ∨ text.strip ≠ [] ∧ Rule.compile text = .ok c

/-- Whether the declarations of a locale are valid: every tag is that of a category, no tag is
declared twice, every text is blank or compiles, and that of the category for all other numbers is
blank or compiles to the condition that always holds. -/
structure Declarations.IsValid (d : Declarations) : Prop where
  tags_known : ∀ entry ∈ d.toPairs, ∃ category : Category, category.tag = entry.1
  tags_nodup : (d.toPairs.map (·.1)).Nodup
  texts_compile : ∀ entry ∈ d.toPairs,
    entry.2.strip = [] ∨ ∃ c, Rule.compile entry.2 = .ok c
  other_always : ∀ text, (Category.other.tag, text) ∈ d.toPairs →
    text.strip = [] ∨ Rule.compile text = .ok .always

/-- Whether rule data are valid: no two keys name one locale, and all declarations are valid. -/
structure RuleData.IsValid (data : RuleData) : Prop where
  names_nodup : (data.map (Locale.underscored ·.1)).Nodup
  entries_valid : ∀ entry ∈ data, entry.2.IsValid

/-! ### The order of declarations -/

/-- The entries in another order, and in each of them the pairs in another order. -/
def RuleData.Rearranges (data data' : RuleData) : Prop :=
  ∃ reordered, data.Perm reordered ∧ List.Forall₂
    (fun entry entry' => entry.1 = entry'.1 ∧ entry.2.toPairs.Perm entry'.2.toPairs)
    reordered data'

/-- Whether declarations are valid does not depend on their order. -/
theorem Declarations.isValid_iff_of_perm {d d' : Declarations}
    (h : d.toPairs.Perm d'.toPairs) : d.IsValid ↔ d'.IsValid := by
  have forward {d d' : Declarations} (h : d.toPairs.Perm d'.toPairs) (hd : d.IsValid) :
      d'.IsValid :=
    { tags_known := fun entry hentry => hd.tags_known entry (h.mem_iff.2 hentry)
      tags_nodup := (h.map _).nodup_iff.1 hd.tags_nodup
      texts_compile := fun entry hentry => hd.texts_compile entry (h.mem_iff.2 hentry)
      other_always := fun text htext => hd.other_always text (h.mem_iff.2 htext) }
  exact ⟨forward h, forward h.symm⟩

/-- Whether data are valid does not depend on the order of anything in them. -/
theorem RuleData.Rearranges.isValid_iff {data data' : RuleData} (h : Rearranges data data') :
    data.IsValid ↔ data'.IsValid := by
  obtain ⟨reordered, hperm, hpairs⟩ := h
  have hnames : (data.map (Locale.underscored ·.1)).Perm (data'.map (Locale.underscored ·.1)) := by
    have hsame : reordered.map (Locale.underscored ·.1) = data'.map (Locale.underscored ·.1) := by
      rw [← List.forall₂_eq_eq_eq, List.forall₂_map_left_iff, List.forall₂_map_right_iff]
      exact hpairs.imp fun _ _ h => congrArg Locale.underscored h.1
    rw [← hsame]
    exact hperm.map _
  constructor
  · intro hdata
    refine ⟨hnames.nodup_iff.1 hdata.names_nodup, fun entry' hentry' => ?_⟩
    obtain ⟨entry, hentry, -, hsame⟩ := exists_entry_of_mem hpairs hentry'
    have hvalid := hdata.entries_valid entry (hperm.mem_iff.2 hentry)
    exact (Declarations.isValid_iff_of_perm hsame).1 hvalid
  · intro hdata'
    refine ⟨hnames.nodup_iff.2 hdata'.names_nodup, fun entry hentry => ?_⟩
    obtain ⟨entry', hentry', -, hsame⟩ := exists_of_mem_entries hpairs (hperm.mem_iff.1 hentry)
    have hvalid := hdata'.entries_valid entry' hentry'
    exact (Declarations.isValid_iff_of_perm hsame).2 hvalid

/-! ### What can be built -/

/-- Elements can be found for all entries exactly if one can be found for each of them. -/
theorem exists_forall₂_iff {α β : Type} {R : α → β → Prop} {as : List α} :
    (∃ bs, List.Forall₂ R as bs) ↔ ∀ a ∈ as, ∃ b, R a b := by
  constructor
  · rintro ⟨bs, h⟩ a ha
    obtain ⟨b, -, hb⟩ := exists_of_mem_entries h ha
    exact ⟨b, hb⟩
  · intro h
    induction as with
    | nil => exact ⟨[], .nil⟩
    | cons a as ih =>
      obtain ⟨b, hb⟩ := h a List.mem_cons_self
      obtain ⟨bs, hbs⟩ := ih fun a' ha' => h a' (List.mem_cons_of_mem _ ha')
      exact ⟨b :: bs, .cons hb hbs⟩

namespace RuleSet

variable {name text : Text} {condition : Condition}

theorem conditionOf_eq_ok_iff : conditionOf text = .ok condition ↔ Sets text condition := by
  unfold conditionOf Sets
  by_cases h : text.strip = []
  · simp [Text.strip_eq_nil_iff.1 h, h, eq_comm]
  · simp [mt Text.strip_eq_nil_iff.2 h, h]

/-- A text sets a condition if it is blank or compiles. -/
theorem exists_sets_iff :
    (∃ c, Sets text c) ↔ text.strip = [] ∨ ∃ c, Rule.compile text = .ok c := by
  by_cases h : text.strip = []
  · simp [Sets, h]
  · simp [Sets, h]

theorem sets_always_iff :
    Sets text .always ↔ text.strip = [] ∨ Rule.compile text = .ok .always := by
  by_cases h : text.strip = []
  · simp [Sets, h]
  · simp [Sets, h]

/-- What was read has the tags of its entries. -/
theorem tags_of_declares {entries : List (Text × Text)} {rules : List (Category × Condition)}
    (h : List.Forall₂ Declares entries rules) :
    rules.map (·.1.tag) = entries.map (·.1) := by
  induction h with
  | nil => rfl
  | cons hdeclares _ ih => rw [List.map_cons, List.map_cons, ih, hdeclares.tag_eq]

/-- Different categories have different tags. -/
theorem tags_nodup_iff {rules : List (Category × Condition)} :
    (rules.map (·.1.tag)).Nodup ↔ (rules.map (·.1)).Nodup := by
  have hmap : rules.map (·.1.tag) = (rules.map (·.1)).map Category.tag := by simp
  rw [hmap]
  exact List.nodup_map_iff fun _ _ => Category.eq_of_tag_eq

/-- The declarations of a locale give a rule set exactly if they are valid. -/
theorem exists_build_iff {d : Declarations} :
    (∃ s, build name d.toPairs = .ok s) ↔ d.IsValid := by
  constructor
  · rintro ⟨s, hs⟩
    obtain ⟨rules, hrules, hnodup, -⟩ := build_eq_ok_iff.1 hs
    refine ⟨fun entry hentry => ?_, ?_, fun entry hentry => ?_, fun text htext => ?_⟩
    · obtain ⟨rule, -, hdeclares⟩ := exists_of_mem_entries hrules hentry
      exact ⟨rule.1, hdeclares.tag_eq⟩
    · rw [← tags_of_declares hrules]
      exact tags_nodup_iff.2 hnodup
    · obtain ⟨rule, -, hdeclares⟩ := exists_of_mem_entries hrules hentry
      exact exists_sets_iff.1 ⟨rule.2, conditionOf_eq_ok_iff.1 hdeclares.condition_eq⟩
    · obtain ⟨rule, -, hdeclares⟩ := exists_of_mem_entries hrules htext
      have halways := hdeclares.always_of_other (Category.eq_of_tag_eq hdeclares.tag_eq)
      exact sets_always_iff.1 (conditionOf_eq_ok_iff.1 (halways ▸ hdeclares.condition_eq))
  · intro hd
    have hentries (entry : Text × Text) (hentry : entry ∈ d.toPairs) :
        ∃ rule, Declares entry rule := by
      obtain ⟨tag, text⟩ := entry
      obtain ⟨category, rfl⟩ := hd.tags_known _ hentry
      by_cases hother : category = .other
      · subst hother
        have halways := sets_always_iff.2 (hd.other_always text hentry)
        exact ⟨(.other, .always), rfl, conditionOf_eq_ok_iff.2 halways, fun _ => rfl⟩
      · obtain ⟨c, hc⟩ := exists_sets_iff.2 (hd.texts_compile _ hentry)
        exact ⟨(category, c), rfl, conditionOf_eq_ok_iff.2 hc, fun h => absurd h hother⟩
    obtain ⟨rules, hrules⟩ := exists_forall₂_iff.2 hentries
    have hnodup : (rules.map (·.1)).Nodup := by
      rw [← tags_nodup_iff, tags_of_declares hrules]
      exact hd.tags_nodup
    exact ⟨_, build_eq_ok_iff.2 ⟨rules, hrules, hnodup, rfl⟩⟩

/-- Reading the declarations of a locale fails only by telling what is wrong with them. -/
theorem build_failsWith (name : Text) (entries : List (Text × Text)) :
    FailsWith Failure.IsOfRules (build name entries) := by
  have hdeclare (rules : List (Category × Condition)) (entry : Text × Text) :
      FailsWith Failure.IsOfRules (declare name rules entry) := by
    obtain ⟨tag, text⟩ := entry
    simp only [declare]
    split
    · exact .raise rfl ⟨_, _, _, _, rfl⟩
    · refine .ite (.raise rfl ⟨_, _, _, _, rfl⟩) (.bind ?_ fun c _ => ?_)
      · exact .ite (.ok _) (Rule.compile_failsWith text)
      · exact .ite (.raise rfl ⟨_, _, _, _, rfl⟩) (.pure _)
  exact .bind (.foldlM (fun rules entry _ => hdeclare rules entry) []) fun _ _ => .pure _

end RuleSet

/-- Whether the failure tells by a diagnostic what is wrong with rules, or that two keys name one
locale. -/
def Failure.IsOfRuleData (e : Failure) : Prop :=
  e.IsOfRules ∨ ∃ d, e = .data (.diagnosed d)

namespace Catalog

variable {family : Family} {data : RuleData} {c : Catalog}

/-- A catalog is built exactly from valid data. -/
theorem exists_build_iff : (∃ c, build family data = .ok c) ↔ data.IsValid := by
  constructor
  · rintro ⟨c, hc⟩
    obtain ⟨ruleSets, hdeclares, hnodup, -⟩ := build_eq_ok_iff.1 hc
    rw [names_of_declares hdeclares] at hnodup
    refine ⟨hnodup, fun entry hentry => ?_⟩
    obtain ⟨ruleSet, -, hruleSet⟩ := exists_of_mem_entries hdeclares hentry
    exact RuleSet.exists_build_iff.1 ⟨_, hruleSet.build_eq⟩
  · intro hdata
    have hentries (entry : Text × Declarations) (hentry : entry ∈ data) :
        ∃ ruleSet, Declares entry ruleSet := by
      obtain ⟨s, hs⟩ := RuleSet.exists_build_iff.2 (hdata.entries_valid entry hentry)
      exact ⟨(entry.1, s), rfl, hs⟩
    obtain ⟨ruleSets, hdeclares⟩ := exists_forall₂_iff.2 hentries
    have hnodup : (ruleSets.map (·.2.localeName)).Nodup := by
      rw [names_of_declares hdeclares]
      exact hdata.names_nodup
    exact ⟨_, build_eq_ok_iff.2 ⟨ruleSets, hdeclares, hnodup, rfl⟩⟩

/-- Building a catalog fails only by telling what is wrong with its data. -/
theorem build_failsWith (family : Family) (data : RuleData) :
    FailsWith Failure.IsOfRuleData (build family data) := by
  have hdeclare (ruleSets : List (Text × RuleSet)) (entry : Text × Declarations) :
      FailsWith Failure.IsOfRuleData (declare ruleSets entry) := by
    obtain ⟨key, d⟩ := entry
    simp only [declare]
    split
    · exact .raise rfl (.inr ⟨_, rfl⟩)
    · exact .bind ((RuleSet.build_failsWith _ _).mono fun _ => .inl) fun _ _ => .pure _
  exact .bind (.foldlM (fun ruleSets entry _ => hdeclare ruleSets entry) []) fun _ _ => .pure _

end Catalog

/-! ### What is kept -/

/-- What a rule set keeps of declarations: each of its categories has one rule, a declared category
that of the condition that its text sets, and the only other category is the one for all other
numbers, with the condition that always holds. -/
structure RuleSet.Keeps (s : RuleSet) (d : Declarations) : Prop where
  categories_nodup : s.categories.Nodup
  declared : ∀ category text, (category.tag, text) ∈ d.toPairs →
    ∃ condition, Sets text condition ∧ (category, condition) ∈ s.rules
  undeclared : ∀ rule ∈ s.rules, (∀ text, (rule.1.tag, text) ∉ d.toPairs) →
    rule = (.other, .always)

theorem RuleSet.keeps_of_build {name : Text} {d : Declarations} {s : RuleSet}
    (h : build name d.toPairs = .ok s) : s.Keeps d where
  categories_nodup := RuleSet.categories_nodup h
  declared category text htext := by
    have hvalid := exists_build_iff.1 ⟨s, h⟩
    obtain ⟨condition, hsets⟩ := exists_sets_iff.2 (hvalid.texts_compile _ htext)
    have hgives : d.Gives category condition :=
      .inl ⟨text, htext, conditionOf_eq_ok_iff.2 hsets⟩
    exact ⟨condition, hsets, (mem_rules_iff h).2 hgives⟩
  undeclared rule hrule hnone := by
    obtain ⟨text, htext, -⟩ | ⟨hother, halways, -⟩ := (mem_rules_iff h).1 hrule
    · exact absurd htext (hnone text)
    · exact Prod.ext hother halways

/-- What a catalog keeps of its data. It knows as many locales as the data have keys, by the names
of these, and it has rules for a name exactly if it is the name of a key, namely rules that keep
what is declared under the key. -/
structure Catalog.Keeps (c : Catalog) (data : RuleData) : Prop where
  size_eq : c.size = data.length
  names_eq : c.names = data.map (Locale.underscored ·.1)
  names_nodup : c.names.Nodup
  contains_iff_lookup : ∀ x, c.contains x = true ↔ ∃ s, c.lookup x = some s
  contains_iff_key : ∀ x, c.contains x = true ↔
    ∃ entry ∈ data, Locale.underscored entry.1 = Locale.underscored x
  rules_kept : ∀ x s, c.lookup x = some s → s.localeName = Locale.underscored x ∧
    ∀ entry ∈ data, Locale.underscored entry.1 = Locale.underscored x → s.Keeps entry.2

namespace Catalog

variable {family : Family} {data : RuleData} {c : Catalog}

theorem names_of_build (h : build family data = .ok c) :
    c.names = data.map (Locale.underscored ·.1) := by
  obtain ⟨ruleSets, hdeclares, -, rfl⟩ := build_eq_ok_iff.1 h
  rw [← names_of_declares hdeclares, names, List.map_map]
  rfl

theorem contains_iff (h : build family data = .ok c) {x : Text} :
    c.contains x = true ↔ ∃ d, RuleData.Has data x d := by
  rw [contains, Option.isSome_iff_ne_none, Ne, lookup_eq_none_iff h, not_forall_not]

theorem keeps_of_build (h : build family data = .ok c) : c.Keeps data where
  size_eq := by
    have hlength := congrArg List.length (names_of_build h)
    simpa [names, size] using hlength
  names_eq := names_of_build h
  names_nodup := by
    rw [names_of_build h]
    exact (exists_build_iff.1 ⟨c, h⟩).names_nodup
  contains_iff_lookup x := by rw [contains, Option.isSome_iff_exists]
  contains_iff_key x := by
    rw [contains_iff h]
    constructor
    · rintro ⟨d, key, hentry, hkey⟩
      exact ⟨(key, d), hentry, hkey⟩
    · rintro ⟨⟨key, d⟩, hentry, hkey⟩
      exact ⟨d, key, hentry, hkey⟩
  rules_kept x s hs := by
    obtain ⟨d, hd, hbuild⟩ := exists_of_lookup h hs
    refine ⟨localeName_of_lookup hs, fun entry hentry hkey => ?_⟩
    obtain rfl := has_unique h hd ⟨entry.1, hentry, hkey⟩
    exact RuleSet.keeps_of_build hbuild

/-- **A catalog is built from exactly the valid data and loses nothing.** Building has an answer if
and only if the data are valid, in whatever order the locales and the categories of each are
declared; the catalog then keeps its data; and for other data there is no catalog, but a diagnostic
that tells what is wrong with the rules of a locale, or that two keys name one locale. -/
theorem built_from_exactly_valid_data (family : Family) (data : RuleData) :
    ((∃ c, build family data = .ok c) ↔ data.IsValid) ∧
      (∀ data', data.Rearranges data' →
        ((∃ c, build family data' = .ok c) ↔ data.IsValid)) ∧
      (∀ c, build family data = .ok c → c.Keeps data) ∧
      (¬ data.IsValid → ∃ e, build family data = .error e ∧ e.IsOfRuleData) := by
  refine ⟨exists_build_iff, fun data' h => exists_build_iff.trans h.isValid_iff.symm,
    fun c => keeps_of_build, fun hnot => ?_⟩
  cases h : build family data with
  | ok c => exact absurd (exists_build_iff.1 ⟨c, h⟩) hnot
  | error e => exact ⟨e, rfl, build_failsWith family data e h⟩

/-- The rules of a language and of a territory are kept, also if the territory is declared first;
and nothing is built if its name stands twice in the data, spelled in two ways. -/
theorem built_from_exactly_valid_data_portuguese :
    (∃ c, build .cardinal portuguese = .ok c ∧ c.Keeps portuguese) ∧
      (∃ c, build .cardinal portuguese.reverse = .ok c) ∧
      ∃ e, build .cardinal (("pt_PT", .pairs []) :: portuguese) = .error e ∧ e.IsOfRuleData := by
  obtain ⟨hbuilt, hreordered, hkeeps, -⟩ := built_from_exactly_valid_data .cardinal portuguese
  have hvalid : portuguese.IsValid := by
    have hok : (build .cardinal portuguese).isOk = true := by cbv
    refine hbuilt.1 ?_
    cases hc : build .cardinal portuguese with
    | ok c => exact ⟨c, rfl⟩
    | error e => simp [hc, Except.isOk, Except.toBool] at hok
  obtain ⟨c, hc⟩ := hbuilt.2 hvalid
  have hreverse : portuguese.Rearranges portuguese.reverse :=
    ⟨_, (List.reverse_perm _).symm, List.forall₂_same.2 fun _ _ => ⟨rfl, .refl _⟩⟩
  have htwice : ¬ RuleData.IsValid (("pt_PT", .pairs []) :: portuguese) := fun h =>
    absurd h.names_nodup (by decide)
  exact ⟨⟨c, hc, hkeeps c hc⟩, (hreordered _ hreverse).2 hvalid,
    (built_from_exactly_valid_data .cardinal _).2.2.2 htwice⟩

end Catalog

end Numerus
