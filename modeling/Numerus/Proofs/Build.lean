import Mathlib.Data.List.Forall2
import Mathlib.Data.List.Nodup
import Numerus.Catalog.Build
import Numerus.Proofs.Answer

/-!
What catalogs are built from.

Entries of rule data are read one after another, and each adds one element to what was read
before it, under a key of its own. So a rule set is built from the declarations of its
categories, a catalog from the rule sets of its locales, and nothing is lost or added but the
category for all other numbers.

* `RuleSet.mem_rules_iff` — the rules of a rule set are what its declarations give.
* `RuleSet.rules_pairwise` — they stand in the order of their categories.
* `RuleSet.always_mem_rules` — one of them always holds.
* `Catalog.lookup_eq_some_iff` — a catalog knows the locales of its data by their names.
-/

namespace Numerus

/-! ### Reading entries one after another -/

section Reading

variable {α β κ : Type} {read : List β → α → Except Failure (List β)} {R : α → β → Prop}
  {key : β → κ} {as : List α} {bs out : List β}

/-- Reading on from `bs` adds elements for all further entries, with different keys. -/
theorem foldlM_eq_ok_iff
    (hread : ∀ bs a out, read bs a = .ok out ↔
      ∃ b, R a b ∧ key b ∉ bs.map key ∧ out = bs ++ [b])
    (hbs : (bs.map key).Nodup) : as.foldlM read bs = .ok out ↔
      ∃ added, out = bs ++ added ∧ List.Forall₂ R as added ∧ (out.map key).Nodup := by
  induction as generalizing bs with
  | nil =>
    rw [List.foldlM_nil, pure_eq_ok_iff]
    constructor
    · rintro rfl
      exact ⟨[], by simp, .nil, hbs⟩
    · rintro ⟨added, rfl, ⟨⟩, -⟩
      simp
  | cons a as ih =>
    rw [List.foldlM_cons, bind_eq_ok_iff]
    have extend {b : β} (hnew : key b ∉ bs.map key) : ((bs ++ [b]).map key).Nodup := by
      rw [List.map_append]
      exact hbs.append (List.nodup_singleton _) (by simpa using hnew)
    constructor
    · rintro ⟨_, hstep, hrest⟩
      obtain ⟨b, hb, hnew, rfl⟩ := (hread _ _ _).1 hstep
      obtain ⟨added, rfl, hadded, hnodup⟩ := (ih (extend hnew)).1 hrest
      exact ⟨b :: added, by simp, .cons hb hadded, hnodup⟩
    · rintro ⟨_, rfl, hentries, hnodup⟩
      obtain ⟨b, added, hb, hadded, rfl⟩ := List.forall₂_cons_left_iff.1 hentries
      have hnew : key b ∉ bs.map key := by
        intro hmem
        rw [List.map_append, List.map_cons] at hnodup
        exact (List.nodup_append.1 hnodup).2.2 _ hmem _ List.mem_cons_self rfl
      have hrest := (ih (extend hnew)).2 ⟨added, by simp, hadded, hnodup⟩
      exact ⟨_, (hread _ _ _).2 ⟨b, hb, hnew, rfl⟩, hrest⟩

/-- A reader that adds an element under a new key for each entry has an answer exactly if it adds
elements for all of them with different keys. -/
theorem foldlM_nil_eq_ok_iff
    (hread : ∀ bs a out, read bs a = .ok out ↔
      ∃ b, R a b ∧ key b ∉ bs.map key ∧ out = bs ++ [b]) :
    as.foldlM read [] = .ok out ↔ List.Forall₂ R as out ∧ (out.map key).Nodup := by
  have hnil : (([] : List β).map key).Nodup := List.nodup_nil
  rw [foldlM_eq_ok_iff hread hnil]
  simp

/-- A reader that adds an element for each entry, in whatever way, has an answer exactly if it adds
elements for all of them. -/
theorem foldlM_eq_ok_iff_foldl {γ : Type} {read : γ → α → Except Failure γ} {add : γ → β → γ}
    (hread : ∀ c a out, read c a = .ok out ↔ ∃ b, R a b ∧ out = add c b) {c out : γ} :
    as.foldlM read c = .ok out ↔ ∃ bs, List.Forall₂ R as bs ∧ out = bs.foldl add c := by
  induction as generalizing c with
  | nil =>
    rw [List.foldlM_nil, pure_eq_ok_iff]
    simp [eq_comm]
  | cons a as ih =>
    simp only [List.foldlM_cons, bind_eq_ok_iff, hread, ih, List.forall₂_cons_left_iff]
    constructor
    · rintro ⟨_, ⟨b, hb, rfl⟩, bs, hbs, rfl⟩
      exact ⟨b :: bs, ⟨b, bs, hb, hbs, rfl⟩, rfl⟩
    · rintro ⟨_, ⟨b, bs, hb, hbs, rfl⟩, rfl⟩
      exact ⟨_, ⟨b, hb, rfl⟩, bs, hbs, rfl⟩

/-- An operation on each entry has an answer exactly if it has one on all of them. -/
theorem mapM_eq_ok_iff {f : α → Except Failure β} :
    as.mapM f = .ok bs ↔ List.Forall₂ (fun a b => f a = .ok b) as bs := by
  induction as generalizing bs with
  | nil =>
    rw [List.mapM_nil, pure_eq_ok_iff]
    simp [eq_comm]
  | cons a as ih =>
    simp only [List.mapM_cons, bind_eq_ok_iff, pure_eq_ok_iff, List.forall₂_cons_left_iff, ih]
    constructor
    · rintro ⟨b, hb, bs, hbs, rfl⟩
      exact ⟨b, bs, hb, hbs, rfl⟩
    · rintro ⟨b, bs, hb, hbs, rfl⟩
      exact ⟨b, hb, bs, hbs, rfl⟩

/-- Each entry has an element. -/
theorem exists_of_mem_entries {a : α} (h : List.Forall₂ R as bs) (ha : a ∈ as) :
    ∃ b ∈ bs, R a b := by
  induction h with
  | nil => simp at ha
  | @cons _ b _ _ hb _ ih =>
    rcases List.mem_cons.1 ha with rfl | ha
    · exact ⟨b, List.mem_cons_self, hb⟩
    · obtain ⟨b', hmem, hb'⟩ := ih ha
      exact ⟨b', List.mem_cons_of_mem _ hmem, hb'⟩

/-- Each element comes from an entry. -/
theorem exists_entry_of_mem {b : β} (h : List.Forall₂ R as bs) (hb : b ∈ bs) :
    ∃ a ∈ as, R a b :=
  exists_of_mem_entries h.flip hb

/-- What is true of any two entries tells something of the elements that they have. -/
theorem pairwise_of_entries {S : α → α → Prop} {T : β → β → Prop} (h : List.Forall₂ R as bs)
    (has : as.Pairwise S) (hT : ∀ {a a' b b'}, S a a' → R a b → R a' b' → T b b') :
    bs.Pairwise T := by
  induction h with
  | nil => exact .nil
  | cons hb hrest ih =>
    obtain ⟨hhead, htail⟩ := List.pairwise_cons.1 has
    refine List.pairwise_cons.2 ⟨fun b' hb' => ?_, ih htail⟩
    obtain ⟨a', ha', hab'⟩ := exists_entry_of_mem hrest hb'
    exact hT (hhead a' ha') hb hab'

end Reading

/-! ### Rule sets -/

namespace RuleSet

/-- `Declares entry rule`: the tag and the text of `entry` declare the category and the condition
of `rule`. -/
structure Declares (entry : Text × Text) (rule : Category × Condition) : Prop where
  tag_eq : rule.1.tag = entry.1
  condition_eq : conditionOf entry.2 = .ok rule.2
  always_of_other : rule.1 = .other → rule.2 = .always

theorem refuseTag_ne_ok {α : Type} (c : Complaint) (tag : Text) (a : α) :
    refuseTag c tag ≠ .ok a :=
  c.raise_ne_ok _ a

/-- An entry is read if it declares a category that was not declared before. -/
theorem declare_eq_ok_iff {localeName : Text} {rules rules' : List (Category × Condition)}
    {entry : Text × Text} : declare localeName rules entry = .ok rules' ↔
      ∃ rule, Declares entry rule ∧ rule.1 ∉ rules.map (·.1) ∧ rules' = rules ++ [rule] := by
  obtain ⟨tag, text⟩ := entry
  constructor
  · intro h
    simp only [declare] at h
    split at h
    · exact absurd h (refuseTag_ne_ok _ _ _)
    · next category hcategory =>
      split at h
      · exact absurd h (refuseTag_ne_ok _ _ _)
      · next hnew =>
        obtain ⟨condition, hcondition, h⟩ := bind_eq_ok_iff.1 h
        split at h
        · exact absurd h (Complaint.raise_ne_ok _ _ _)
        · next hother =>
          refine ⟨(category, condition), ⟨Category.tag_of_ofTag? hcategory, hcondition, ?_⟩, hnew,
            (pure_eq_ok_iff.1 h).symm⟩
          exact fun heq => Decidable.byContradiction fun hne => hother ⟨heq, hne⟩
  · rintro ⟨⟨category, condition⟩, ⟨htag, hcondition, hother⟩, hnew, rfl⟩
    obtain rfl : category.tag = tag := htag
    have hnot : ¬ (category = .other ∧ condition ≠ .always) := fun h => h.2 (hother h.1)
    simp only [declare, Category.ofTag?_tag]
    rw [if_neg hnew, hcondition]
    exact if_neg hnot

theorem build_eq_ok_iff {name : Text} {entries : List (Text × Text)} {s : RuleSet} :
    build name entries = .ok s ↔ ∃ rules, List.Forall₂ Declares entries rules ∧
      (rules.map (·.1)).Nodup ∧ s = ⟨name, ordered rules⟩ := by
  have hread (rules : List (Category × Condition)) :
      entries.foldlM (declare name) [] = .ok rules ↔
        List.Forall₂ Declares entries rules ∧ (rules.map (·.1)).Nodup :=
    foldlM_nil_eq_ok_iff fun _ _ _ => declare_eq_ok_iff
  simp only [build, bind_eq_ok_iff, pure_eq_ok_iff, hread]
  constructor
  · rintro ⟨rules, ⟨hdeclares, hnodup⟩, rfl⟩
    exact ⟨rules, hdeclares, hnodup, rfl⟩
  · rintro ⟨rules, hdeclares, hnodup, rfl⟩
    exact ⟨rules, ⟨hdeclares, hnodup⟩, rfl⟩

/-! ### The rules in order -/

variable {rules : List (Category × Condition)} {category : Category} {condition : Condition}

/-- The rules of a set are those declared, and a last one if none is declared for it. -/
theorem mem_withOther_iff : (category, condition) ∈ withOther rules ↔
    (category, condition) ∈ rules ∨
      category = .other ∧ condition = .always ∧
        ∀ condition, (Category.other, condition) ∉ rules := by
  have hnone : (∀ condition, (Category.other, condition) ∉ rules) ↔
      Category.other ∉ rules.map (·.1) := by
    simp
  rw [hnone, withOther]
  split
  · next h => simp [h]
  · next h => simp [h]

theorem nodup_withOther (hnodup : (rules.map (·.1)).Nodup) :
    ((withOther rules).map (·.1)).Nodup := by
  rw [withOther]
  split
  · exact hnodup
  · next h =>
    rw [List.map_append]
    exact hnodup.append (List.nodup_singleton _) (by simpa using h)

theorem ordered_perm (rules : List (Category × Condition)) :
    (ordered rules).Perm (withOther rules) :=
  List.mergeSort_perm _ _

/-- The rules of a set stand in the order of their categories. -/
theorem ordered_pairwise (hnodup : (rules.map (·.1)).Nodup) :
    (ordered rules).Pairwise (·.1.rank < ·.1.rank) := by
  have hle : (ordered rules).Pairwise (·.1.rank ≤ ·.1.rank) := by
    refine (List.pairwise_mergeSort ?_ ?_ (withOther rules)).imp (by simp)
    · intro a b c hab hbc
      simp only [decide_eq_true_eq] at hab hbc ⊢
      exact Nat.le_trans hab hbc
    · intro a b
      simpa using Nat.le_total a.1.rank b.1.rank
  have hne : (ordered rules).Pairwise (·.1 ≠ ·.1) := by
    refine List.pairwise_map.1 ?_
    exact ((ordered_perm rules).map _).nodup_iff.2 (nodup_withOther hnodup)
  -- sorted categories that differ from one another increase
  refine (hle.and hne).imp fun ⟨hrank, hcategory⟩ => ?_
  exact Nat.lt_of_le_of_ne hrank (mt Category.eq_of_rank_eq hcategory)

/-- Sorting keeps the rules. -/
theorem mem_ordered_iff : (category, condition) ∈ ordered rules ↔
    (category, condition) ∈ rules ∨
      category = .other ∧ condition = .always ∧
        ∀ condition, (Category.other, condition) ∉ rules := by
  rw [(ordered_perm rules).mem_iff, mem_withOther_iff]

end RuleSet

/-- What declarations give for a category: the condition of its text, and for the category of all
other numbers, if it is not declared, the condition that always holds. -/
def Declarations.Gives (d : Declarations) (category : Category) (condition : Condition) : Prop :=
  (∃ text, (category.tag, text) ∈ d.toPairs ∧ RuleSet.conditionOf text = .ok condition) ∨
    category = .other ∧ condition = .always ∧ ∀ text, (Category.other.tag, text) ∉ d.toPairs

namespace RuleSet

variable {name : Text} {d : Declarations} {s : RuleSet} {category : Category}
  {condition : Condition}

/-- What was read for a category is the condition of its text. -/
theorem mem_iff_of_declares {entries : List (Text × Text)} {rules : List (Category × Condition)}
    (h : List.Forall₂ Declares entries rules) : (category, condition) ∈ rules ↔
      ∃ text, (category.tag, text) ∈ entries ∧ conditionOf text = .ok condition := by
  constructor
  · intro hmem
    obtain ⟨⟨tag, text⟩, hentry, htag, hcondition, -⟩ := exists_entry_of_mem h hmem
    obtain rfl : category.tag = tag := htag
    exact ⟨text, hentry, hcondition⟩
  · rintro ⟨text, hentry, hcondition⟩
    obtain ⟨⟨category', condition'⟩, hmem, htag, hcondition', -⟩ := exists_of_mem_entries h hentry
    obtain rfl : category' = category := Category.eq_of_tag_eq htag
    obtain rfl : condition' = condition :=
      Except.ok.inj (hcondition'.symm.trans hcondition)
    exact hmem

/-- An entry is read whatever the condition of its text. -/
theorem mem_tags_iff_of_declares {entries : List (Text × Text)}
    {rules : List (Category × Condition)} (h : List.Forall₂ Declares entries rules) :
    (∃ condition, (category, condition) ∈ rules) ↔ ∃ text, (category.tag, text) ∈ entries := by
  constructor
  · rintro ⟨condition, hmem⟩
    obtain ⟨text, hentry, -⟩ := (mem_iff_of_declares h).1 hmem
    exact ⟨text, hentry⟩
  · rintro ⟨text, hentry⟩
    obtain ⟨⟨category', condition⟩, hmem, htag, -⟩ := exists_of_mem_entries h hentry
    obtain rfl : category' = category := Category.eq_of_tag_eq htag
    exact ⟨condition, hmem⟩

/-- The rules of a rule set are what its declarations give. -/
theorem mem_rules_iff (h : build name d.toPairs = .ok s) :
    (category, condition) ∈ s.rules ↔ d.Gives category condition := by
  obtain ⟨rules, hrules, hnodup, rfl⟩ := build_eq_ok_iff.1 h
  have hother : (∀ condition, (Category.other, condition) ∉ rules) ↔
      ∀ text, (Category.other.tag, text) ∉ d.toPairs := by
    rw [← not_exists, ← not_exists, mem_tags_iff_of_declares hrules]
  rw [mem_ordered_iff, mem_iff_of_declares hrules, hother, Declarations.Gives]

/-- Every rule set has a rule that always holds. -/
theorem always_mem_rules (h : build name d.toPairs = .ok s) :
    (Category.other, Condition.always) ∈ s.rules := by
  obtain ⟨rules, hrules, hnodup, rfl⟩ := build_eq_ok_iff.1 h
  refine mem_ordered_iff.2 ?_
  by_cases hother : ∃ condition, (Category.other, condition) ∈ rules
  · obtain ⟨condition, hmem⟩ := hother
    obtain ⟨entry, -, hdeclares⟩ := exists_entry_of_mem hrules hmem
    obtain rfl : condition = .always := hdeclares.always_of_other rfl
    exact .inl hmem
  · exact .inr ⟨rfl, rfl, not_exists.1 hother⟩

/-- The rules of a rule set stand in the order of their categories. -/
theorem rules_pairwise (h : build name d.toPairs = .ok s) :
    s.rules.Pairwise (·.1.rank < ·.1.rank) := by
  obtain ⟨rules, -, hnodup, rfl⟩ := build_eq_ok_iff.1 h
  exact ordered_pairwise hnodup

/-- No category of a rule set repeats. -/
theorem categories_nodup (h : build name d.toPairs = .ok s) : s.categories.Nodup :=
  (rules_pairwise h).map _ fun _ _ hlt heq => Nat.ne_of_lt hlt (congrArg Category.rank heq)

/-- A rule set has one rule for each of its categories. -/
theorem condition_unique (h : build name d.toPairs = .ok s) {condition' : Condition}
    (hmem : (category, condition) ∈ s.rules) (hmem' : (category, condition') ∈ s.rules) :
    condition = condition' := by
  have := List.inj_on_of_nodup_map (categories_nodup h) hmem hmem' rfl
  exact (Prod.mk.inj this).2

theorem localeName_of_build (h : build name d.toPairs = .ok s) : s.localeName = name := by
  obtain ⟨rules, -, -, rfl⟩ := build_eq_ok_iff.1 h
  rfl

end RuleSet

/-! ### Catalogs -/

/-- `RuleData.Has data name d`: the data have the declarations `d` under the name of a locale. -/
def RuleData.Has (data : RuleData) (name : Text) (d : Declarations) : Prop :=
  ∃ key, (key, d) ∈ data ∧ Locale.underscored key = Locale.underscored name

namespace Catalog

/-- `Declares entry ruleSet`: the key and the declarations of `entry` give the rule set. -/
structure Declares (entry : Text × Declarations) (ruleSet : Text × RuleSet) : Prop where
  key_eq : ruleSet.1 = entry.1
  build_eq : RuleSet.build (Locale.underscored entry.1) entry.2.toPairs = .ok ruleSet.2

/-- An entry is read if its declarations are those of a locale without rules so far. -/
theorem declare_eq_ok_iff {ruleSets out : List (Text × RuleSet)} {entry : Text × Declarations} :
    declare ruleSets entry = .ok out ↔ ∃ ruleSet, Declares entry ruleSet ∧
      ruleSet.2.localeName ∉ ruleSets.map (·.2.localeName) ∧ out = ruleSets ++ [ruleSet] := by
  obtain ⟨key, d⟩ := entry
  have hnew : ruleSets.find? (·.2.localeName = Locale.underscored key) = none ↔
      Locale.underscored key ∉ ruleSets.map (·.2.localeName) := by
    simp [List.find?_eq_none]
  constructor
  · intro h
    simp only [declare] at h
    split at h
    · exact absurd h (Complaint.raise_ne_ok _ _ _)
    · next hnone =>
      obtain ⟨s, hs, h⟩ := bind_eq_ok_iff.1 h
      refine ⟨(key, s), ⟨rfl, hs⟩, ?_, (pure_eq_ok_iff.1 h).symm⟩
      rw [RuleSet.localeName_of_build hs]
      exact hnew.1 hnone
  · rintro ⟨⟨_, s⟩, ⟨rfl, hs⟩, hnotMem, rfl⟩
    rw [RuleSet.localeName_of_build hs] at hnotMem
    simp only [declare, hnew.2 hnotMem]
    exact bind_eq_ok_iff.2 ⟨s, hs, rfl⟩

theorem build_eq_ok_iff {family : Family} {data : RuleData} {c : Catalog} :
    build family data = .ok c ↔ ∃ ruleSets, List.Forall₂ Declares data ruleSets ∧
      (ruleSets.map (·.2.localeName)).Nodup ∧ c = ⟨family, ruleSets.map (·.2)⟩ := by
  have hread (ruleSets : List (Text × RuleSet)) :
      data.foldlM declare [] = .ok ruleSets ↔
        List.Forall₂ Declares data ruleSets ∧ (ruleSets.map (·.2.localeName)).Nodup :=
    foldlM_nil_eq_ok_iff fun _ _ _ => declare_eq_ok_iff
  simp only [build, bind_eq_ok_iff, pure_eq_ok_iff, hread]
  constructor
  · rintro ⟨ruleSets, ⟨hdeclares, hnodup⟩, rfl⟩
    exact ⟨ruleSets, hdeclares, hnodup, rfl⟩
  · rintro ⟨ruleSets, hdeclares, hnodup, rfl⟩
    exact ⟨ruleSets, ⟨hdeclares, hnodup⟩, rfl⟩

variable {family : Family} {data : RuleData} {c : Catalog} {name : Text} {s : RuleSet}
  {d d' : Declarations}

/-- The rule sets of a catalog have the names of its data. -/
theorem names_of_declares {ruleSets : List (Text × RuleSet)}
    (h : List.Forall₂ Declares data ruleSets) :
    ruleSets.map (·.2.localeName) = data.map (Locale.underscored ·.1) := by
  induction h with
  | nil => rfl
  | cons hdeclares _ ih =>
    rw [List.map_cons, List.map_cons, ih, RuleSet.localeName_of_build hdeclares.build_eq]

/-- The data of a catalog have no two declarations for one name. -/
theorem has_unique (h : build family data = .ok c) (hd : RuleData.Has data name d)
    (hd' : RuleData.Has data name d') : d = d' := by
  obtain ⟨ruleSets, hdeclares, hnodup, -⟩ := build_eq_ok_iff.1 h
  rw [names_of_declares hdeclares] at hnodup
  obtain ⟨key, hmem, hkey⟩ := hd
  obtain ⟨key', hmem', hkey'⟩ := hd'
  have := List.inj_on_of_nodup_map hnodup hmem hmem' (hkey.trans hkey'.symm)
  exact congrArg Prod.snd this

/-- A rule set is found under the name of its locale. -/
theorem localeName_of_lookup (hs : c.lookup name = some s) :
    s.localeName = Locale.underscored name := by
  simpa using List.find?_some hs

/-- A rule set that is found under a name is built from declarations for it. -/
theorem exists_of_lookup (h : build family data = .ok c) (hs : c.lookup name = some s) :
    ∃ d, RuleData.Has data name d ∧
      RuleSet.build (Locale.underscored name) d.toPairs = .ok s := by
  obtain ⟨ruleSets, hdeclares, -, rfl⟩ := build_eq_ok_iff.1 h
  obtain ⟨⟨key, s⟩, hmem, rfl⟩ := List.mem_map.1 (List.mem_of_find?_eq_some hs)
  obtain ⟨⟨key', d⟩, hentry, -, hbuild⟩ := exists_entry_of_mem hdeclares hmem
  have hname : s.localeName = Locale.underscored name := localeName_of_lookup hs
  rw [RuleSet.localeName_of_build hbuild] at hname
  exact ⟨d, ⟨key', hentry, hname⟩, hname ▸ hbuild⟩

/-- Under a name for which the data have declarations a rule set is found. -/
theorem isSome_lookup (h : build family data = .ok c) (hd : RuleData.Has data name d) :
    (c.lookup name).isSome = true := by
  obtain ⟨ruleSets, hdeclares, -, rfl⟩ := build_eq_ok_iff.1 h
  obtain ⟨key, hentry, hkey⟩ := hd
  obtain ⟨⟨key', s⟩, hmem, -, hbuild⟩ := exists_of_mem_entries hdeclares hentry
  have hname : s.localeName = Locale.underscored name :=
    (RuleSet.localeName_of_build hbuild).trans hkey
  refine List.find?_isSome.2 ⟨s, List.mem_map_of_mem (f := (·.2)) hmem, ?_⟩
  simpa using hname

/-- A rule set is found under a name if the data have declarations for it, and it is the one built
from them. -/
theorem lookup_eq_some_iff (h : build family data = .ok c) :
    c.lookup name = some s ↔ ∃ d, RuleData.Has data name d ∧
      RuleSet.build (Locale.underscored name) d.toPairs = .ok s := by
  constructor
  · exact exists_of_lookup h
  · rintro ⟨d, hd, hbuild⟩
    obtain ⟨s', hs'⟩ := Option.isSome_iff_exists.1 (isSome_lookup h hd)
    obtain ⟨d', hd', hbuild'⟩ := exists_of_lookup h hs'
    obtain rfl := has_unique h hd hd'
    obtain rfl : s = s' := Except.ok.inj (hbuild.symm.trans hbuild')
    exact hs'

/-- Each rule set of a catalog is built from an entry of its data. -/
theorem exists_of_mem_ruleSets (h : build family data = .ok c) (hs : s ∈ c.ruleSets) :
    ∃ entry ∈ data, RuleSet.build (Locale.underscored entry.1) entry.2.toPairs = .ok s := by
  obtain ⟨ruleSets, hdeclares, -, rfl⟩ := build_eq_ok_iff.1 h
  obtain ⟨ruleSet, hmem, rfl⟩ := List.mem_map.1 hs
  obtain ⟨entry, hentry, hruleSet⟩ := exists_entry_of_mem hdeclares hmem
  exact ⟨entry, hentry, hruleSet.build_eq⟩

/-- Each rule set of a catalog is found under the name of its locale. -/
theorem lookup_of_mem_ruleSets (h : build family data = .ok c) (hs : s ∈ c.ruleSets)
    (hname : Locale.underscored name = s.localeName) : c.lookup name = some s := by
  obtain ⟨⟨key, d⟩, hentry, hbuild⟩ := exists_of_mem_ruleSets h hs
  rw [RuleSet.localeName_of_build hbuild] at hname
  exact (lookup_eq_some_iff h).2 ⟨d, ⟨key, hentry, hname.symm⟩, hname ▸ hbuild⟩

theorem lookup_eq_none_iff (h : build family data = .ok c) :
    c.lookup name = none ↔ ∀ d, ¬ RuleData.Has data name d := by
  constructor
  · intro hnone d hd
    have := isSome_lookup h hd
    simp [hnone] at this
  · intro hnone
    cases hs : c.lookup name with
    | none => rfl
    | some s =>
      obtain ⟨d, hd, -⟩ := exists_of_lookup h hs
      exact absurd hd (hnone d)

end Catalog

end Numerus
