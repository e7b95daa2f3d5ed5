import Mathlib.Data.List.Nodup
import Mathlib.Data.List.Perm.Basic
import Numerus.Document.Basic

/-!
Rules arranged by category.

The rules of a locale are put in the order of the categories, and those under tags that name no
category follow as they stand. `Document.Arranges` says this of any list of pairs. Nothing is lost
or added as long as no category is given twice.

* `Document.perm_ordered` — the arranged rules are the rules in another order.
* `Document.arranges_ordered` — they are arranged.
-/

namespace Numerus

namespace Category

/-- The tags of all categories, in their order. -/
def tags : List Text := all.map tag

theorem mem_tags_iff {tag : Text} : tag ∈ tags ↔ ∃ c : Category, c.tag = tag := by
  simp [tags, mem_all]

theorem ofTag?_isNone_iff {tag : Text} : (ofTag? tag).isNone = true ↔ tag ∉ tags := by
  rw [mem_tags_iff, Option.isNone_iff_eq_none]
  constructor
  · rintro h ⟨c, rfl⟩
    simp at h
  · intro h
    cases hc : ofTag? tag with
    | none => rfl
    | some c => exact absurd ⟨c, tag_of_ofTag? hc⟩ h

theorem tags_nodup : tags.Nodup := by decide

end Category

namespace Document

/-- `Arranges rules pairs`: the pairs are the rules in another order. Those under tags of categories
come first, in the order of the categories; the others follow as they stand. -/
structure Arranges (rules pairs : List (Text × Text)) : Prop where
  perm : pairs.Perm rules
  known_first : ∃ known, (known.map (·.1)).Sublist Category.tags ∧
    pairs = known ++ rules.filter (·.1 ∉ Category.tags)

/-- Whether no category has more than one rule. -/
def NamesOnce (rules : List (Text × Text)) : Prop :=
  rules.Pairwise fun rule rule' => rule.1 = rule'.1 → rule.1 ∉ Category.tags

theorem namesOnce_of_nodup {rules : List (Text × Text)} (h : (rules.map (·.1)).Nodup) :
    NamesOnce rules :=
  (List.pairwise_map.1 h).imp fun hne heq => absurd heq hne

/-- The rules of the categories are for different ones. -/
theorem NamesOnce.nodup {rules : List (Text × Text)} (h : NamesOnce rules) :
    ((rules.filter (·.1 ∈ Category.tags)).map (·.1)).Nodup := by
  rw [List.Nodup, List.pairwise_map, List.pairwise_filter]
  exact h.imp fun hdiffer htag _ heq => hdiffer heq (by simpa using htag)

/-- The rules of the categories, in their order. -/
def known (rules : List (Text × Text)) : List (Text × Text) :=
  Category.all.filterMap fun c => (rules.lookup c.tag).map ((c.tag, ·))

theorem ordered_eq (rules : List (Text × Text)) :
    ordered rules = known rules ++ rules.filter (·.1 ∉ Category.tags) := by
  have hunknown (rule : Text × Text) :
      (Category.ofTag? rule.1).isNone = decide (rule.1 ∉ Category.tags) := by
    rw [Bool.eq_iff_iff, decide_eq_true_iff, Category.ofTag?_isNone_iff]
  simp only [ordered, known, hunknown]

/-- The tags of the rules of the categories are those of some categories, in their order. -/
theorem map_known_sublist (rules : List (Text × Text)) :
    ((known rules).map (·.1)).Sublist Category.tags := by
  unfold known Category.tags
  induction Category.all with
  | nil => simp
  | cons c cs ih =>
    rw [List.filterMap_cons]
    cases rules.lookup c.tag with
    | none => exact ih.cons _
    | some text => exact ih.cons_cons _

/-- The rules of the categories are the rules under their tags. -/
theorem mem_known_iff {rules : List (Text × Text)} (h : NamesOnce rules) {rule : Text × Text} :
    rule ∈ known rules ↔ rule ∈ rules ∧ rule.1 ∈ Category.tags := by
  obtain ⟨tag, text⟩ := rule
  have hlookup (c : Category) : rules.lookup c.tag = some text ↔ (c.tag, text) ∈ rules := by
    apply Entries.lookup_eq_some_iff
    intro v w hv hw
    have hmem {u : Text} (hu : (c.tag, u) ∈ rules) :
        (c.tag, u) ∈ rules.filter (·.1 ∈ Category.tags) := by
      simpa [hu] using Category.mem_tags_iff.2 ⟨c, rfl⟩
    exact (Prod.mk.inj (List.inj_on_of_nodup_map h.nodup (hmem hv) (hmem hw) rfl)).2
  simp only [known, List.mem_filterMap, Option.map_eq_some_iff, Prod.mk.injEq, Category.mem_tags_iff]
  constructor
  · rintro ⟨c, -, _, htext, rfl, rfl⟩
    exact ⟨(hlookup c).1 htext, c, rfl⟩
  · rintro ⟨hmem, c, rfl⟩
    exact ⟨c, c.mem_all, text, (hlookup c).2 hmem, rfl, rfl⟩

/-- Arranged rules are the rules in another order. -/
theorem perm_ordered {rules : List (Text × Text)} (h : NamesOnce rules) :
    (ordered rules).Perm rules := by
  have hknown : (known rules).Perm (rules.filter (·.1 ∈ Category.tags)) := by
    rw [List.perm_ext_iff_of_nodup ((Category.tags_nodup.sublist (map_known_sublist rules)).of_map)
      h.nodup.of_map]
    intro rule
    simp [mem_known_iff h]
  rw [ordered_eq]
  refine (hknown.append_right _).trans ?_
  simpa using List.filter_append_perm (fun rule : Text × Text => rule.1 ∈ Category.tags) rules

theorem arranges_ordered {rules : List (Text × Text)} (h : NamesOnce rules) :
    Arranges rules (ordered rules) where
  perm := perm_ordered h
  known_first := ⟨known rules, map_known_sublist rules, ordered_eq rules⟩

end Document

end Numerus
