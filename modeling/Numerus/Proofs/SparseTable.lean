import Mathlib.Data.List.Nodup
import Numerus.DefaultRules.Sparse
import Numerus.Proofs.Arrangement

/-!
Tables made sparse lose nothing.

In a sparse section a regional locale is left out if its language has the same rules, and rules are
looked up under the language of a locale if there are none under its name. The entries of a table
are read by ascending names, and a name comes after all texts that it starts with. So a language has
been read before any of its regional locales, and whether an entry is kept depends on the table
alone: `FullTable.Keeps` says on what.

* `FullTable.keptOf_keep` — one entry is read and kept, or left out.
* `FullTable.mem_sparse_iff` — what a sparse section holds.
* `FullTable.sparse_eq_of_perm` — the order of the table does not matter.
* `FullTable.sparse_lossless_and_minimal` — nothing is lost, and nothing is kept that could be left
  out.
-/

namespace Numerus

/-- What a section gives for a locale: the rules under its name, or else those under its
language. -/
def Section.rulesOf (locales : Section) (name : Text) : Option (List (Text × Text)) :=
  (locales.lookup name).or (locales.lookup (FullTable.languageOf name))

namespace FullTable

variable {table : FullTable} {name : Text}

/-- Whether each locale stands once in the table, and each tag once among its rules. -/
structure IsMapping (table : FullTable) : Prop where
  names_nodup : (table.map (·.1)).Nodup
  tags_nodup : ∀ entry ∈ table, ∀ rules ∈ entry.2, (rules.map (·.1)).Nodup

/-- The rules of a locale in the order of their categories; a locale without rules has none. -/
def arranged (rules : Option (List (Text × Text))) : List (Text × Text) :=
  (rules.map Document.ordered).getD []

/-! ### Languages -/

/-- The name of a regional locale has an underscore, and that of a language has none. -/
theorem languageOf_eq_self_iff : languageOf name = name ↔ '_' ∉ name :=
  Text.before_eq_self_iff

/-- A language stands before its regional locales. -/
theorem precedes_languageOf (name : Text) : Text.precedes (languageOf name) name = true := by
  have h := Text.precedes_append (languageOf name) (name.dropWhile (· != '_'))
  rwa [languageOf, Text.before, List.takeWhile_append_dropWhile] at h

/-! ### Ascending names -/

theorem mem_sorted_iff {entry : Text × Option (List (Text × Text))} :
    entry ∈ table.sorted ↔ entry ∈ table :=
  (List.mergeSort_perm table _).mem_iff

theorem sorted_pairwise (table : FullTable) :
    table.sorted.Pairwise fun a b => Text.precedes a.1 b.1 = true := by
  refine List.pairwise_mergeSort ?_ ?_ table
  · intro a b c hab hbc
    exact Text.precedes_trans hab hbc
  · intro a b
    exact Text.precedes_total a.1 b.1

theorem names_sorted_nodup (h : (table.map (·.1)).Nodup) : (table.sorted.map (·.1)).Nodup :=
  ((List.mergeSort_perm table _).map _).nodup_iff.2 h

/-- A table in another order has the same section. -/
theorem sparse_eq_of_perm {table' : FullTable} (h : (table.map (·.1)).Nodup)
    (hperm : table.Perm table') : table'.sparse = table.sparse := by
  have hsorted : table'.sorted = table.sorted := by
    have hperm' : table'.sorted.Perm table.sorted :=
      (List.mergeSort_perm table' _).trans (hperm.symm.trans (List.mergeSort_perm table _).symm)
    refine hperm'.eq_of_pairwise ?_ (sorted_pairwise table') (sorted_pairwise table)
    intro a b ha hb hab hba
    have ha' := hperm.mem_iff.2 (mem_sorted_iff.1 ha)
    exact List.inj_on_of_nodup_map h ha' (mem_sorted_iff.1 hb) (Text.precedes_antisymm hab hba)
  rw [sparse, hsorted, sparse]

/-! ### What is kept -/

/-- `table.Keeps entry`: the entry is one to be kept. It is not the one that locales share, and if
it is regional, then its language is not in the table or has other rules. -/
structure Keeps (table : FullTable) (entry : Text × Option (List (Text × Text))) : Prop where
  name_ne : entry.1 ≠ sharedName
  rules_ne : '_' ∈ entry.1 → ∀ rules, (languageOf entry.1, rules) ∈ table →
    languageOf entry.1 ≠ sharedName → arranged rules ≠ arranged entry.2

/-- A language is always kept. -/
theorem keeps_of_notMem {entry : Text × Option (List (Text × Text))} (hne : entry.1 ≠ sharedName)
    (h : '_' ∉ entry.1) : table.Keeps entry :=
  ⟨hne, fun hmem => absurd hmem h⟩

/-- `table.KeptOf read kept`: of the entries read, those to be kept are kept, with their rules
arranged. -/
structure KeptOf (table read : FullTable) (kept : Section) : Prop where
  names_sublist : (kept.map (·.1)).Sublist (read.map (·.1))
  mem_iff : ∀ name pairs, (name, pairs) ∈ kept ↔
    ∃ rules, (name, rules) ∈ read ∧ table.Keeps (name, rules) ∧ arranged rules = pairs

section Step

variable {read : FullTable} {kept : Section} {entry : Text × Option (List (Text × Text))}

/-- An entry is left out exactly if it is not to be kept: by then its language has been read. -/
theorem skips_iff (hkept : table.KeptOf read kept) (hnodup : (read.map (·.1)).Nodup)
    (hread : ∀ e ∈ read, e ∈ table)
    (hlanguage : ∀ e ∈ table, e.1 = languageOf entry.1 → e.1 ≠ entry.1 → e ∈ read) :
    entry.1 = sharedName ∨ entry.1 ≠ languageOf entry.1 ∧
      kept.lookup (languageOf entry.1) = some (arranged entry.2) ↔ ¬ table.Keeps entry := by
  have hregional : entry.1 ≠ languageOf entry.1 ↔ '_' ∈ entry.1 := by
    rw [ne_comm, Ne, languageOf_eq_self_iff, not_not]
  have hlookup : kept.lookup (languageOf entry.1) = some (arranged entry.2) ↔
      (languageOf entry.1, arranged entry.2) ∈ kept := by
    apply Entries.lookup_eq_some_iff
    intro v w hv hw
    have hkeys := hnodup.sublist hkept.names_sublist
    exact (Prod.mk.inj (List.inj_on_of_nodup_map hkeys hv hw rfl)).2
  rw [hregional, hlookup, hkept.mem_iff]
  constructor
  · rintro (hshared | ⟨hmem, rules, hrules, hkeeps, heq⟩) h
    · exact h.name_ne hshared
    · exact h.rules_ne hmem rules (hread _ hrules) hkeeps.name_ne heq
  · intro hnot
    by_contra hall
    obtain ⟨hne, hall⟩ := not_or.1 hall
    refine hnot ⟨hne, fun hmem rules hrules hlanguageNe heq => hall ⟨hmem, rules, ?_, ?_, heq⟩⟩
    · exact hlanguage _ hrules rfl (hregional.2 hmem).symm
    · exact keeps_of_notMem hlanguageNe (Text.notMem_before '_' entry.1)

/-- One more entry is read. -/
theorem keptOf_keep (hkept : table.KeptOf read kept) (hnodup : (read.map (·.1)).Nodup)
    (hread : ∀ e ∈ read, e ∈ table)
    (hlanguage : ∀ e ∈ table, e.1 = languageOf entry.1 → e.1 ≠ entry.1 → e ∈ read) :
    table.KeptOf (read ++ [entry]) (keep kept entry) := by
  have hskips := skips_iff hkept hnodup hread hlanguage
  have hkeep : keep kept entry = if entry.1 = sharedName ∨ entry.1 ≠ languageOf entry.1 ∧
      kept.lookup (languageOf entry.1) = some (arranged entry.2) then kept
      else kept ++ [(entry.1, arranged entry.2)] := rfl
  by_cases hkeeps : table.Keeps entry
  · rw [hkeep, if_neg (mt hskips.1 (not_not.2 hkeeps))]
    constructor
    · simpa using hkept.names_sublist
    · intro name pairs
      rw [List.mem_append, hkept.mem_iff, List.mem_singleton]
      constructor
      · rintro (⟨rules, hrules, hrest⟩ | heq)
        · exact ⟨rules, List.mem_append_left _ hrules, hrest⟩
        · obtain ⟨rfl, rfl⟩ := Prod.mk.inj heq
          exact ⟨entry.2, List.mem_append_right _ (List.mem_singleton.2 rfl), hkeeps, rfl⟩
      · rintro ⟨rules, hrules, hrest, rfl⟩
        rcases List.mem_append.1 hrules with hrules | hrules
        · exact .inl ⟨rules, hrules, hrest, rfl⟩
        · obtain rfl := List.mem_singleton.1 hrules
          exact .inr rfl
  · rw [hkeep, if_pos (hskips.2 hkeeps)]
    constructor
    · simpa using hkept.names_sublist.trans (List.sublist_append_left _ _)
    · intro name pairs
      rw [hkept.mem_iff]
      constructor
      · rintro ⟨rules, hrules, hrest⟩
        exact ⟨rules, List.mem_append_left _ hrules, hrest⟩
      · rintro ⟨rules, hrules, hrest, heq⟩
        rcases List.mem_append.1 hrules with hrules | hrules
        · exact ⟨rules, hrules, hrest, heq⟩
        · obtain rfl := List.mem_singleton.1 hrules
          exact absurd hrest hkeeps

end Step

/-- All further entries are read. The names ascend, so the language of each has been read. -/
theorem keptOf_foldl {read rest : FullTable} {kept : Section} (hnodup : (table.map (·.1)).Nodup)
    (hall : read ++ rest = table.sorted) (hkept : table.KeptOf read kept) :
    table.KeptOf table.sorted (rest.foldl keep kept) := by
  induction rest generalizing read kept with
  | nil =>
    rw [List.append_nil] at hall
    exact hall ▸ hkept
  | cons entry rest ih =>
    have hsorted := sorted_pairwise table
    have hnames := names_sorted_nodup hnodup
    rw [← hall] at hsorted hnames
    refine ih (by simpa using hall) (keptOf_keep hkept ?_ ?_ ?_)
    · exact hnames.sublist ((List.sublist_append_left _ _).map _)
    · intro e he
      exact mem_sorted_iff.1 (hall ▸ List.mem_append_left _ he)
    · intro e he hlanguage hne
      have hmem : e ∈ read ++ entry :: rest := hall ▸ mem_sorted_iff.2 he
      rcases List.mem_append.1 hmem with hmem | hmem
      · exact hmem
      · rcases List.mem_cons.1 hmem with rfl | hmem
        · exact absurd rfl hne
        · have hafter := List.rel_of_pairwise_cons (List.pairwise_append.1 hsorted).2.1 hmem
          have hbefore := precedes_languageOf entry.1
          rw [← hlanguage] at hbefore
          exact absurd (Text.precedes_antisymm hbefore hafter) hne

theorem keptOf_sparse (hnodup : (table.map (·.1)).Nodup) :
    table.KeptOf table.sorted table.sparse := by
  have hnone : table.KeptOf [] [] := ⟨by simp, by simp⟩
  exact keptOf_foldl hnodup (List.nil_append table.sorted) hnone

/-- A sparse section holds the entries of the table that are to be kept. -/
theorem mem_sparse_iff (hnodup : (table.map (·.1)).Nodup) {pairs : List (Text × Text)} :
    (name, pairs) ∈ table.sparse ↔
      ∃ rules, (name, rules) ∈ table ∧ table.Keeps (name, rules) ∧ arranged rules = pairs := by
  rw [(keptOf_sparse hnodup).mem_iff]
  simp only [mem_sorted_iff]

theorem names_sparse_nodup (hnodup : (table.map (·.1)).Nodup) :
    (table.sparse.map (·.1)).Nodup :=
  (names_sorted_nodup hnodup).sublist (keptOf_sparse hnodup).names_sublist

/-! ### Nothing is lost -/

/-- `table.SparseAs kept`: the section is a sparse form of the table. -/
structure SparseAs (table : FullTable) (kept : Section) : Prop where
  /-- No name stands twice. -/
  names_nodup : (kept.map (·.1)).Nodup
  /-- Each locale is given its own rules. -/
  lossless : ∀ entry ∈ table, entry.1 ≠ sharedName →
    Section.rulesOf kept entry.1 = some (arranged entry.2)
  /-- Each language is there. -/
  languages_kept : ∀ entry ∈ table, entry.1 ≠ sharedName → '_' ∉ entry.1 →
    entry.1 ∈ kept.map (·.1)
  /-- No regional locale has the rules of its language. -/
  minimal : ∀ name pairs, (name, pairs) ∈ kept → '_' ∈ name → (languageOf name, pairs) ∉ kept
  /-- All locales come from the table. -/
  given : ∀ entry ∈ kept, entry.1 ≠ sharedName ∧ entry.1 ∈ table.map (·.1)

theorem lookup_sparse_eq_some_iff (hnodup : (table.map (·.1)).Nodup)
    {pairs : List (Text × Text)} : table.sparse.lookup name = some pairs ↔
      ∃ rules, (name, rules) ∈ table ∧ table.Keeps (name, rules) ∧ arranged rules = pairs := by
  rw [← mem_sparse_iff hnodup]
  apply Entries.lookup_eq_some_iff
  intro v w hv hw
  exact (Prod.mk.inj (List.inj_on_of_nodup_map (names_sparse_nodup hnodup) hv hw rfl)).2

/-- A locale that is left out has the rules of its language. -/
theorem rulesOf_sparse (hnodup : (table.map (·.1)).Nodup) {rules : Option (List (Text × Text))}
    (hmem : (name, rules) ∈ table) (hne : name ≠ sharedName) :
    Section.rulesOf table.sparse name = some (arranged rules) := by
  rw [Section.rulesOf, Option.or_eq_some_iff]
  by_cases hkeeps : table.Keeps (name, rules)
  · exact .inl ((lookup_sparse_eq_some_iff hnodup).2 ⟨rules, hmem, hkeeps, rfl⟩)
  · right
    constructor
    · rw [Entries.lookup_eq_none_iff]
      intro pairs hpairs
      obtain ⟨rules', hmem', hkeeps', -⟩ := (mem_sparse_iff hnodup).1 hpairs
      obtain rfl := (Prod.mk.inj (List.inj_on_of_nodup_map hnodup hmem hmem' rfl)).2
      exact hkeeps hkeeps'
    · have hsame : ∃ rules', (languageOf name, rules') ∈ table ∧ languageOf name ≠ sharedName ∧
          arranged rules' = arranged rules := by
        by_contra hall
        refine hkeeps ⟨hne, fun _ rules' hmem' hne' heq => hall ⟨rules', hmem', hne', heq⟩⟩
      obtain ⟨rules', hmem', hne', heq⟩ := hsame
      exact (lookup_sparse_eq_some_iff hnodup).2
        ⟨rules', hmem', keeps_of_notMem hne' (Text.notMem_before '_' name), heq⟩

theorem sparseAs_sparse (hnodup : (table.map (·.1)).Nodup) : table.SparseAs table.sparse where
  names_nodup := names_sparse_nodup hnodup
  lossless _ hentry hne := rulesOf_sparse hnodup hentry hne
  languages_kept entry hentry hne hlanguage := by
    have hmem := (mem_sparse_iff hnodup).2 ⟨entry.2, hentry, keeps_of_notMem hne hlanguage, rfl⟩
    exact List.mem_map_of_mem (f := (·.1)) hmem
  minimal name pairs hpairs hregional hlanguage := by
    obtain ⟨rules, hmem, hkeeps, rfl⟩ := (mem_sparse_iff hnodup).1 hpairs
    obtain ⟨rules', hmem', hkeeps', heq⟩ := (mem_sparse_iff hnodup).1 hlanguage
    exact hkeeps.rules_ne hregional rules' hmem' hkeeps'.name_ne heq
  given entry hentry := by
    obtain ⟨rules, hmem, hkeeps, -⟩ := (mem_sparse_iff hnodup).1 hentry
    exact ⟨hkeeps.name_ne, List.mem_map_of_mem (f := (·.1)) hmem⟩

theorem IsMapping.arranges (h : table.IsMapping) {entry : Text × Option (List (Text × Text))}
    (hentry : entry ∈ table) : Document.Arranges (entry.2.getD []) (arranged entry.2) := by
  obtain ⟨name, rules⟩ := entry
  cases rules with
  | none => exact ⟨.refl _, [], List.nil_sublist _, rfl⟩
  | some rules =>
    exact Document.arranges_ordered (Document.namesOnce_of_nodup (h.tags_nodup _ hentry rules rfl))

/-- **A sparse section loses nothing and holds no more than it must.** Let a table give each locale
its rules, if it has any. In the section made of it each locale has its own rules, arranged by
category, under its name or else under its language. All languages are in the section; a regional
locale is in it only if its language does not have the same rules; and nothing else is. The section
is the same in whatever order the table stands. -/
theorem sparse_lossless_and_minimal (h : table.IsMapping) :
    table.SparseAs table.sparse ∧
      (∀ entry ∈ table, Document.Arranges (entry.2.getD []) (arranged entry.2)) ∧
      ∀ table' : FullTable, table.Perm table' → table'.sparse = table.sparse :=
  ⟨sparseAs_sparse h.names_nodup, fun _ hentry => h.arranges hentry,
    fun _ hperm => sparse_eq_of_perm h.names_nodup hperm⟩

/-- A language with a territory that has none of its rules, one that has its rules and one that has
other rules, and a territory without its language. -/
def territories : FullTable :=
  [("pt", some [("one", "i = 0..1")]), ("pt_AO", none), ("pt_BR", some [("one", "i = 0..1")]),
    ("pt_PT", some [("one", "i = 1 and v = 0")]), ("root", none), ("xx_YY", none)]

/-- One territory is left out, and is given the rules of the language. -/
theorem sparse_lossless_and_minimal_territories :
    territories.IsMapping ∧
      territories.sparse.map (·.1) = [("pt" : Text), "pt_AO", "pt_PT", "xx_YY"] ∧
      Section.rulesOf territories.sparse "pt_BR" = some [(("one" : Text), ("i = 0..1" : Text))] ∧
      Section.rulesOf territories.sparse "pt_AO" = some [] ∧
      sparse territories.reverse = territories.sparse := by
  have h : territories.IsMapping := ⟨by decide, by decide⟩
  have hsorted : territories.sorted = territories := List.mergeSort_of_pairwise (by decide)
  have hnames : territories.sparse.map (·.1) = [("pt" : Text), "pt_AO", "pt_PT", "xx_YY"] := by
    rw [sparse, hsorted]
    decide
  obtain ⟨hsparse, -, hreordered⟩ := sparse_lossless_and_minimal h
  have hbrazil := hsparse.lossless ("pt_BR", some [("one", "i = 0..1")]) (by decide) (by decide)
  have hangola := hsparse.lossless ("pt_AO", none) (by decide) (by decide)
  exact ⟨h, hnames, hbrazil, hangola, hreordered _ (List.reverse_perm _).symm⟩

end FullTable

end Numerus
