import Numerus.Proofs.Blanks

/-!
Blank texts, declared and compiled.

The text of a category is compiled when a catalog is built, unless it is blank; then it sets the
condition that always holds. The compiler is stricter with blank texts: it skips spaces and tabs
only, and it refuses texts that are too long. Of all texts these are the ones for which the two
differ. To say so, all rule data around the text are left open.

* `Declarations.isValid_cons_iff` — one more category in declarations.
* `RuleData.Gap.isValid_iff` — which texts may stand in a gap of rule data.
* `Catalog.mem_rules_of_fills` — the condition that a text sets there.
* `Catalog.blank_texts_declared_and_compiled` — how declared texts and compiled ones compare.
* `Catalog.blank_texts_declared_not_compiled` — blank texts that are declared and do not compile.
-/

namespace Numerus

/-! ### One more category -/

/-- Declarations with one more category than others, and not the one for all other numbers, are
valid if these are, the category is new, and its text is blank or compiles. -/
theorem Declarations.isValid_cons_iff {category : Category} {text : Text}
    {entries : List (Text × Text)} (hother : category ≠ .other) :
    (pairs ((category.tag, text) :: entries)).IsValid ↔
      category.tag ∉ entries.map (·.1) ∧ (pairs entries).IsValid ∧
        (text.strip = [] ∨ ∃ c, Rule.compile text = .ok c) := by
  constructor
  · rintro ⟨htags, hnodup, htexts, halways⟩
    simp only [toPairs, List.forall_mem_cons, List.map_cons, List.nodup_cons] at htags hnodup htexts
    refine ⟨hnodup.1, ⟨htags.2, hnodup.2, htexts.2, fun text' htext' => ?_⟩, htexts.1⟩
    exact halways text' (List.mem_cons_of_mem _ htext')
  · rintro ⟨hnew, ⟨htags, hnodup, htexts, halways⟩, htext⟩
    refine ⟨?_, ?_, ?_, fun text' htext' => ?_⟩
    · exact List.forall_mem_cons.2 ⟨⟨category, rfl⟩, htags⟩
    · exact List.nodup_cons.2 ⟨hnew, hnodup⟩
    · exact List.forall_mem_cons.2 ⟨htext, htexts⟩
    · rcases List.mem_cons.1 htext' with heq | hmem
      · exact absurd (Category.eq_of_tag_eq (Prod.mk.inj heq).1).symm hother
      · exact halways text' hmem

/-! ### A gap in rule data -/

namespace RuleData

/-- Rule data in which the text of one category of one locale is left open. -/
structure Gap where
  before : RuleData
  key : Text
  front : List (Text × Text)
  category : Category
  back : List (Text × Text)
  after : RuleData

namespace Gap

variable {g : Gap} {text : Text} {data : RuleData}

/-- `g.Fills text data`: the data are those around the gap with the text in it, be it that the
categories of the locale are declared as pairs or as a table. -/
def Fills (g : Gap) (text : Text) (data : RuleData) : Prop :=
  ∃ d : Declarations, d.toPairs = g.front ++ (g.category.tag, text) :: g.back ∧
    data = g.before ++ (g.key, d) :: g.after

/-- Whether the data around the gap are valid, and leave its category open. -/
structure IsValid (g : Gap) : Prop where
  names_nodup : ((g.before.map (·.1) ++ g.key :: g.after.map (·.1)).map Locale.underscored).Nodup
  before_valid : ∀ entry ∈ g.before, entry.2.IsValid
  after_valid : ∀ entry ∈ g.after, entry.2.IsValid
  locale_valid : (Declarations.pairs (g.front ++ g.back)).IsValid
  category_new : g.category.tag ∉ (g.front ++ g.back).map (·.1)

/-- A text that is blank or compiles may stand in the gap, and no other text. -/
theorem isValid_iff (hother : g.category ≠ .other) (h : g.Fills text data) :
    data.IsValid ↔ g.IsValid ∧ (text.strip = [] ∨ ∃ c, Rule.compile text = .ok c) := by
  obtain ⟨d, hpairs, rfl⟩ := h
  have hlocale : d.IsValid ↔ g.category.tag ∉ (g.front ++ g.back).map (·.1) ∧
      (Declarations.pairs (g.front ++ g.back)).IsValid ∧
        (text.strip = [] ∨ ∃ c, Rule.compile text = .ok c) := by
    have hperm : d.toPairs.Perm
        (Declarations.pairs ((g.category.tag, text) :: (g.front ++ g.back))).toPairs := by
      rw [hpairs]
      exact List.perm_middle
    rw [Declarations.isValid_iff_of_perm hperm, Declarations.isValid_cons_iff hother]
  have hnames : (g.before ++ (g.key, d) :: g.after).map (Locale.underscored ·.1) =
      (g.before.map (·.1) ++ g.key :: g.after.map (·.1)).map Locale.underscored := by
    simp [Function.comp_def]
  constructor
  · rintro ⟨hnodup, hentries⟩
    rw [List.forall_mem_append, List.forall_mem_cons] at hentries
    obtain ⟨hbefore, hd, hafter⟩ := hentries
    obtain ⟨hnew, hrest, htext⟩ := hlocale.1 hd
    exact ⟨⟨hnames ▸ hnodup, hbefore, hafter, hrest, hnew⟩, htext⟩
  · rintro ⟨⟨hnodup, hbefore, hafter, hrest, hnew⟩, htext⟩
    refine ⟨hnames ▸ hnodup, ?_⟩
    rw [List.forall_mem_append, List.forall_mem_cons]
    exact ⟨hbefore, hlocale.2 ⟨hnew, hrest, htext⟩, hafter⟩

end Gap

end RuleData

namespace Catalog

open RuleData (Gap)

variable {family : Family} {g : Gap} {text : Text} {data : RuleData} {c : Catalog}

/-- The category of the gap has the condition that the text in the gap sets. -/
theorem mem_rules_of_fills (hother : g.category ≠ .other) (h : g.Fills text data)
    (hbuild : build family data = .ok c) :
    ∃ s, c.lookup g.key = some s ∧
      ∀ condition, (g.category, condition) ∈ s.rules ↔ RuleSet.Sets text condition := by
  obtain ⟨d, hpairs, rfl⟩ := h
  have hhas : RuleData.Has (g.before ++ (g.key, d) :: g.after) g.key d :=
    ⟨g.key, by simp, rfl⟩
  obtain ⟨s, hs⟩ := Option.isSome_iff_exists.1 (isSome_lookup hbuild hhas)
  obtain ⟨d', hhas', hruleSet⟩ := exists_of_lookup hbuild hs
  obtain rfl := has_unique hbuild hhas hhas'
  have hnodup := (RuleSet.exists_build_iff.1 ⟨s, hruleSet⟩).tags_nodup
  have hmem : (g.category.tag, text) ∈ d.toPairs := by simp [hpairs]
  refine ⟨s, hs, fun condition => ?_⟩
  rw [RuleSet.mem_rules_iff hruleSet, ← RuleSet.conditionOf_eq_ok_iff]
  constructor
  · rintro (⟨text', hmem', hcondition⟩ | ⟨hcategory, -⟩)
    · have heq := List.inj_on_of_nodup_map hnodup hmem' hmem rfl
      rwa [(Prod.mk.inj heq).2] at hcondition
    · exact absurd hcategory hother
  · intro hcondition
    exact .inl ⟨text, hmem, hcondition⟩

/-- **Declared texts and compiled ones.** Let the text of a category, not the one for all other
numbers, be left open in rule data. With a text there a catalog is built if and only if it is with
the empty text, and the text is blank or compiles. The category then has the condition that the text
sets: the one that always holds if the text is blank, and else what it compiles to. Texts that
compile set what they compile to, also if they are blank. But of the blank texts only those compile
that have nothing but spaces and tabs, and are not too long. -/
theorem blank_texts_declared_and_compiled (family : Family) {empty : RuleData}
    (hother : g.category ≠ .other) (hfills : g.Fills text data) (hempty : g.Fills [] empty) :
    ((∃ c, build family data = .ok c) ↔ (∃ c, build family empty = .ok c) ∧
      (text.strip = [] ∨ ∃ condition, Rule.compile text = .ok condition)) ∧
    (∀ c, build family data = .ok c → ∃ s, c.lookup g.key = some s ∧
      ∀ condition, (g.category, condition) ∈ s.rules ↔ RuleSet.Sets text condition) ∧
    (∀ condition, Rule.compile text = .ok condition → RuleSet.Sets text condition) ∧
    (text.strip = [] → ∀ condition, Rule.compile text = .ok condition ↔
      condition = .always ∧ text.length ≤ Rule.lengthLimit ∧
        ∀ x ∈ text, Cursor.isSpace x = true) := by
  have hblank (h : text.strip = []) (condition : Condition) :
      Rule.compile text = .ok condition ↔ condition = .always ∧ text.length ≤ Rule.lengthLimit ∧
        ∀ x ∈ text, Cursor.isSpace x = true :=
    Rule.compile_blank_iff (Text.strip_eq_nil_iff.1 h)
  refine ⟨?_, fun c => mem_rules_of_fills hother hfills, fun condition h => ?_, hblank⟩
  · have haround : empty.IsValid ↔ g.IsValid :=
      (Gap.isValid_iff hother hempty).trans (and_iff_left (.inl rfl))
    rw [exists_build_iff, exists_build_iff, Gap.isValid_iff hother hfills, haround]
  · by_cases hnil : text.strip = []
    · exact .inl ⟨hnil, ((hblank hnil condition).1 h).1⟩
    · exact .inr ⟨hnil, h⟩

/-- Rule data with a gap in front of the category for all other numbers. -/
def openOne : Gap where
  before := []
  key := "pt-PT"
  front := []
  category := .one
  back := [("other", [])]
  after := []

/-- The rule data with a text in this gap. -/
def portugueseWith (text : Text) : RuleData :=
  [("pt-PT", .pairs [("one", text), ("other", [])])]

theorem openOne_fills (text : Text) : openOne.Fills text (portugueseWith text) := ⟨_, rfl, rfl⟩

/-- A space and a tab set the condition that they compile to. -/
theorem blank_texts_declared_and_compiled_tab :
    ∃ c s, build .cardinal (portugueseWith " \t") = .ok c ∧ c.lookup "pt-PT" = some s ∧
      (.one, .always) ∈ s.rules ∧ Rule.compile " \t" = .ok .always := by
  have hother : openOne.category ≠ .other := by decide
  obtain ⟨hbuilt, hstored, -, hcompiled⟩ :=
    blank_texts_declared_and_compiled .cardinal hother (openOne_fills " \t") (openOne_fills [])
  have hblank : Text.strip " \t" = [] := by decide
  have hempty : ∃ c, build .cardinal (portugueseWith []) = .ok c := ⟨_, rfl⟩
  obtain ⟨c, hc⟩ := hbuilt.2 ⟨hempty, .inl hblank⟩
  obtain ⟨s, hs, hrules⟩ := hstored c hc
  have hspaces : ∀ x ∈ " \t".toList, Cursor.isSpace x = true := by simp [Cursor.isSpace]
  have hcompile := (hcompiled hblank .always).2 ⟨rfl, by decide, hspaces⟩
  exact ⟨c, s, hc, hs, (hrules .always).2 (.inl ⟨hblank, rfl⟩), hcompile⟩

theorem exists_build_portugueseWith (hblank : text.isBlank = true) :
    ∃ c, build .cardinal (portugueseWith text) = .ok c := by
  have hother : openOne.category ≠ .other := by decide
  have hempty : ∃ c, build .cardinal (portugueseWith []) = .ok c := ⟨_, rfl⟩
  have haround := ((Gap.isValid_iff hother (openOne_fills [])).1 (exists_build_iff.1 hempty)).1
  have hvalid := (Gap.isValid_iff hother (openOne_fills text)).2
    ⟨haround, .inl (Text.strip_eq_nil_iff.2 hblank)⟩
  exact exists_build_iff.2 hvalid

/-- **Blank texts that are declared and do not compile.** A catalog is built from data with a line
feed as the text of a category, and from data with more spaces than a rule text may have characters,
though neither text compiles. -/
theorem blank_texts_declared_not_compiled :
    ((∃ c, build .cardinal (portugueseWith "\n") = .ok c) ∧ ¬ ∃ c, Rule.compile "\n" = .ok c) ∧
      (∃ c, build .cardinal (portugueseWith (List.replicate 4097 ' ')) = .ok c) ∧
        ¬ ∃ c, Rule.compile (List.replicate 4097 ' ') = .ok c := by
  have hfeed : Text.isBlank "\n" = true := rfl
  have hspaces : Text.isBlank (List.replicate 4097 ' ') = true := by
    rw [Text.isBlank, List.all_replicate]
    rfl
  refine ⟨⟨exists_build_portugueseWith hfeed, ?_⟩, exists_build_portugueseWith hspaces, ?_⟩
  · rintro ⟨c, hc⟩
    obtain ⟨-, -, hall⟩ := (Rule.compile_blank_iff hfeed).1 hc
    have hnot : Cursor.isSpace '\n' = false := rfl
    have hyes : Cursor.isSpace '\n' = true := hall '\n' (List.mem_singleton_self _)
    rw [hnot] at hyes
    cases hyes
  · rintro ⟨c, hc⟩
    obtain ⟨-, hlength, -⟩ := (Rule.compile_blank_iff hspaces).1 hc
    rw [List.length_replicate] at hlength
    exact absurd hlength (by decide)

end Catalog

end Numerus
