import Mathlib
import Numerus.Locale.Tag
import Numerus.Proofs.TagGrammar

/-!
Locale tags and the names of locales.

A tag matters only up to its separators and the blanks around it. If the library keeps to the
grammar of tags, the name of the locale that a tag names has underscores for all separators:
changing the case of its parts brings in no hyphen, nor any other mark that is not the image of some
letter. And a tag that is just the language of its locale is its name as well.

* `Locale.ofTag_underscored` — the separators of a tag do not matter.
* `Locale.notMem_name` — a mark that no case mapping brings in comes from the tag.
* `Locale.underscored_name` — those of a name are underscores.
* `Locale.name_eq_language` — the name of a locale that is named by its language.
-/

namespace Numerus

/-! ### Characters of tags -/

/-- No blank is a letter. -/
theorem isLetter_of_isBlank {c : Char} (h : isBlank c = true) : isLetter c = false := by
  have hranges : ∀ range ∈ blankRanges, ∀ n ∈ List.range' range.1 (range.2 + 1 - range.1),
      isLetter (Char.ofNat n) = false := by
    decide +kernel
  obtain ⟨range, hrange, hbounds⟩ := List.any_eq_true.1 h
  have hmem : c.toNat ∈ List.range' range.1 (range.2 + 1 - range.1) := by
    simp at hbounds
    rw [List.mem_range'_1]
    omega
  simpa using hranges range hrange _ hmem

/-- Letters do not include a mark that is none. -/
theorem Text.notMem_of_isLetters {t : Text} {mark : Char} (h : t.isLetters = true)
    (hmark : isLetter mark = false) : mark ∉ t := by
  intro hmem
  have hletter := List.all_eq_true.1 (Bool.and_eq_true_iff.1 h).2 mark hmem
  simp [hmark] at hletter

/-! ### Case and marks -/

/-- Whether a case mapping puts the mark for no character. -/
def CaseMap.Avoids (m : CaseMap) (mark : Char) : Prop :=
  (∀ run ∈ m.runs, mark.toNat < run.image ∨ run.image + run.count * run.step < mark.toNat) ∧
    ∀ expansion ∈ m.expansions, mark.toNat ∉ expansion.2

instance (m : CaseMap) (mark : Char) : Decidable (m.Avoids mark) :=
  inferInstanceAs (Decidable (_ ∧ _))

/-- Whether no text has the mark in another case unless it has it already. -/
structure IsCaseless (mark : Char) : Prop where
  pos : 0 < mark.toNat
  ne_sigma : mark ∉ ['σ', 'ς']
  toLower : ∀ n < 0x80, (Char.ofNat n).toLower = mark → Char.ofNat n = mark
  toUpper : ∀ n < 0x80, (Char.ofNat n).toUpper = mark → Char.ofNat n = mark
  lower : lowerBeyond.Avoids mark
  upper : upperBeyond.Avoids mark
  title : titleBeyond.Avoids mark

instance (mark : Char) : Decidable (IsCaseless mark) :=
  decidable_of_iff (0 < mark.toNat ∧ mark ∉ ['σ', 'ς'] ∧
      (∀ n < 0x80, (Char.ofNat n).toLower = mark → Char.ofNat n = mark) ∧
      (∀ n < 0x80, (Char.ofNat n).toUpper = mark → Char.ofNat n = mark) ∧
      lowerBeyond.Avoids mark ∧ upperBeyond.Avoids mark ∧ titleBeyond.Avoids mark)
    ⟨fun ⟨pos, sigma, toLower, toUpper, lower, upper, title⟩ =>
      ⟨pos, sigma, toLower, toUpper, lower, upper, title⟩,
      fun h => ⟨h.pos, h.ne_sigma, h.toLower, h.toUpper, h.lower, h.upper, h.title⟩⟩

theorem isCaseless_hyphen : IsCaseless '-' := by
  decide +kernel

section Marks

variable {mark c : Char} {m : CaseMap}

theorem ofNat_ne_mark {n : Nat} (hmark : 0 < mark.toNat) (hn : n ≠ mark.toNat) :
    Char.ofNat n ≠ mark := by
  intro heq
  have htoNat := congrArg Char.toNat heq
  rw [Char.toNat_ofNat] at htoNat
  split at htoNat
  · exact hn htoNat
  · omega

/-- The images under a run lie between that of its first character and its end. -/
theorem CaseRun.image_bounds {r : CaseRun} {n image : Nat} (h : r.image? n = some image) :
    r.image ≤ image ∧ image ≤ r.image + r.count * r.step := by
  unfold image? at h
  split at h
  · next hrun =>
    obtain rfl := Option.some.inj h
    refine ⟨Nat.le_add_right _ _, Nat.add_le_add_left ?_ _⟩
    obtain ⟨-, hstep, hcount⟩ := hrun
    rw [← Nat.div_mul_cancel (Nat.dvd_of_mod_eq_zero hstep)]
    exact Nat.mul_le_mul_right _ (Nat.le_of_lt hcount)
  · simp at h

/-- Such a mapping does not bring in the mark. -/
theorem CaseMap.Avoids.eq_of_mem_apply (hm : m.Avoids mark) (hmark : 0 < mark.toNat)
    (h : mark ∈ m.apply c) : c = mark := by
  unfold apply at h
  split at h
  · next image hlookup =>
    obtain ⟨before, after, hsplit, -⟩ := List.lookup_eq_some_iff.1 hlookup
    obtain ⟨n, hn, heq⟩ := List.mem_map.1 h
    have hmem : (c.toNat, image) ∈ m.expansions := by simp [hsplit]
    have hne : n ≠ mark.toNat := fun heq => hm.2 _ hmem (heq ▸ hn)
    exact absurd heq (ofNat_ne_mark hmark hne)
  · split at h
    · next n hrun =>
      obtain ⟨run, hmem, himage⟩ := List.exists_of_findSome?_eq_some hrun
      have hbounds := CaseRun.image_bounds himage
      have hne : n ≠ mark.toNat := by
        have := hm.1 run hmem
        omega
      exact absurd (List.mem_singleton.1 h).symm (ofNat_ne_mark hmark hne)
    · exact (List.mem_singleton.1 h).symm

/-- A case mapping with a part for ASCII and one beyond brings in no mark if neither does. -/
theorem eq_of_mem_ite {f : Char → Char}
    (hascii : ∀ n < 0x80, f (Char.ofNat n) = mark → Char.ofNat n = mark) (hm : m.Avoids mark)
    (hmark : 0 < mark.toNat) (h : mark ∈ if c.toNat < 0x80 then [f c] else m.apply c) :
    c = mark := by
  split at h
  · next hc =>
    have heq : f (Char.ofNat c.toNat) = mark := by
      rw [Char.ofNat_toNat]
      exact (List.mem_singleton.1 h).symm
    simpa using hascii c.toNat hc heq
  · exact hm.eq_of_mem_apply hmark h

end Marks

namespace IsCaseless

variable {mark c : Char} {t : Text}

theorem eq_of_mem_lowerOf (hmark : IsCaseless mark) (h : mark ∈ lowerOf c) : c = mark :=
  eq_of_mem_ite hmark.toLower hmark.lower hmark.pos h

theorem eq_of_mem_upperOf (hmark : IsCaseless mark) (h : mark ∈ upperOf c) : c = mark :=
  eq_of_mem_ite hmark.toUpper hmark.upper hmark.pos h

theorem eq_of_mem_titleOf (hmark : IsCaseless mark) (h : mark ∈ titleOf c) : c = mark :=
  eq_of_mem_ite hmark.toUpper hmark.title hmark.pos h

theorem eq_of_mem_lowerWithin (hmark : IsCaseless mark) {preceding following : Text}
    (h : mark ∈ Text.lowerWithin preceding following c) : c = mark := by
  have hsigma := hmark.ne_sigma
  rw [List.mem_pair, not_or] at hsigma
  unfold Text.lowerWithin at h
  split at h
  · split at h
    · exact absurd (List.mem_singleton.1 h) hsigma.2
    · exact absurd (List.mem_singleton.1 h) hsigma.1
  · exact hmark.eq_of_mem_lowerOf h

/-- Lower case has the mark only where it is there already. -/
theorem mem_of_mem_lower (hmark : IsCaseless mark) (h : mark ∈ Text.lower t) : mark ∈ t := by
  have go (preceding t : Text) (h : mark ∈ Text.lower.go preceding t) : mark ∈ t := by
    induction t generalizing preceding with
    | nil => simp [Text.lower.go] at h
    | cons c t ih =>
      rw [Text.lower.go] at h
      rcases List.mem_append.1 h with h | h
      · exact hmark.eq_of_mem_lowerWithin h ▸ List.mem_cons_self
      · exact List.mem_cons_of_mem _ (ih _ h)
  exact go [] t h

/-- So has upper case. -/
theorem mem_of_mem_upper (hmark : IsCaseless mark) (h : mark ∈ Text.upper t) : mark ∈ t := by
  obtain ⟨c, hc, hmem⟩ := List.mem_flatMap.1 h
  exact hmark.eq_of_mem_upperOf hmem ▸ hc

/-- So has title case. -/
theorem mem_of_mem_title (hmark : IsCaseless mark) (h : mark ∈ Text.title t) : mark ∈ t := by
  have go (preceding t : Text) (h : mark ∈ Text.title.go preceding t) : mark ∈ t := by
    induction t generalizing preceding with
    | nil => simp [Text.title.go] at h
    | cons c t ih =>
      rw [Text.title.go] at h
      rcases List.mem_append.1 h with h | h
      · have hc : c = mark := by
          split at h
          · exact hmark.eq_of_mem_lowerWithin h
          · exact hmark.eq_of_mem_titleOf h
        simp [hc]
      · exact List.mem_cons_of_mem _ (ih _ h)
  exact go [] t h

theorem mem_of_mem_recased (hmark : IsCaseless mark) {part : Text} (hpart : Locale.Recased t part)
    (h : mark ∈ part) : mark ∈ t := by
  cases hpart with
  | same => exact h
  | lower => exact hmark.mem_of_mem_lower h
  | upper => exact hmark.mem_of_mem_upper h
  | title => exact hmark.mem_of_mem_title h

end IsCaseless

namespace Text

/-! ### Parts of texts -/

theorem mem_of_mem_before {mark c : Char} {t : Text} (h : c ∈ before mark t) : c ∈ t :=
  (List.takeWhile_sublist _).mem h

theorem mem_of_mem_after {mark c : Char} {t : Text} (h : c ∈ after mark t) : c ∈ t :=
  (List.dropWhile_sublist _).mem (List.mem_of_mem_tail h)

end Text

namespace Locale

/-! ### Separators -/

/-- Separators are no blanks. -/
theorem isBlank_separated (c : Char) : isBlank (separated c) = isBlank c := by
  by_cases h : c = '-'
  · subst h
    decide
  · simp [separated, h]

theorem strip_underscored (t : Text) :
    Text.strip (underscored t) = underscored (Text.strip t) := by
  have hblank : Numerus.isBlank ∘ separated = Numerus.isBlank := funext isBlank_separated
  simp only [Text.strip, underscored, List.dropWhile_map, ← List.map_reverse, hblank]

theorem hyphen_notMem_underscored (t : Text) : '-' ∉ underscored t := by
  intro h
  obtain ⟨c, -, hc⟩ := List.mem_map.1 h
  unfold separated at hc
  split at hc
  · exact absurd hc (by decide)
  · contradiction

theorem underscored_eq_self {t : Text} (h : '-' ∉ t) : underscored t = t := by
  refine (List.map_congr_left fun c hc => ?_).trans (List.map_id t)
  have hne : c ≠ '-' := fun heq => h (heq ▸ hc)
  exact if_neg hne

section Tags

variable {library : TagLibrary} {tag : Text} {l : Locale} {p : Parts} {mark : Char}

/-- The locale that a tag names, from its parts. -/
theorem ofTag_eq_ok_iff : ofTag library tag = .ok l ↔
    ∃ p, library.parse (underscored tag.strip) = .ok p ∧
      l = ⟨library.identifier p, p.language⟩ := by
  unfold ofTag
  cases library.parse (underscored tag.strip) with
  | ok p => simp [eq_comm]
  | error reason => simp

/-- The separators of a tag do not matter. -/
theorem ofTag_underscored :
    ofTag library (underscored tag) = .ok l ↔ ofTag library tag = .ok l := by
  rw [ofTag_eq_ok_iff, ofTag_eq_ok_iff, strip_underscored, underscored_underscored]

/-- A library that keeps to the grammar reads and writes locales by it. -/
theorem exists_names (hlibrary : library.IsDocumented) (h : ofTag library tag = .ok l) :
    ∃ p, Names (underscored tag.strip) p ∧ l = ⟨p.name, p.language⟩ := by
  obtain ⟨p, hp, rfl⟩ := ofTag_eq_ok_iff.1 h
  have hnames := hlibrary.names_of_parse hp
  exact ⟨p, hnames, by rw [hlibrary.identifier_of_names hnames]⟩

/-- The language of a locale that a tag names consists of letters. -/
theorem isLetters_language (hlibrary : library.IsDocumented) (h : ofTag library tag = .ok l) :
    l.language.isLetters = true := by
  obtain ⟨p, hp, rfl⟩ := exists_names hlibrary h
  exact hp.isLetters_language

theorem underscored_language (hlibrary : library.IsDocumented) (h : ofTag library tag = .ok l) :
    underscored l.language = l.language :=
  underscored_eq_self (Text.notMem_of_isLetters (isLetters_language hlibrary h) (by decide))

/-! ### The names of locales -/

/-- The subtags of a tag stand in the tag. -/
theorem mem_of_mem_body {c : Char} (hc : c ∈ body tag) : c ∈ tag :=
  Text.mem_of_mem_before (Text.mem_of_mem_before hc)

/-- The modifier of a tag stands in the tag. -/
theorem mem_of_mem_modifier? {c : Char} {modifier : Text}
    (hmodifier : modifier? tag = some modifier) (hc : c ∈ modifier) : c ∈ tag := by
  unfold modifier? at hmodifier
  split at hmodifier
  · simp at hmodifier
  · obtain rfl := Option.some.inj hmodifier
    exact Text.mem_of_mem_after hc

theorem Names.modifier_eq (h : Names tag p) : p.modifier = modifier? tag := by
  cases h
  rfl

/-- The identifier of a locale has only such marks, apart from its separators, as the tag has. -/
theorem Names.notMem_name (h : Names tag p) (hmark : IsCaseless mark)
    (hseparators : mark ∉ ['_', '@']) (hno : mark ∉ tag) : mark ∉ p.name := by
  rw [List.mem_pair, not_or] at hseparators
  intro hmem
  rcases List.mem_append.1 hmem with hmem | hmem
  · rcases Text.mem_of_mem_joined hmem with hmem | ⟨part, hpart, hmem⟩
    · exact hseparators.1 (List.mem_singleton.1 hmem)
    · obtain ⟨s, hs, hrecased⟩ := exists_entry_of_mem h.recased hpart
      have hsplit := Text.mem_of_mem_splitOn hs (hmark.mem_of_mem_recased hrecased hmem)
      exact hno (mem_of_mem_body hsplit)
  · rw [h.modifier_eq] at hmem
    cases hmodifier : modifier? tag with
    | none => simp [hmodifier] at hmem
    | some modifier =>
      rw [hmodifier, Option.elim_some] at hmem
      rcases List.mem_cons.1 hmem with heq | hmem
      · exact hseparators.2 heq
      · exact hno (mem_of_mem_modifier? hmodifier hmem)

/-- The name of a locale has only such marks, apart from its separators, as the tag has. -/
theorem notMem_name (hlibrary : library.IsDocumented) (hmark : IsCaseless mark)
    (hseparators : mark ∉ ['_', '@']) (h : ofTag library tag = .ok l)
    (hno : mark ∉ underscored tag.strip) : mark ∉ l.name := by
  obtain ⟨p, hp, rfl⟩ := exists_names hlibrary h
  exact hp.notMem_name hmark hseparators hno

/-- The separators of the name of a locale are underscores. -/
theorem underscored_name (hlibrary : library.IsDocumented) (h : ofTag library tag = .ok l) :
    underscored l.name = l.name :=
  underscored_eq_self
    (notMem_name hlibrary isCaseless_hyphen (by decide) h (hyphen_notMem_underscored _))

/-- A tag of letters is a language, and nothing else. -/
theorem Names.eq_of_isLetters (hp : Names tag p) (h : tag.isLetters = true) :
    p = { language := Text.lower tag } := by
  have hnotMem {mark : Char} (hmark : isLetter mark = false) : mark ∉ tag :=
    Text.notMem_of_isLetters h hmark
  have hat : '@' ∉ tag := hnotMem (by decide)
  have hpoint : '.' ∉ tag := hnotMem (by decide)
  have hbody : body tag = tag := by
    rw [body, Text.before_eq_self_iff.2 hat, Text.before_eq_self_iff.2 hpoint]
  have hafter : tag.after '@' = [] := by
    have hdrop : tag.dropWhile (· != '@') = [] :=
      List.dropWhile_eq_nil_iff.2 fun c hc => by
        simpa using fun heq : c = '@' => hat (heq ▸ hc)
    rw [Text.after, hdrop, List.tail_nil]
  obtain ⟨hsubtags, ⟨-⟩, hscript, hterritory, hvariant⟩ := hp
  rw [hbody, List.splitOn_eq_singleton (hnotMem (by decide))] at hsubtags
  obtain ⟨rfl, hrest⟩ := List.cons.inj hsubtags
  obtain ⟨h₁, h₂, h₃⟩ : _ ∧ _ ∧ _ := by simpa using hrest.symm
  subst h₁ h₂ h₃
  cases hscript
  cases hterritory
  cases hvariant
  rw [modifier?, if_pos hafter]

/-- A tag that is the language of the locale it names is its name as well. -/
theorem name_eq_language (hlibrary : library.IsDocumented) (h : ofTag library tag = .ok l)
    (hlanguage : l.language = tag) : l.name = tag := by
  have hletters : tag.isLetters = true := hlanguage ▸ isLetters_language hlibrary h
  have hstrip : tag.strip = tag := Text.strip_eq_self fun c hc => by
    refine Bool.eq_false_iff.2 fun hblank => ?_
    exact Text.notMem_of_isLetters hletters (isLetter_of_isBlank hblank) hc
  have hunderscored : underscored tag = tag :=
    underscored_eq_self (Text.notMem_of_isLetters hletters (by decide))
  obtain ⟨p, hp, rfl⟩ := exists_names hlibrary h
  rw [hstrip, hunderscored] at hp
  obtain rfl := hp.eq_of_isLetters hletters
  have hlower : Text.lower tag = tag := hlanguage
  simp [Parts.name, Parts.subtags, Text.joined, hlower]

end Tags

end Locale

end Numerus
