import Mathlib
import Numerus.Locale.Standard
import Numerus.Proofs.Printable

/-!
The grammar of locale tags, and the libraries that keep to it.

A tag names a locale by subtags with underscores between them: a language, and then a script, a
territory and a variant, each of them optional and each in a form of its own. A point ends the
subtags, and so does an at sign, after which a modifier may stand. Each part has a case in which it
is written in the identifier of the locale.

* `Locale.Names` — the parts of the locale that a tag names.
* `Locale.Parts.name` — the identifier that parts make up.
* `TagLibrary.IsDocumented` — a library that reads and writes tags in this way.
* `TagLibrary.standard_isDocumented` — the library for tags of the usual form does.
-/

namespace Numerus

/-- All characters belong to ASCII. -/
def Text.IsAscii (t : Text) : Prop := ∀ c ∈ t, c.toNat < 0x80

namespace Text

theorem mem_joined_of_mem {separator t : Text} {ts : List Text} {c : Char} (ht : t ∈ ts)
    (hc : c ∈ t) : c ∈ joined separator ts := by
  induction ts with
  | nil => simp at ht
  | cons u ts ih =>
    cases ts with
    | nil =>
      obtain rfl := List.mem_singleton.1 ht
      rw [joined, List.intercalate_singleton]
      exact hc
    | cons t' ts =>
      rw [joined, List.intercalate_cons_cons, List.mem_append, List.mem_append]
      rcases List.mem_cons.1 ht with rfl | ht
      · exact .inl (.inl hc)
      · exact .inr (ih ht)

/-- What a text is split into has no characters but those of the text. -/
theorem mem_of_mem_splitOn {mark c : Char} {t subtag : Text} (ht : subtag ∈ List.splitOn mark t)
    (hc : c ∈ subtag) : c ∈ t := by
  rw [← @List.intercalate_splitOn _ t _ _ mark]
  exact mem_joined_of_mem ht hc

theorem IsAscii.of_mem_splitOn {mark : Char} {t : Text} (ht : IsAscii t) :
    ∀ s ∈ List.splitOn mark t, IsAscii s :=
  fun _ hs c hc => ht c (mem_of_mem_splitOn hs hc)

end Text

/-- What holds of the first 128 characters holds of a character of ASCII. -/
theorem of_ascii {p : Char → Prop} {c : Char} (h : ∀ n < 0x80, p (Char.ofNat n))
    (hc : c.toNat < 0x80) : p c := by
  simpa using h c.toNat hc

namespace Locale

/-! ### The grammar -/

/-- `IsLanguage s part`: the subtag `s` is a language, which is written as `part`. -/
inductive IsLanguage (s : Text) : Text → Prop
  | intro (hletters : (Text.lower s).isLetters = true) : IsLanguage s (Text.lower s)

/-- `IsScript s part`: the subtag `s` is a script, which is written as `part`. -/
inductive IsScript (s : Text) : Text → Prop
  | intro (hlength : s.length = 4) (hletters : s.isLetters = true) : IsScript s (Text.title s)

/-- `IsTerritory s part`: the subtag `s` is a territory, which is written as `part`. -/
inductive IsTerritory (s : Text) : Text → Prop
  | letters (hlength : s.length = 2) (hletters : s.isLetters = true) :
      IsTerritory s (Text.upper s)
  | digits (hlength : s.length = 3) (hdigits : s.isDigits = true) : IsTerritory s s

/-- `IsVariant s part`: the subtag `s` is a variant, which is written as `part`. -/
inductive IsVariant (s : Text) : Text → Prop
  | letter (hlength : 5 ≤ s.length) (hhead : ∀ c ∈ s.head?, isLetter c = true) :
      IsVariant s (Text.upper s)
  | digit (hlength : s.length = 4) (hhead : ∀ c ∈ s.head?, isDigitSign c = true) :
      IsVariant s (Text.upper s)

/-- The part of a tag with the subtags, without encoding and modifier. -/
def body (tag : Text) : Text := (tag.before '@').before '.'

/-- The modifier of a tag, if it has one. -/
def modifier? (tag : Text) : Option Text :=
  if tag.after '@' = [] then none else some (tag.after '@')

/-- `Names tag p`: a tag with underscores names the locale with the parts `p`. -/
inductive Names (tag : Text) : Parts → Prop
  | intro {s language : Text} {s₁ s₂ s₃ script territory variant : Option Text}
      (hsubtags : List.splitOn '_' (body tag) = s :: (s₁.toList ++ (s₂.toList ++ s₃.toList)))
      (hlanguage : IsLanguage s language) (hscript : Option.Rel IsScript s₁ script)
      (hterritory : Option.Rel IsTerritory s₂ territory)
      (hvariant : Option.Rel IsVariant s₃ variant) :
      Names tag { language, script, territory, variant, modifier := modifier? tag }

/-- The parts of a locale without its modifier, in the order in which they are written. -/
def Parts.subtags (p : Parts) : List Text :=
  p.language :: (p.script.toList ++ (p.territory.toList ++ p.variant.toList))

/-- The parts of a locale as one identifier. -/
def Parts.name (p : Parts) : Text :=
  Text.joined "_" p.subtags ++ p.modifier.elim [] ('@' :: ·)

end Locale

/-- A library reads tags by the grammar and writes identifiers by it. Beyond ASCII it may refuse
tags that have the form of one. The reasons that it gives have no characters but printable ones. -/
structure TagLibrary.IsDocumented (library : TagLibrary) : Prop where
  names_of_parse : ∀ {tag p}, library.parse tag = .ok p → Locale.Names tag p
  parse_of_names : ∀ {tag p}, (Locale.body tag).IsAscii → Locale.Names tag p →
    library.parse tag = .ok p
  identifier_of_names : ∀ {tag p}, Locale.Names tag p → library.identifier p = p.name
  isPrintable_of_parse : ∀ {tag reason}, library.parse tag = .error reason → reason.IsPrintable

/-! ### Case -/

namespace Locale

/-- A text in any case. -/
inductive Recased (s : Text) : Text → Prop
  | same : Recased s s
  | lower : Recased s (Text.lower s)
  | upper : Recased s (Text.upper s)
  | title : Recased s (Text.title s)

variable {s part tag : Text} {p : Parts}

theorem IsLanguage.recased (h : IsLanguage s part) : Recased s part := by
  cases h
  exact .lower

theorem IsScript.recased (h : IsScript s part) : Recased s part := by
  cases h
  exact .title

theorem IsTerritory.recased (h : IsTerritory s part) : Recased s part := by
  cases h
  · exact .upper
  · exact .same

theorem IsVariant.recased (h : IsVariant s part) : Recased s part := by
  cases h <;> exact .upper

/-- An optional part is a subtag in its case, or neither is there. -/
theorem forall₂_recased {form : Text → Text → Prop}
    (hform : ∀ {s part}, form s part → Recased s part) {o o' : Option Text}
    (h : Option.Rel form o o') :
    List.Forall₂ Recased o.toList o'.toList := by
  cases h with
  | none => exact .nil
  | some h => exact .cons (hform h) .nil

/-- The parts of the locale that a tag names are the subtags of the tag, each in a case of its own.
-/
theorem Names.recased (h : Names tag p) :
    List.Forall₂ Recased (List.splitOn '_' (body tag)) p.subtags := by
  obtain ⟨hsubtags, hlanguage, hscript, hterritory, hvariant⟩ := h
  rw [hsubtags]
  exact .cons hlanguage.recased (List.rel_append (forall₂_recased IsScript.recased hscript)
    (List.rel_append (forall₂_recased IsTerritory.recased hterritory)
      (forall₂_recased IsVariant.recased hvariant)))

theorem Names.isLetters_language (h : Names tag p) : p.language.isLetters = true := by
  obtain ⟨-, ⟨hletters⟩, -, -, -⟩ := h
  exact hletters

end Locale

/-! ### The library for tags of the usual form -/

section Nonempty

variable {c : Char} {s part : Text}

theorem CaseMap.apply_ne_nil {m : CaseMap} (h : ∀ expansion ∈ m.expansions, expansion.2 ≠ []) :
    m.apply c ≠ [] := by
  unfold apply
  split
  · next image hlookup =>
    obtain ⟨before, after, hsplit, -⟩ := List.lookup_eq_some_iff.1 hlookup
    have hmem : (c.toNat, image) ∈ m.expansions := by simp [hsplit]
    simpa using h _ hmem
  · split <;> simp

theorem lowerOf_ne_nil : lowerOf c ≠ [] := by
  unfold lowerOf
  split
  · simp
  · exact CaseMap.apply_ne_nil (by decide +kernel)

theorem upperOf_ne_nil : upperOf c ≠ [] := by
  unfold upperOf
  split
  · simp
  · exact CaseMap.apply_ne_nil (by decide +kernel)

theorem titleOf_ne_nil : titleOf c ≠ [] := by
  unfold titleOf
  split
  · simp
  · exact CaseMap.apply_ne_nil (by decide +kernel)

theorem lowerWithin_ne_nil {preceding following : Text} :
    Text.lowerWithin preceding following c ≠ [] := by
  unfold Text.lowerWithin
  split_ifs
  · simp
  · simp
  · exact lowerOf_ne_nil

/-- A text has characters in any case if it has any. -/
theorem Locale.Recased.ne_nil (h : Recased s part) (hs : s ≠ []) : part ≠ [] := by
  obtain ⟨c, t, rfl⟩ := List.exists_cons_of_ne_nil hs
  cases h with
  | same => exact hs
  | lower => exact List.append_ne_nil_of_left_ne_nil lowerWithin_ne_nil _
  | upper => exact List.append_ne_nil_of_left_ne_nil upperOf_ne_nil _
  | title => exact List.append_ne_nil_of_left_ne_nil titleOf_ne_nil _

end Nonempty

namespace Locale

variable {s part tag : Text} {p : Parts}

theorem IsLanguage.ne_nil (h : IsLanguage s part) : part ≠ [] := by
  rintro rfl
  generalize hempty : ([] : Text) = empty at h
  obtain ⟨hletters⟩ := h
  rw [← hempty] at hletters
  contradiction

theorem IsScript.ne_nil (h : IsScript s part) : part ≠ [] := by
  refine h.recased.ne_nil ?_
  rintro rfl
  cases h
  contradiction

theorem IsTerritory.ne_nil (h : IsTerritory s part) : part ≠ [] := by
  refine h.recased.ne_nil ?_
  rintro rfl
  cases h <;> contradiction

theorem IsVariant.ne_nil (h : IsVariant s part) : part ≠ [] := by
  refine h.recased.ne_nil ?_
  rintro rfl
  cases h <;> contradiction

theorem filter_ne_nil_eq_self {form : Text → Text → Prop}
    (hform : ∀ {s part}, form s part → part ≠ []) {o o' : Option Text} (h : Option.Rel form o o') :
    o'.filter (· ≠ []) = o' := by
  cases h with
  | none => rfl
  | some h => simp [Option.filter, hform h]

end Locale

namespace TagLibrary

open Numerus.Locale (IsScript IsTerritory IsVariant Names body modifier?)

variable {s language identifier tag : Text} {s₁ s₂ s₃ part script territory variant : Option Text}
  {subtags rest : List Text} {p : Locale.Parts}

/-! What is taken off the subtags has the form that is asked for. -/

theorem exists_isScript (subtags : List Text) :
    ∃ s, subtags = s.toList ++ (takeScript subtags).2 ∧
      Option.Rel IsScript s (takeScript subtags).1 := by
  cases subtags with
  | nil => exact ⟨none, rfl, .none⟩
  | cons s rest =>
    rw [takeScript]
    split
    · next h => exact ⟨some s, rfl, .some (.intro h.1 h.2)⟩
    · exact ⟨none, rfl, .none⟩

theorem exists_isTerritory (subtags : List Text) :
    ∃ s, subtags = s.toList ++ (takeTerritory subtags).2 ∧
      Option.Rel IsTerritory s (takeTerritory subtags).1 := by
  cases subtags with
  | nil => exact ⟨none, rfl, .none⟩
  | cons s rest =>
    rw [takeTerritory]
    split
    · next h => exact ⟨some s, rfl, .some (.letters h.1 h.2)⟩
    · split
      · next h => exact ⟨some s, rfl, .some (.digits h.1 h.2)⟩
      · exact ⟨none, rfl, .none⟩

theorem isVariant_iff : isVariant s = true ↔ IsVariant s (Text.upper s) := by
  cases s with
  | nil =>
    refine ⟨fun h => by contradiction, fun h => ?_⟩
    cases h <;> contradiction
  | cons c t =>
    constructor
    · intro h
      simp only [isVariant, List.head?_cons, Bool.or_eq_true, Bool.and_eq_true, beq_iff_eq,
        decide_eq_true_eq] at h
      rcases h with ⟨hlength, hc⟩ | ⟨hlength, hc⟩
      · exact .digit hlength (by simpa using hc)
      · exact .letter hlength (by simpa using hc)
    · rintro (⟨hlength, hhead⟩ | ⟨hlength, hhead⟩)
      · have hmore : 4 ≤ t.length := by simpa using hlength
        simp [isVariant, hhead c rfl, hmore]
      · simp [isVariant, hhead c rfl, hlength]

/-- Nothing is left over by a variant only if it is the one subtag. -/
theorem exists_isVariant (h : (takeVariant subtags).2 = []) :
    ∃ s, subtags = s.toList ∧ Option.Rel IsVariant s (takeVariant subtags).1 := by
  by_cases hvariant : (subtags.head?.map isVariant).getD false = true
  · rw [takeVariant, if_pos hvariant] at h ⊢
    cases subtags with
    | nil => contradiction
    | cons s rest =>
      obtain rfl : rest = [] := by simpa using congrArg List.length h
      exact ⟨some s, rfl, .some (isVariant_iff.1 (by simpa using hvariant))⟩
  · rw [takeVariant, if_neg hvariant] at h ⊢
    exact ⟨none, h, .none⟩

/-! What has the form is taken off, and no more. -/

theorem takeScript_append (hs : Option.Rel IsScript s₁ script)
    (hrest : ∀ t ∈ rest.head?, t.length = 4 → t.isLetters = false) :
    takeScript (s₁.toList ++ rest) = (script, rest) := by
  cases hs with
  | none =>
    cases rest with
    | nil => rfl
    | cons t rest =>
      have ht : ¬ (t.length = 4 ∧ t.isLetters = true) := by simpa using hrest t rfl
      exact if_neg ht
  | some hs =>
    obtain ⟨hlength, hletters⟩ := hs
    exact if_pos ⟨hlength, hletters⟩

theorem takeTerritory_append (hs : Option.Rel IsTerritory s₂ territory)
    (hrest : ∀ t ∈ rest.head?, 4 ≤ t.length) :
    takeTerritory (s₂.toList ++ rest) = (territory, rest) := by
  cases hs with
  | none =>
    cases rest with
    | nil => rfl
    | cons t rest =>
      have ht : 4 ≤ t.length := hrest t rfl
      rw [Option.toList_none, List.nil_append, takeTerritory, if_neg (by omega),
        if_neg (by omega)]
  | some hs =>
    cases hs with
    | letters hlength hletters => exact if_pos ⟨hlength, hletters⟩
    | digits hlength hdigits =>
      rw [Option.toList_some, List.singleton_append, takeTerritory, if_neg (by omega),
        if_pos ⟨hlength, hdigits⟩]

theorem takeVariant_toList (hs : Option.Rel IsVariant s₃ variant) :
    takeVariant s₃.toList = (variant, []) := by
  cases hs with
  | none => rfl
  | @some s part hs =>
    obtain rfl : part = Text.upper s := by cases hs <;> rfl
    simp [takeVariant, isVariant_iff.2 hs]

/-! Both together: subtags are read exactly if they have the form of a locale. -/

theorem ofSubtags_eq_ok_iff : ofSubtags identifier subtags = .ok p ↔
    let language := Text.lower (subtags.headD [])
    let script := takeScript subtags.tail
    let territory := takeTerritory script.2
    let variant := takeVariant territory.2
    language.isLetters = true ∧ variant.2 = [] ∧
      p = { language, territory := territory.1, script := script.1, variant := variant.1 } := by
  unfold ofSubtags
  generalize Text.lower (subtags.headD []) = language
  by_cases hletters : language.isLetters = true
  · by_cases hrest : (takeVariant (takeTerritory (takeScript subtags.tail).2).2).2 = []
    · simp [hletters, hrest, pure, Except.pure, @eq_comm _ p]
    · simp [hletters, hrest, throw, throwThe, MonadExceptOf.throw, bind, Except.bind]
  · simp [hletters, throw, throwThe, MonadExceptOf.throw, bind, Except.bind]

theorem standardParse_eq_ok_iff : standardParse tag = .ok p ↔
    tag ≠ [] ∧ ∃ q, ofSubtags (body tag) (List.splitOn '_' (body tag)) = .ok q ∧
      p = { q with modifier := modifier? tag } := by
  unfold standardParse
  by_cases hempty : tag = []
  · simp [hempty, throw, throwThe, MonadExceptOf.throw, bind, Except.bind]
  · unfold body modifier?
    cases hread : ofSubtags ((tag.before '@').before '.')
      (List.splitOn '_' ((tag.before '@').before '.')) with
    | ok q => simp [hempty, hread, Functor.map, Except.map, @eq_comm _ p]
    | error reason => simp [hempty, hread, Functor.map, Except.map]

theorem names_of_standardParse (h : standardParse tag = .ok p) : Names tag p := by
  obtain ⟨-, q, hq, rfl⟩ := standardParse_eq_ok_iff.1 h
  obtain ⟨hletters, hrest, rfl⟩ := ofSubtags_eq_ok_iff.1 hq
  obtain ⟨first, rest, hsplit⟩ :=
    List.exists_cons_of_ne_nil (List.splitOnP_ne_nil (· == '_') (body tag))
  change List.splitOn '_' (body tag) = first :: rest at hsplit
  rw [hsplit, List.headD_cons] at hletters
  rw [hsplit, List.tail_cons] at hrest
  obtain ⟨s₁, hs₁, hscript⟩ := exists_isScript rest
  obtain ⟨s₂, hs₂, hterritory⟩ := exists_isTerritory (takeScript rest).2
  obtain ⟨s₃, hs₃, hvariant⟩ := exists_isVariant hrest
  rw [hsplit, List.headD_cons, List.tail_cons]
  refine .intro ?_ ⟨hletters⟩ hscript hterritory hvariant
  rw [hsplit, ← hs₃, ← hs₂, ← hs₁]

/-- An ASCII variant is no script: one of four characters starts with a digit. -/
theorem isLetters_of_isVariant {t : Text} (h : IsVariant s t) (hascii : s.IsAscii)
    (hlength : s.length = 4) : s.isLetters = false := by
  obtain ⟨c, rest, rfl⟩ := List.exists_cons_of_ne_nil (l := s) (by rintro rfl; contradiction)
  have hdigit : isDigitSign c = true := by
    cases h with
    | letter hlength' => omega
    | digit _ hhead => exact hhead c rfl
  have hletter : isLetter c = false :=
    of_ascii (p := fun c => isDigitSign c = true → isLetter c = false) (by decide +kernel)
      (hascii c List.mem_cons_self) hdigit
  simp [Text.isLetters, hletter]

theorem ofSubtags_of_forms (identifier : Text) (hlanguage : (Text.lower s).isLetters = true)
    (hscript : Option.Rel IsScript s₁ script) (hterritory : Option.Rel IsTerritory s₂ territory)
    (hvariant : Option.Rel IsVariant s₃ variant) (hascii : ∀ t ∈ s₃, t.IsAscii) :
    ofSubtags identifier (s :: (s₁.toList ++ (s₂.toList ++ s₃.toList))) =
      .ok { language := Text.lower s, script, territory, variant } := by
  have hafterScript : ∀ t ∈ (s₂.toList ++ s₃.toList).head?, t.length = 4 → t.isLetters = false := by
    intro t ht hlength
    cases hterritory with
    | some h₂ =>
      obtain rfl := Option.some.inj ht
      cases h₂ <;> omega
    | none =>
      cases hvariant with
      | some h₃ =>
        obtain rfl := Option.some.inj ht
        exact isLetters_of_isVariant h₃ (hascii _ rfl) hlength
      | none => contradiction
  have hafterTerritory : ∀ t ∈ s₃.toList.head?, 4 ≤ t.length := by
    intro t ht
    cases hvariant with
    | some h₃ =>
      obtain rfl := Option.some.inj ht
      cases h₃ <;> omega
    | none => contradiction
  refine ofSubtags_eq_ok_iff.2 ⟨hlanguage, ?_, ?_⟩
  · rw [List.tail_cons, takeScript_append hscript hafterScript,
      takeTerritory_append hterritory hafterTerritory, takeVariant_toList hvariant]
  · rw [List.tail_cons, takeScript_append hscript hafterScript,
      takeTerritory_append hterritory hafterTerritory, takeVariant_toList hvariant]
    rfl

theorem standardParse_of_names (hascii : (body tag).IsAscii) (h : Names tag p) :
    standardParse tag = .ok p := by
  obtain ⟨hsubtags, ⟨hletters⟩, hscript, hterritory, hvariant⟩ := h
  have hpieces : ∀ t ∈ List.splitOn '_' (body tag), Text.IsAscii t := hascii.of_mem_splitOn
  have hread := ofSubtags_of_forms (body tag) hletters hscript hterritory hvariant fun t ht =>
    hpieces t (by rw [hsubtags, Option.mem_def.1 ht]; simp)
  rw [← hsubtags] at hread
  refine standardParse_eq_ok_iff.2 ⟨?_, _, hread, rfl⟩
  rintro rfl
  have hempty : List.splitOn '_' (body []) = [[]] := rfl
  obtain rfl := (List.cons.inj (hempty.symm.trans hsubtags)).1
  contradiction

theorem standardIdentifier_of_names (h : Names tag p) : standardIdentifier p = p.name := by
  obtain @⟨s, language, _, _, _, script, territory, variant, -, hlanguage, hscript, hterritory,
    hvariant⟩ := h
  have hfirst : Option.Rel Locale.IsLanguage (some s) (some language) := .some hlanguage
  have hmodifier : (modifier? tag).filter (· ≠ []) = modifier? tag := by
    unfold modifier?
    split
    · rfl
    · next h => simp [Option.filter, h]
  have hsubtags : [some language, script, territory, variant].filterMap (·.filter (· ≠ [])) =
      [some language, script, territory, variant].filterMap id := by
    refine List.filterMap_congr fun o ho => ?_
    simp only [List.mem_cons, List.not_mem_nil, or_false] at ho
    rcases ho with rfl | rfl | rfl | rfl
    · exact Locale.filter_ne_nil_eq_self Locale.IsLanguage.ne_nil hfirst
    · exact Locale.filter_ne_nil_eq_self Locale.IsScript.ne_nil hscript
    · exact Locale.filter_ne_nil_eq_self Locale.IsTerritory.ne_nil hterritory
    · exact Locale.filter_ne_nil_eq_self Locale.IsVariant.ne_nil hvariant
  have hkept : [some language, script, territory, variant].filterMap id =
      language :: (script.toList ++ (territory.toList ++ variant.toList)) := by
    cases script <;> cases territory <;> cases variant <;> rfl
  simp only [standardIdentifier, hsubtags, hkept, hmodifier, Locale.Parts.name,
    Locale.Parts.subtags]
  cases modifier? tag with
  | none => exact (List.append_nil _).symm
  | some modifier => rfl

theorem isPrintable_of_ofSubtags {reason : Text}
    (h : ofSubtags identifier subtags = .error reason) :
    reason.IsPrintable := by
  unfold ofSubtags at h
  generalize Text.lower (subtags.headD []) = language at h
  by_cases hletters : language.isLetters = true
  · by_cases hrest : (takeVariant (takeTerritory (takeScript subtags.tail).2).2).2 = []
    · simp [hletters, hrest, pure, Except.pure] at h
    · have hreason : reason = identifier.quoted ++ " is not a valid locale identifier" := by
        simpa [hletters, hrest, throw, throwThe, MonadExceptOf.throw, bind, Except.bind]
          using h.symm
      rw [hreason, Text.isPrintable_append]
      exact ⟨Text.isPrintable_quoted _, by decide⟩
  · have hreason : reason = "expected only letters, got " ++ language.quoted := by
      simpa [hletters, throw, throwThe, MonadExceptOf.throw, bind, Except.bind] using h.symm
    rw [hreason, Text.isPrintable_append]
    exact ⟨by decide, Text.isPrintable_quoted _⟩

theorem isPrintable_of_standardParse {reason : Text} (h : standardParse tag = .error reason) :
    reason.IsPrintable := by
  unfold standardParse at h
  by_cases hempty : tag = []
  · simp [hempty, throw, throwThe, MonadExceptOf.throw, bind, Except.bind] at h
    subst h
    decide
  · cases hread : ofSubtags ((tag.before '@').before '.')
      (List.splitOn '_' ((tag.before '@').before '.')) with
    | ok q => simp [hempty, hread, Functor.map, Except.map] at h
    | error fault =>
      simp [hempty, hread, Functor.map, Except.map] at h
      exact h ▸ isPrintable_of_ofSubtags hread

/-- The library for tags of the usual form keeps to the grammar. -/
theorem standard_isDocumented : standard.IsDocumented where
  names_of_parse := names_of_standardParse
  parse_of_names := standardParse_of_names
  identifier_of_names := standardIdentifier_of_names
  isPrintable_of_parse := isPrintable_of_standardParse

end TagLibrary

end Numerus
