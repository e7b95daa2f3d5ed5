import Mathlib
import Numerus.Proofs.LocaleTag

/-!
Spellings of a locale tag.

With a library that keeps to the grammar of tags, an ASCII tag names the same locale in all its
spellings: in other case before the modifier, with hyphens for underscores or the other way round,
with blanks around it. The forms of subtags hold and are written without regard to case, so that
only the tag in lower case matters. The name of the locale is one more of these spellings, but for
the encoding, which it leaves out.

* `Locale.Names.congr` — tags that differ in case alone name the same parts.
* `Locale.Names.name_eq` — the name of a locale is its tag in other case.
* `Locale.one_locale_across_spellings` — the spellings of a tag and its name name one locale.
-/

namespace Numerus

/-! ### ASCII characters in lower case -/

section Characters

variable {c mark : Char}

theorem toLower_of_beyond_ascii (hc : 0x80 ≤ c.toNat) : c.toLower = c := by
  refine Char.toLower_eq_of_not_isUpper fun hupper => ?_
  simp [Char.isUpper, UInt32.le_iff_toNat_le, ← Char.toNat_val] at hupper hc
  omega

theorem toNat_toLower_lt_iff : c.toLower.toNat < 0x80 ↔ c.toNat < 0x80 := by
  by_cases hc : c.toNat < 0x80
  · have hlower : c.toLower.toNat < 0x80 :=
      of_ascii (p := fun c => c.toLower.toNat < 0x80) (by decide +kernel) hc
    simp [hc, hlower]
  · rw [toLower_of_beyond_ascii (by omega)]

/-- A character that is no letter of ASCII is the lower case of itself alone. -/
theorem toLower_eq_mark_iff (hmark : mark.isAlpha = false) : c.toLower = mark ↔ c = mark := by
  have hself {d : Char} (hd : d.isAlpha = false) : d.toLower = d :=
    Char.toLower_eq_of_not_isUpper fun hupper => by
      simp [Char.isAlpha, hupper] at hd
  constructor
  · rintro rfl
    exact (hself (Char.isAlpha_toLower_eq_isAlpha c ▸ hmark)).symm
  · rintro rfl
    exact hself hmark

theorem isLetter_toLower (hc : c.toNat < 0x80) : isLetter c.toLower = isLetter c :=
  of_ascii (p := fun c => isLetter c.toLower = isLetter c) (by decide +kernel) hc

theorem isDigitSign_toLower (hc : c.toNat < 0x80) : isDigitSign c.toLower = isDigitSign c :=
  of_ascii (p := fun c => isDigitSign c.toLower = isDigitSign c) (by decide +kernel) hc

/-- The digits of ASCII have no case. -/
theorem toLower_of_isDigitSign (hc : c.toNat < 0x80) (hdigit : isDigitSign c = true) :
    c.toLower = c :=
  of_ascii (p := fun c => isDigitSign c = true → c.toLower = c) (by decide +kernel) hc hdigit

theorem isCased_toLower (hc : c.toNat < 0x80) : isCased c.toLower = isCased c := by
  rw [isCased, isCased, if_pos hc, if_pos (toNat_toLower_lt_iff.2 hc),
    Char.isAlpha_toLower_eq_isAlpha]

theorem isBlank_toLower : isBlank c.toLower = isBlank c := by
  by_cases hc : c.toNat < 0x80
  · exact of_ascii (p := fun c => isBlank c.toLower = isBlank c) (by decide +kernel) hc
  · rw [toLower_of_beyond_ascii (by omega)]

theorem lowerWithin_of_ascii (hc : c.toNat < 0x80) (preceding following : Text) :
    Text.lowerWithin preceding following c = [c.toLower] := by
  have hsigma : c ≠ 'Σ' := by
    rintro rfl
    exact absurd hc (by decide)
  rw [Text.lowerWithin, if_neg hsigma, lowerOf, if_pos hc]

end Characters

/-! ### ASCII texts in lower case -/

namespace Text

/-- The text with the letters of ASCII in lower case. -/
def folded (t : Text) : Text := t.map Char.toLower

variable {t u : Text} {mark : Char}

@[simp] theorem folded_cons {c : Char} : folded (c :: t) = c.toLower :: folded t := rfl

@[simp] theorem folded_append : folded (t ++ u) = folded t ++ folded u := List.map_append

@[simp] theorem length_folded : (folded t).length = t.length := List.length_map _

@[simp] theorem folded_eq_nil_iff : folded t = [] ↔ t = [] := List.map_eq_nil_iff

@[simp] theorem folded_folded : folded (folded t) = folded t := by
  simp [folded, Function.comp_def]

/-- What does not depend on the case of ASCII texts is the same for texts that differ in case. -/
theorem eq_of_folded_eq {α : Type} {f : Text → α} (hf : ∀ {t}, IsAscii t → f (folded t) = f t)
    (ht : IsAscii t) (hu : IsAscii u) (h : folded u = folded t) : f u = f t := by
  rw [← hf hu, h, hf ht]

theorem isAscii_cons {c : Char} : IsAscii (c :: t) ↔ c.toNat < 0x80 ∧ IsAscii t :=
  List.forall_mem_cons

theorem isAscii_folded_iff : IsAscii (folded t) ↔ IsAscii t := by
  simp [IsAscii, folded, toNat_toLower_lt_iff]

theorem IsAscii.of_folded_eq (h : folded t = folded u) (ht : IsAscii t) : IsAscii u := by
  rwa [← isAscii_folded_iff, ← h, isAscii_folded_iff]

theorem mem_folded_iff (hmark : mark.isAlpha = false) : mark ∈ folded t ↔ mark ∈ t := by
  simp [folded, toLower_eq_mark_iff hmark]

theorem folded_bne_nil : (folded t != []) = (t != []) := by
  cases t <;> rfl

theorem all_folded {p : Char → Bool} (hp : ∀ c ∈ t, p c.toLower = p c) :
    (folded t).all p = t.all p := by
  rw [Bool.eq_iff_iff]
  simp only [folded, List.all_map, List.all_eq_true, Function.comp_apply]
  exact forall₂_congr fun c hc => by rw [hp c hc]

/-! Recognizing a text of ASCII does not depend on its case. -/

theorem isLetters_folded (ht : IsAscii t) : isLetters (folded t) = isLetters t := by
  rw [isLetters, all_folded fun c hc => isLetter_toLower (ht c hc), folded_bne_nil, ← isLetters]

theorem isDigits_folded (ht : IsAscii t) : isDigits (folded t) = isDigits t := by
  rw [isDigits, all_folded fun c hc => isDigitSign_toLower (ht c hc), folded_bne_nil, ← isDigits]

theorem folded_of_isDigits (ht : IsAscii t) (hdigits : isDigits t = true) : folded t = t := by
  refine (List.map_congr_left fun c hc => ?_).trans (List.map_id t)
  have hall := List.all_eq_true.1 (Bool.and_eq_true_iff.1 hdigits).2
  exact toLower_of_isDigitSign (ht c hc) (hall c hc)

theorem head_of_folded_eq {p : Char → Bool} (hp : ∀ {c : Char}, c.toNat < 0x80 → p c.toLower = p c)
    (ht : IsAscii t) (hu : IsAscii u) (h : folded u = folded t)
    (hhead : ∀ c ∈ t.head?, p c = true) :
    ∀ c ∈ u.head?, p c = true := by
  intro d hd
  obtain ⟨u, rfl⟩ := List.head?_eq_some_iff.1 hd
  cases t with
  | nil => contradiction
  | cons c t =>
    have hlower : d.toLower = c.toLower := (List.cons.inj h).1
    rw [← hp (isAscii_cons.1 hu).1, hlower, hp (isAscii_cons.1 ht).1]
    exact hhead c rfl

/-! Nor does writing it in another case; and that changes its case alone. -/

theorem lower_eq_folded (ht : IsAscii t) : lower t = folded t := by
  have go (preceding t : Text) (ht : IsAscii t) : lower.go preceding t = folded t := by
    induction t generalizing preceding with
    | nil => rfl
    | cons c t ih =>
      obtain ⟨hc, ht⟩ := isAscii_cons.1 ht
      rw [lower.go, lowerWithin_of_ascii hc, ih _ ht]
      rfl
  exact go [] t ht

theorem upper_eq_map (ht : IsAscii t) : upper t = t.map Char.toUpper := by
  induction t with
  | nil => rfl
  | cons c t ih =>
    obtain ⟨hc, ht⟩ := isAscii_cons.1 ht
    rw [upper, List.flatMap_cons, upperOf, if_pos hc, ← upper, ih ht]
    rfl

theorem upper_folded (ht : IsAscii t) : upper (folded t) = upper t := by
  rw [upper_eq_map ht, upper_eq_map (isAscii_folded_iff.2 ht)]
  simp [folded, Function.comp_def]

theorem folded_upper (ht : IsAscii t) : folded (upper t) = folded t := by
  rw [upper_eq_map ht]
  simp [folded, Function.comp_def]

theorem title_folded (ht : IsAscii t) : title (folded t) = title t := by
  have go (preceding t : Text) (hp : IsAscii preceding) (ht : IsAscii t) :
      title.go (folded preceding) (folded t) = title.go preceding t := by
    induction t generalizing preceding with
    | nil => rfl
    | cons c t ih =>
      obtain ⟨hc, ht⟩ := isAscii_cons.1 ht
      have hlower := toNat_toLower_lt_iff.2 hc
      have hcased : (folded preceding).head?.map isCased = preceding.head?.map isCased := by
        cases preceding with
        | nil => rfl
        | cons d preceding => simp [isCased_toLower (isAscii_cons.1 hp).1]
      have hrest := ih (c :: preceding) (isAscii_cons.2 ⟨hc, hp⟩) ht
      rw [folded_cons] at hrest
      rw [folded_cons, title.go, title.go, hcased, hrest, lowerWithin_of_ascii hc,
        lowerWithin_of_ascii hlower, titleOf, titleOf, if_pos hc, if_pos hlower,
        Char.toLower_toLower_eq_toLower, Char.toUpper_toLower_eq_toUpper]
  exact go [] t (by simp [IsAscii]) ht

theorem folded_title (ht : IsAscii t) : folded (title t) = folded t := by
  have go (preceding t : Text) (ht : IsAscii t) : folded (title.go preceding t) = folded t := by
    induction t generalizing preceding with
    | nil => rfl
    | cons c t ih =>
      obtain ⟨hc, ht⟩ := isAscii_cons.1 ht
      rw [title.go, folded_append, ih _ ht, lowerWithin_of_ascii hc, titleOf, if_pos hc]
      split <;> simp
  exact go [] t ht

/-! Marks part a text where they part it in lower case. -/

theorem before_folded (hmark : mark.isAlpha = false) :
    before mark (folded t) = folded (before mark t) := by
  have hcomp : (· != mark) ∘ Char.toLower = (· != mark) := funext fun c => by
    rw [Bool.eq_iff_iff]
    simp [toLower_eq_mark_iff hmark]
  rw [before, folded, List.takeWhile_map, hcomp]
  rfl

theorem splitOn_folded (hmark : mark.isAlpha = false) :
    List.splitOn mark (folded t) = (List.splitOn mark t).map folded := by
  induction t with
  | nil => rfl
  | cons c t ih =>
    have hc : (c.toLower == mark) = (c == mark) := by
      rw [Bool.eq_iff_iff]
      simp [toLower_eq_mark_iff hmark]
    simp only [List.splitOn] at ih ⊢
    rw [folded_cons, List.splitOnP_cons_eq_if_modifyHead, List.splitOnP_cons_eq_if_modifyHead, ih,
      hc]
    split
    · rfl
    · cases List.splitOnP (· == mark) t <;> rfl

theorem folded_joined {separator : Text} (hseparator : folded separator = separator)
    (ts : List Text) : folded (joined separator ts) = joined separator (ts.map folded) := by
  induction ts with
  | nil => rfl
  | cons t ts ih =>
    cases ts with
    | nil => simp [joined]
    | cons u ts =>
      simp only [joined, List.map_cons, List.intercalate_cons_cons, folded_append] at ih ⊢
      rw [ih, hseparator]

/-- A text whose part before the mark is known. -/
theorem before_append {rest : Text} (ht : mark ∉ t) (hrest : ∀ c ∈ rest.head?, c = mark) :
    before mark (t ++ rest) = t ∧ after mark (t ++ rest) = rest.tail := by
  have hkept : ∀ c ∈ t, (c != mark) = true := fun c hc => by
    simpa using fun heq : c = mark => ht (heq ▸ hc)
  have hstop : rest.takeWhile (· != mark) = [] ∧ rest.dropWhile (· != mark) = rest := by
    cases rest with
    | nil => exact ⟨rfl, rfl⟩
    | cons c rest =>
      obtain rfl := hrest c rfl
      simp
  rw [before, after, List.takeWhile_append_of_pos hkept, List.dropWhile_append_of_pos hkept,
    hstop.1, hstop.2, List.append_nil]
  exact ⟨rfl, rfl⟩

/-- Stripping takes the blanks around a text off, and no more of a text without blanks. -/
theorem strip_between {lead trail : Text} (hlead : ∀ c ∈ lead, Numerus.isBlank c = true)
    (ht : ∀ c ∈ t, Numerus.isBlank c = false) (htrail : ∀ c ∈ trail, Numerus.isBlank c = true) :
    strip (lead ++ (t ++ trail)) = t := by
  cases t with
  | nil =>
    have hall : ∀ c ∈ lead ++ trail, Numerus.isBlank c = true := by
      simpa [or_imp, forall_and] using And.intro hlead htrail
    rw [strip, List.nil_append, List.dropWhile_eq_nil_iff.2 hall]
    rfl
  | cons c t =>
    have hback : (c :: t).reverse.dropWhile Numerus.isBlank = (c :: t).reverse := by
      have h := congrArg List.reverse (strip_eq_self ht)
      rwa [strip, List.reverse_reverse, List.dropWhile_cons_of_neg (by simp [ht])] at h
    rw [strip, List.dropWhile_append_of_pos hlead, List.cons_append,
      List.dropWhile_cons_of_neg (by simp [ht]), ← List.cons_append, List.reverse_append,
      List.dropWhile_append_of_pos fun c hc => htrail c (List.mem_reverse.1 hc), hback,
      List.reverse_reverse]

end Text

namespace Locale

/-! ### Subtags in lower case -/

section Subtags

variable {s s' part : Text}

theorem Recased.folded_eq (h : Recased s part) (hs : s.IsAscii) : part.folded = s.folded := by
  cases h with
  | same => rfl
  | lower => rw [Text.lower_eq_folded hs, Text.folded_folded]
  | upper => exact Text.folded_upper hs
  | title => exact Text.folded_title hs

theorem map_folded_of_recased {subtags parts : List Text}
    (h : List.Forall₂ Recased subtags parts) (hascii : ∀ s ∈ subtags, s.IsAscii) :
    parts.map Text.folded = subtags.map Text.folded := by
  induction h with
  | nil => rfl
  | cons hrecased _ ih =>
    obtain ⟨hs, hrest⟩ := List.forall_mem_cons.1 hascii
    rw [List.map_cons, List.map_cons, hrecased.folded_eq hs, ih hrest]

/-! The form of a subtag does not depend on its case, nor does the part that it is written as. -/

theorem IsLanguage.congr (h : IsLanguage s part) (hs : s.IsAscii) (heq : s'.folded = s.folded) :
    IsLanguage s' part := by
  have hs' := hs.of_folded_eq heq.symm
  have hlower : Text.lower s' = Text.lower s := by
    rw [Text.lower_eq_folded hs', Text.lower_eq_folded hs, heq]
  obtain ⟨hletters⟩ := h
  rw [← hlower] at hletters ⊢
  exact .intro hletters

theorem IsScript.congr (h : IsScript s part) (hs : s.IsAscii) (heq : s'.folded = s.folded) :
    IsScript s' part := by
  have hs' := hs.of_folded_eq heq.symm
  have hlength : s'.length = s.length := by simpa using congrArg List.length heq
  obtain ⟨hlength', hletters⟩ := h
  rw [← Text.eq_of_folded_eq Text.title_folded hs hs' heq]
  rw [← Text.eq_of_folded_eq Text.isLetters_folded hs hs' heq] at hletters
  exact .intro (hlength.trans hlength') hletters

theorem IsTerritory.congr (h : IsTerritory s part) (hs : s.IsAscii) (heq : s'.folded = s.folded) :
    IsTerritory s' part := by
  have hs' := hs.of_folded_eq heq.symm
  have hlength : s'.length = s.length := by simpa using congrArg List.length heq
  cases h with
  | letters hlength' hletters =>
    rw [← Text.eq_of_folded_eq Text.upper_folded hs hs' heq]
    rw [← Text.eq_of_folded_eq Text.isLetters_folded hs hs' heq] at hletters
    exact .letters (hlength.trans hlength') hletters
  | digits hlength' hdigits =>
    have hdigits' := hdigits
    rw [← Text.eq_of_folded_eq Text.isDigits_folded hs hs' heq] at hdigits'
    rw [Text.folded_of_isDigits hs' hdigits', Text.folded_of_isDigits hs hdigits] at heq
    subst heq
    exact .digits hlength' hdigits

theorem IsVariant.congr (h : IsVariant s part) (hs : s.IsAscii) (heq : s'.folded = s.folded) :
    IsVariant s' part := by
  have hs' := hs.of_folded_eq heq.symm
  have hlength : s'.length = s.length := by simpa using congrArg List.length heq
  cases h with
  | letter hlength' hhead =>
    rw [← Text.eq_of_folded_eq Text.upper_folded hs hs' heq]
    exact .letter (hlength ▸ hlength') (Text.head_of_folded_eq isLetter_toLower hs hs' heq hhead)
  | digit hlength' hhead =>
    rw [← Text.eq_of_folded_eq Text.upper_folded hs hs' heq]
    exact .digit (hlength.trans hlength')
      (Text.head_of_folded_eq isDigitSign_toLower hs hs' heq hhead)

theorem rel_congr {form : Text → Text → Prop} {o o' parts : Option Text}
    (h : Option.Rel form o parts) (ho : ∀ s ∈ o, s.IsAscii)
    (heq : o'.map Text.folded = o.map Text.folded)
    (hform : ∀ {s s' part}, form s part → s.IsAscii → s'.folded = s.folded → form s' part) :
    Option.Rel form o' parts := by
  cases h with
  | none =>
    obtain rfl := Option.map_eq_none_iff.1 heq
    exact .none
  | some h =>
    obtain ⟨s', rfl, hs'⟩ := Option.map_eq_some_iff.1 heq
    exact .some (hform h (ho _ rfl) hs')

/-- Lists that are mapped alike are parted alike. -/
theorem exists_append_of_map_eq {f : Text → Text} {o : Option Text} {subtags rest : List Text}
    (h : subtags.map f = (o.toList ++ rest).map f) :
    ∃ (o' : Option Text) (rest' : List Text), subtags = o'.toList ++ rest' ∧
      o'.map f = o.map f ∧ rest'.map f = rest.map f := by
  cases o with
  | none => exact ⟨none, subtags, rfl, rfl, h⟩
  | some s =>
    obtain ⟨s', rest', rfl, hs', hrest'⟩ := List.map_eq_cons_iff.1 h
    exact ⟨some s', rest', rfl, congrArg some hs', hrest'⟩

end Subtags

/-! ### Tags in lower case -/

section Tags

variable {tag tag' : Text} {p : Parts}

/-- Tags that differ in the case of their subtags alone name the same locale. -/
theorem Names.congr (h : Names tag p) (hascii : (body tag).IsAscii)
    (hfolded : (body tag').folded = (body tag).folded)
    (hmodifier : tag'.after '@' = tag.after '@') : Names tag' p := by
  obtain @⟨s, language, s₁, s₂, s₃, script, territory, variant, hsubtags, hlanguage, hscript,
    hterritory, hvariant⟩ := h
  have hmap : (List.splitOn '_' (body tag')).map Text.folded =
      (List.splitOn '_' (body tag)).map Text.folded := by
    rw [← Text.splitOn_folded rfl, hfolded, Text.splitOn_folded rfl]
  have hpieces : ∀ s ∈ List.splitOn '_' (body tag), Text.IsAscii s := hascii.of_mem_splitOn
  rw [hsubtags] at hmap hpieces
  obtain ⟨s', rest, hsplit, hs', hrest⟩ := List.map_eq_cons_iff.1 hmap
  obtain ⟨s₁', rest, rfl, hs₁', hrest⟩ := exists_append_of_map_eq hrest
  obtain ⟨s₂', rest, rfl, hs₂', hrest⟩ := exists_append_of_map_eq hrest
  rw [← List.append_nil s₃.toList] at hrest
  obtain ⟨s₃', rest, rfl, hs₃', hrest⟩ := exists_append_of_map_eq hrest
  obtain rfl := List.map_eq_nil_iff.1 hrest
  rw [List.append_nil] at hsplit
  have hmodifier : modifier? tag = modifier? tag' := by rw [modifier?, modifier?, hmodifier]
  rw [hmodifier]
  obtain ⟨hs, hrest⟩ := List.forall_mem_cons.1 hpieces
  obtain ⟨hs₁, hrest⟩ := List.forall_mem_append.1 hrest
  obtain ⟨hs₂, hs₃⟩ := List.forall_mem_append.1 hrest
  have hscript' : Option.Rel IsScript s₁' script :=
    rel_congr hscript (fun t ht => hs₁ t (Option.mem_toList.2 ht)) hs₁' IsScript.congr
  have hterritory' : Option.Rel IsTerritory s₂' territory :=
    rel_congr hterritory (fun t ht => hs₂ t (Option.mem_toList.2 ht)) hs₂' IsTerritory.congr
  have hvariant' : Option.Rel IsVariant s₃' variant :=
    rel_congr hvariant (fun t ht => hs₃ t (Option.mem_toList.2 ht)) hs₃' IsVariant.congr
  exact .intro hsplit (hlanguage.congr hs hs') hscript' hterritory' hvariant'

/-- The name of a locale is its tag without the encoding, in another case. -/
theorem Names.name_eq (h : Names tag p) (hascii : (body tag).IsAscii) :
    ∃ head rest, p.name = head ++ rest ∧ head.folded = (body tag).folded ∧
      (∀ c ∈ rest.head?, c = '@') ∧ rest.tail = tag.after '@' := by
  have hfolded := map_folded_of_recased h.recased hascii.of_mem_splitOn
  refine ⟨_, _, rfl, ?_, ?_, ?_⟩
  · rw [Text.folded_joined rfl, hfolded, ← Text.folded_joined rfl]
    exact congrArg Text.folded (List.intercalate_splitOn '_')
  · rw [h.modifier_eq, modifier?]
    split <;> simp
  · rw [h.modifier_eq, modifier?]
    split
    · next hnone => exact hnone.symm
    · rfl

/-- A tag in lower case has blanks where the tag has them. -/
theorem forall_isBlank_of_map_eq {f : Char → Char} (hf : ∀ c, isBlank (f c) = isBlank c)
    {s t : Text} (h : s.map f = t.map f) (ht : ∀ c ∈ t, isBlank c = false) :
    ∀ c ∈ s, isBlank c = false := by
  intro c hc
  obtain ⟨d, hd, heq⟩ := List.mem_map.1 (h ▸ List.mem_map_of_mem hc)
  rw [← hf, ← heq, hf]
  exact ht d hd

/-- The name of a locale is read like its tag: no case mapping brings in a mark. -/
theorem Names.names_name (h : Names tag p) (hascii : (body tag).IsAscii) :
    (body p.name).IsAscii ∧ Names p.name p := by
  obtain ⟨head, rest, hname, hfolded, hhead, htail⟩ := h.name_eq hascii
  have hat : '@' ∉ head := by
    rw [← Text.mem_folded_iff rfl, hfolded, Text.mem_folded_iff rfl]
    exact fun hmem => Text.notMem_before '@' tag (Text.mem_of_mem_before hmem)
  have hpoint : '.' ∉ head := by
    rw [← Text.mem_folded_iff rfl, hfolded, Text.mem_folded_iff rfl]
    exact Text.notMem_before '.' _
  obtain ⟨hbefore, hafter⟩ := Text.before_append hat hhead
  have hbodies : (body p.name).folded = (body tag).folded := by
    rw [hname, body, hbefore, Text.before_eq_self_iff.2 hpoint, hfolded]
  have hmodifier : p.name.after '@' = tag.after '@' := by rw [hname, hafter, htail]
  exact ⟨hascii.of_folded_eq hbodies.symm, h.congr hascii hbodies hmodifier⟩

/-- The name of a locale has no blanks if its tag has none. -/
theorem Names.isBlank_name (h : Names tag p) (hascii : (body tag).IsAscii)
    (hblank : ∀ c ∈ tag, isBlank c = false) : ∀ c ∈ p.name, isBlank c = false := by
  obtain ⟨head, rest, hname, hfolded, hhead, htail⟩ := h.name_eq hascii
  rw [hname]
  refine List.forall_mem_append.2 ⟨?_, ?_⟩
  · exact forall_isBlank_of_map_eq (fun _ => isBlank_toLower) hfolded fun c hc =>
      hblank c (mem_of_mem_body hc)
  · cases rest with
    | nil => simp
    | cons d rest =>
      obtain rfl := hhead d rfl
      rw [List.tail_cons] at htail
      exact List.forall_mem_cons.2
        ⟨by decide, fun c hc => hblank c (Text.mem_of_mem_after (htail ▸ hc))⟩

/-- The name of a locale opens with its language. -/
theorem Parts.language_opens_name (p : Parts) :
    p.name = p.language ∨ p.language ++ ['_'] <+: p.name ∨ p.language ++ ['@'] <+: p.name := by
  rw [Parts.name, Parts.subtags]
  cases p.script.toList ++ (p.territory.toList ++ p.variant.toList) with
  | nil =>
    cases p.modifier with
    | none => simp [Text.joined]
    | some modifier => exact .inr (.inr ⟨modifier, by simp [Text.joined]⟩)
  | cons subtag more =>
    refine .inr (.inl ?_)
    rw [Text.joined, List.intercalate_cons_cons, List.append_assoc, List.append_assoc]
    exact List.prefix_append_right_inj _ |>.2 (List.prefix_append _ _)

end Tags

/-! ### Spellings -/

/-- The characters of which a tag is made up. -/
def isTagChar (c : Char) : Bool := c.isAlphanum || ['-', '_', '.', '@'].contains c

/-- The spellings of a tag: with hyphens and underscores exchanged, with letters before the first
at sign in the other case, with blanks around it. -/
inductive Respells (tag : Text) : Text → Prop
  | intro {lead head rest trail : Text} (hlead : ∀ c ∈ lead, isBlank c = true)
      (hhead : head.map (fun c => (separated c).toLower) =
        (tag.before '@').map fun c => (separated c).toLower)
      (hrest : rest.map separated = (tag.dropWhile (· != '@')).map separated)
      (htrail : ∀ c ∈ trail, isBlank c = true) :
      Respells tag (lead ++ ((head ++ rest) ++ trail))

section Spellings

variable {library : TagLibrary} {tag tag' : Text} {c : Char} {l : Locale} {p : Parts}

theorem toNat_lt_of_isTagChar (h : isTagChar c = true) : c.toNat < 0x80 := by
  rcases Bool.or_eq_true_iff.1 h with h | h
  · have hz : 'z'.val.toNat = 122 := rfl
    have hZ : 'Z'.val.toNat = 90 := rfl
    have h9 : '9'.val.toNat = 57 := rfl
    simp only [Char.isAlphanum, Char.isAlpha, Char.isUpper, Char.isLower, Char.isDigit,
      Bool.or_eq_true, Bool.and_eq_true, decide_eq_true_eq, UInt32.le_iff_toNat_le, ge_iff_le] at h
    rw [← Char.toNat_val]
    omega
  · have hmarks : ['-', '_', '.', '@'].all (·.toNat < 0x80) = true := by decide
    simpa using List.all_eq_true.1 hmarks c (List.contains_iff_mem.1 h)

theorem isBlank_of_isTagChar (h : isTagChar c = true) : isBlank c = false :=
  of_ascii (p := fun c => isTagChar c = true → isBlank c = false) (by decide +kernel)
    (toNat_lt_of_isTagChar h) h

theorem toNat_separated_lt (h : c.toNat < 0x80) : (separated c).toNat < 0x80 := by
  unfold separated
  split
  · decide
  · exact h

theorem separated_eq_at_iff : separated c = '@' ↔ c = '@' := by
  unfold separated
  split
  · next h => simp [h]
  · rfl

theorem Names.append_congr {head head' rest : Text} (h : Names (head ++ rest) p) (hat : '@' ∉ head)
    (hrest : ∀ c ∈ rest.head?, c = '@') (hascii : head.IsAscii)
    (hfolded : head'.folded = head.folded) :
    (body (head' ++ rest)).IsAscii ∧ Names (head' ++ rest) p := by
  have hat' : '@' ∉ head' := by
    rwa [← Text.mem_folded_iff rfl, hfolded, Text.mem_folded_iff rfl]
  obtain ⟨hbefore, hafter⟩ := Text.before_append hat hrest
  obtain ⟨hbefore', hafter'⟩ := Text.before_append hat' hrest
  have hbody : (body (head ++ rest)).IsAscii := by
    intro c hc
    rw [body, hbefore] at hc
    exact hascii c (Text.mem_of_mem_before hc)
  have hbodies : (body (head' ++ rest)).folded = (body (head ++ rest)).folded := by
    rw [body, body, hbefore, hbefore', ← Text.before_folded rfl, hfolded, Text.before_folded rfl]
  exact ⟨hbody.of_folded_eq hbodies.symm, h.congr hbody hbodies (hafter'.trans hafter.symm)⟩

/-- A library that keeps to the grammar takes an ASCII tag for the locale that it names. -/
theorem ofTag_of_names (hlibrary : library.IsDocumented)
    (hascii : (body (underscored tag.strip)).IsAscii) (h : Names (underscored tag.strip) p) :
    ofTag library tag = .ok ⟨p.name, p.language⟩ :=
  ofTag_eq_ok_iff.2 ⟨p, hlibrary.parse_of_names hascii h, by rw [hlibrary.identifier_of_names h]⟩

/-- The spellings of a tag name its locale. -/
theorem ofTag_of_respells (hlibrary : library.IsDocumented) (htag : ∀ c ∈ tag, isTagChar c = true)
    (h : ofTag library tag = .ok l) (hspelled : Respells tag tag') :
    ofTag library tag' = .ok l := by
  obtain ⟨p, hp, rfl⟩ := exists_names hlibrary h
  have hblank : ∀ c ∈ tag, isBlank c = false := fun c hc => isBlank_of_isTagChar (htag c hc)
  have hparted : tag.before '@' ++ tag.dropWhile (· != '@') = tag :=
    List.takeWhile_append_dropWhile
  rw [Text.strip_eq_self hblank, ← hparted, underscored, List.map_append] at hp
  cases hspelled with
  | @intro lead head rest trail hlead hhead hrest htrail =>
    have hhead_blank := forall_isBlank_of_map_eq
      (fun c => by rw [isBlank_toLower, isBlank_separated]) hhead
      fun c hc => hblank c (Text.mem_of_mem_before hc)
    have hrest_blank := forall_isBlank_of_map_eq isBlank_separated hrest
      fun c hc => hblank c ((List.dropWhile_sublist _).mem hc)
    have hstrip := Text.strip_between hlead
      (List.forall_mem_append.2 ⟨hhead_blank, hrest_blank⟩) htrail
    have hread : underscored (Text.strip (lead ++ ((head ++ rest) ++ trail))) =
        head.map separated ++ (tag.dropWhile (· != '@')).map separated := by
      rw [hstrip, underscored, List.map_append, hrest]
    have hcongr : (body (head.map separated ++ (tag.dropWhile (· != '@')).map separated)).IsAscii ∧
        Names (head.map separated ++ (tag.dropWhile (· != '@')).map separated) p := by
      refine hp.append_congr ?_ ?_ ?_ ?_
      · intro hmem
        obtain ⟨c, hc, heq⟩ := List.mem_map.1 hmem
        exact Text.notMem_before '@' tag (separated_eq_at_iff.1 heq ▸ hc)
      · intro c hc
        rw [List.head?_map, Option.mem_map] at hc
        obtain ⟨d, hd, rfl⟩ := hc
        have hstop := List.head?_dropWhile_not (· != '@') tag
        rw [Option.mem_def.1 hd] at hstop
        exact separated_eq_at_iff.2 (by simpa using hstop)
      · intro c hc
        obtain ⟨d, hd, rfl⟩ := List.mem_map.1 hc
        exact toNat_separated_lt (toNat_lt_of_isTagChar (htag d (Text.mem_of_mem_before hd)))
      · rw [Text.folded, Text.folded, List.map_map, List.map_map]
        exact hhead
    rw [← hread] at hcongr
    exact ofTag_of_names hlibrary hcongr.1 hcongr.2

/-- The name of a locale names it. -/
theorem ofTag_name (hlibrary : library.IsDocumented) (htag : ∀ c ∈ tag, isTagChar c = true)
    (h : ofTag library tag = .ok l) : ofTag library l.name = .ok l := by
  have hunderscored := underscored_name hlibrary h
  obtain ⟨p, hp, rfl⟩ := exists_names hlibrary h
  have hblank : ∀ c ∈ tag, isBlank c = false := fun c hc => isBlank_of_isTagChar (htag c hc)
  rw [Text.strip_eq_self hblank] at hp
  have hascii : (body (underscored tag)).IsAscii := by
    intro c hc
    obtain ⟨d, hd, rfl⟩ := List.mem_map.1 (mem_of_mem_body hc)
    exact toNat_separated_lt (toNat_lt_of_isTagChar (htag d hd))
  have hname : ∀ c ∈ p.name, isBlank c = false := by
    refine hp.isBlank_name hascii fun c hc => ?_
    obtain ⟨d, hd, rfl⟩ := List.mem_map.1 hc
    rw [isBlank_separated]
    exact hblank d hd
  have hread : underscored p.name.strip = p.name := by
    rw [Text.strip_eq_self hname]
    exact hunderscored
  obtain ⟨hascii', hnames⟩ := hp.names_name hascii
  rw [← hread] at hascii' hnames
  exact ofTag_of_names hlibrary hascii' hnames

end Spellings

/-- **One locale across spellings.** Let tags be read by a library that keeps to their grammar. One
locale is named by a tag, by its name and by all spellings of the tag; and its name opens with its
language. -/
theorem one_locale_across_spellings {library : TagLibrary} (hlibrary : library.IsDocumented)
    {tag : Text} {l : Locale} (htag : ∀ c ∈ tag, isTagChar c = true)
    (h : ofDatum library (.text tag) = .ok l) :
    ofDatum library (.text l.name) = .ok l ∧
      (∀ tag', Respells tag tag' → ofDatum library (.text tag') = .ok l) ∧
      (l.name = l.language ∨ l.language ++ ['_'] <+: l.name ∨ l.language ++ ['@'] <+: l.name) := by
  change ofTag library tag = .ok l at h
  refine ⟨ofTag_name hlibrary htag h, fun tag' => ofTag_of_respells hlibrary htag h, ?_⟩
  obtain ⟨p, -, rfl⟩ := exists_names hlibrary h
  exact p.language_opens_name

/-- A tag with an encoding and a modifier, its name and another of its spellings. -/
theorem serbian_across_spellings :
    ofDatum .standard (.text "SR-latn_ba.UTF-8@x.y-Z") = .ok ⟨"sr_Latn_BA@x.y_Z", "sr"⟩ ∧
      ofDatum .standard (.text "sr_Latn_BA@x.y_Z") = .ok ⟨"sr_Latn_BA@x.y_Z", "sr"⟩ ∧
      ofDatum .standard (.text " sr_LATN-Ba.utf_8@x.y_Z\n") = .ok ⟨"sr_Latn_BA@x.y_Z", "sr"⟩ := by
  have h : ofDatum .standard (.text "SR-latn_ba.UTF-8@x.y-Z") =
      .ok ⟨"sr_Latn_BA@x.y_Z", "sr"⟩ := by
    decide +kernel
  have hspelled : Respells "SR-latn_ba.UTF-8@x.y-Z"
      (" ".toList ++ (("sr_LATN-Ba.utf_8".toList ++ "@x.y_Z".toList) ++ "\n".toList)) :=
    .intro (List.all_eq_true.1 (by decide)) (by decide +kernel) (by decide +kernel)
      (List.all_eq_true.1 (by decide))
  obtain ⟨hname, hspellings, -⟩ := one_locale_across_spellings TagLibrary.standard_isDocumented
    (List.all_eq_true.1 (by decide +kernel)) h
  exact ⟨h, hname, hspellings _ hspelled⟩

end Locale

end Numerus
