import Numerus.Proofs.Spelling
import Numerus.Proofs.Validity

/-!
White space around rules.

Between tokens the compiler skips spaces and tabs only, while texts are stripped of white space of
every kind. No token of a rule has a blank, so the blanks of a text that compiles are spaces and
tabs, and to take them off its ends leaves the lexemes as they are.

* `Lexes.surround_iff` — spaces and tabs at the ends of a text do not matter to its lexemes.
* `Rule.isSpace_of_compile` — the blanks of a rule are spaces and tabs.
* `Rule.compile_stripSamples` — a rule without samples and without blanks at its ends is the same.
* `Rule.compile_blank_iff` — which blank texts compile.
-/

namespace Numerus

/-! ### Blanks -/

/-- No visible character of ASCII is a blank. -/
theorem isBlank_eq_false {c : Char} (hlow : 33 ≤ c.toNat) (hhigh : c.toNat ≤ 126) :
    isBlank c = false := by
  simp [isBlank, blankRanges]
  omega

theorem isBlank_of_isDigit {c : Char} (h : c.isDigit = true) : isBlank c = false := by
  have hdigit : (decide (48 ≤ c.val) && decide (c.val ≤ 57)) = true := h
  simp only [Bool.and_eq_true, decide_eq_true_eq, UInt32.le_iff_toNat_le,
    UInt32.reduceToNat] at hdigit
  exact isBlank_eq_false (Nat.le_trans (by decide) hdigit.1) (Nat.le_trans hdigit.2 (by decide))

theorem isBlank_of_isAlpha {c : Char} (h : c.isAlpha = true) : isBlank c = false := by
  have halpha : (decide (65 ≤ c.val ∧ c.val ≤ 90) ||
      decide (97 ≤ c.val) && decide (c.val ≤ 122)) = true := h
  simp only [Bool.or_eq_true, Bool.and_eq_true, decide_eq_true_eq, UInt32.le_iff_toNat_le,
    UInt32.reduceToNat] at halpha
  have hval : c.toNat = c.val.toNat := rfl
  apply isBlank_eq_false
  · omega
  · omega

namespace Text

/-- A text is the stripped text with blanks around it. -/
theorem exists_strip (t : Text) :
    ∃ lead trail, t = lead ++ (t.strip ++ trail) ∧ (∀ c ∈ lead, Numerus.isBlank c = true) ∧
      ∀ c ∈ trail, Numerus.isBlank c = true := by
  have hfront := List.takeWhile_append_dropWhile (p := Numerus.isBlank) (l := t)
  have hback := List.takeWhile_append_dropWhile (p := Numerus.isBlank)
    (l := (t.dropWhile Numerus.isBlank).reverse)
  refine ⟨t.takeWhile Numerus.isBlank,
    ((t.dropWhile Numerus.isBlank).reverse.takeWhile Numerus.isBlank).reverse, ?_, ?_, ?_⟩
  · rw [strip, ← List.reverse_append, hback, List.reverse_reverse, hfront]
  · intro c hc
    exact List.mem_takeWhile_imp hc
  · intro c hc
    exact List.mem_takeWhile_imp (List.mem_reverse.1 hc)

/-- Stripping adds nothing. -/
theorem mem_of_mem_strip {t : Text} {c : Char} (h : c ∈ t.strip) : c ∈ t := by
  obtain ⟨lead, trail, heq, -, -⟩ := t.exists_strip
  rw [heq]
  simp [h]

theorem length_strip_le (t : Text) : t.strip.length ≤ t.length := by
  obtain ⟨lead, trail, heq, -, -⟩ := t.exists_strip
  have hlength := congrArg List.length heq
  simp only [List.length_append] at hlength
  omega

/-- A blank text has no samples. -/
theorem before_of_isBlank {t : Text} (h : t.isBlank = true) : t.before '@' = t := by
  rw [isBlank, List.all_eq_true] at h
  refine before_eq_self_iff.2 fun hmem => ?_
  cases h '@' hmem

end Text

/-! ### Spaces at the ends of a text -/

variable {t : Text} {ls : List Lexeme}

/-- What follows a lexeme may end with spaces and tabs. -/
theorem Lexeme.StandsBefore.append {l : Lexeme} {rest spaces : Text} (h : l.StandsBefore rest)
    (hspaces : ∀ c ∈ spaces, Cursor.isSpace c = true) : l.StandsBefore (rest ++ spaces) := by
  -- the first character after the lexeme is the one before, or a space
  have hhead (c : Char) (hc : c ∈ (rest ++ spaces).head?) :
      c ∈ rest.head? ∨ Token.kindOf c = .symbol ∧ c ≠ '.' ∧ c ≠ '=' ∧ c ≠ '>' := by
    cases rest with
    | cons d rest => exact .inl hc
    | nil =>
      have hspace := hspaces c (List.mem_of_mem_head? hc)
      refine .inr ⟨kindOf_of_isSpace hspace, ?_, ?_, ?_⟩
      all_goals
        rintro rfl
        cases hspace
  cases l with
  | number digits =>
    refine ⟨h.1, h.2.1, fun c hc => ?_⟩
    rcases hhead c hc with hc | ⟨hkind, -⟩
    · exact h.2.2 c hc
    · exact not_isDigit_of_kindOf (by simp [hkind])
  | word letters =>
    refine ⟨h.1, h.2.1, fun c hc => ?_⟩
    rcases hhead c hc with hc | ⟨hkind, -⟩
    · exact h.2.2 c hc
    · exact not_isAlpha_of_kindOf (by simp [hkind])
  | symbol characters =>
    refine h.imp_right ?_
    rintro ⟨c, rfl, hdigit, halpha, hspace, hrest⟩
    refine ⟨c, rfl, hdigit, halpha, hspace, fun d hd => ?_⟩
    rcases hhead d hd with hd | ⟨-, hdot, hequal, hgreater⟩
    · exact hrest d hd
    · simp [Token.pairs, hdot, hequal, hgreater]

theorem Lexes.append (h : Lexes t ls) {spaces : Text}
    (hspaces : ∀ c ∈ spaces, Cursor.isSpace c = true) : Lexes (t ++ spaces) ls := by
  induction h with
  | done =>
    induction spaces with
    | nil => exact .done
    | cons c spaces ih =>
      rw [List.forall_mem_cons] at hspaces
      exact .space hspaces.1 (ih hspaces.2)
  | space hspace _ ih => exact .space hspace ih
  | lexeme hl _ ih =>
    rw [List.append_assoc]
    exact .lexeme (hl.append hspaces) ih

theorem Lexes.prepend (h : Lexes t ls) {spaces : Text}
    (hspaces : ∀ c ∈ spaces, Cursor.isSpace c = true) : Lexes (spaces ++ t) ls := by
  induction spaces with
  | nil => exact h
  | cons c spaces ih =>
    rw [List.forall_mem_cons] at hspaces
    exact .space hspaces.1 (ih hspaces.2)

/-- Spaces and tabs at the ends of a text do not matter to its lexemes. -/
theorem Lexes.surround_iff {lead trail : Text} (hlead : ∀ c ∈ lead, Cursor.isSpace c = true)
    (htrail : ∀ c ∈ trail, Cursor.isSpace c = true) :
    Lexes (lead ++ (t ++ trail)) ls ↔ Lexes t ls := by
  constructor
  · intro h
    obtain ⟨ls', h'⟩ := Lexes.exists t
    have heq : ls = ls' := h.unique ((h'.append htrail).prepend hlead)
    rwa [heq]
  · intro h
    exact (h.append htrail).prepend hlead

/-- A text has no lexemes exactly if it has nothing but spaces and tabs. -/
theorem lexes_nil_iff : Lexes t [] ↔ ∀ c ∈ t, Cursor.isSpace c = true := by
  constructor
  · intro h
    generalize hnil : ([] : List Lexeme) = ls at h
    induction h with
    | done => simp
    | space hspace _ ih => exact List.forall_mem_cons.2 ⟨hspace, ih hnil⟩
    | lexeme => cases hnil
  · intro h
    have := Lexes.done.append h
    simpa using this

/-! ### The blanks of a rule -/

/-- The lexemes of rules have no blanks. -/
theorem Lexeme.IsProper.isBlank_eq_false {l : Lexeme} (h : l.IsProper) :
    ∀ c ∈ l.text, isBlank c = false := by
  intro c hc
  cases l with
  | number digits => exact isBlank_of_isDigit (h.2 c hc)
  | word letters => exact isBlank_of_isAlpha (h.2 c hc)
  | symbol characters =>
    have hsymbols : ∀ t ∈ ruleSymbols, ∀ c ∈ t, isBlank c = false := by
      simp [ruleSymbols, isBlank, blankRanges]
    exact hsymbols characters h c hc

/-- The blanks of a text made of lexemes of rules are spaces and tabs. -/
theorem Spaced.isSpace_of_isBlank (h : Spaced t ls) (hfit : Lexeme.Fit ls) :
    ∀ c ∈ t, isBlank c = true → Cursor.isSpace c = true := by
  induction h with
  | done => simp
  | space hspace _ ih =>
    rw [List.forall_mem_cons]
    exact ⟨fun _ => hspace, ih hfit⟩
  | lexeme _ _ ih =>
    intro c hc hblank
    rcases List.mem_append.1 hc with hc | hc
    · rw [hfit.1.isBlank_eq_false c hc] at hblank
      cases hblank
    · exact ih hfit.2.2 c hc hblank

namespace Rule

open Grammar

variable {c : Condition}

/-- The lexemes of a rule are proper and in an order in which only words have to be parted. -/
theorem fit_of_isRule (hls : Lexes t ls) (h : IsRule ls c) : Lexeme.Fit ls := by
  cases h with
  | blank => trivial
  | condition hd =>
    have hfit : Lexeme.Fit (ls ++ []) := (hd.spelledAs hls.hasDigits).fit (by simp) trivial
    rwa [List.append_nil] at hfit

/-- The blanks of a rule text that compiles are spaces and tabs, but for those of its samples. -/
theorem isSpace_of_compile (h : compile t = .ok c) :
    ∀ x ∈ t.before '@', isBlank x = true → Cursor.isSpace x = true := by
  obtain ⟨ls, hls, hrule⟩ := isRule_of_compile h
  exact hls.spaced.isSpace_of_isBlank (fit_of_isRule hls hrule)

theorem notMem_stripSamples (t : Text) : '@' ∉ stripSamples t := by
  intro hmem
  exact Text.notMem_before '@' t (Text.mem_of_mem_strip hmem)

theorem length_stripSamples_le (t : Text) : (stripSamples t).length ≤ t.length :=
  (Text.length_strip_le _).trans (List.takeWhile_sublist _).length_le

/-- A rule text that compiles does so to the same condition without its samples and without the
blanks at its ends. -/
theorem compile_stripSamples (h : compile t = .ok c) : compile (stripSamples t) = .ok c := by
  obtain ⟨ls, hls, hrule⟩ := isRule_of_compile h
  have hspaces := isSpace_of_compile h
  obtain ⟨lead, trail, heq, hlead, htrail⟩ := (t.before '@').exists_strip
  have hleadSpaces : ∀ x ∈ lead, Cursor.isSpace x = true := by
    intro x hx
    exact hspaces x (heq ▸ List.mem_append_left _ hx) (hlead x hx)
  have htrailSpaces : ∀ x ∈ trail, Cursor.isSpace x = true := by
    intro x hx
    refine hspaces x ?_ (htrail x hx)
    rw [heq]
    simp [hx]
  have hstripped : Lexes (stripSamples t) ls := by
    rw [heq] at hls
    exact (Lexes.surround_iff hleadSpaces htrailSpaces).1 hls
  have hlength : (stripSamples t).length ≤ lengthLimit :=
    (length_stripSamples_le t).trans (length_le_of_compile h)
  have hbefore : (stripSamples t).before '@' = stripSamples t :=
    Text.before_eq_self_iff.2 (notMem_stripSamples t)
  exact (compile_eq_ok_iff hlength (hbefore.symm ▸ hstripped)).2 hrule

/-! ### Blank texts -/

/-- Blank texts that compile have nothing but spaces and tabs, and are not too long. They compile to
the condition that always holds. -/
theorem compile_blank_iff (hblank : t.isBlank = true) :
    compile t = .ok c ↔
      c = .always ∧ t.length ≤ lengthLimit ∧ ∀ x ∈ t, Cursor.isSpace x = true := by
  have hbefore : t.before '@' = t := Text.before_of_isBlank hblank
  rw [Text.isBlank, List.all_eq_true] at hblank
  constructor
  · intro h
    have hspaces : ∀ x ∈ t, Cursor.isSpace x = true := by
      intro x hx
      exact isSpace_of_compile h x (hbefore.symm ▸ hx) (hblank x hx)
    obtain ⟨ls, hls, hrule⟩ := isRule_of_compile h
    rw [hbefore] at hls
    obtain rfl := hls.unique (lexes_nil_iff.2 hspaces)
    exact ⟨isRule_nil_iff.1 hrule, length_le_of_compile h, hspaces⟩
  · rintro ⟨rfl, hlength, hspaces⟩
    have hls : Lexes (t.before '@') [] := hbefore.symm ▸ lexes_nil_iff.2 hspaces
    exact (compile_eq_ok_iff hlength hls).2 (isRule_nil_iff.2 rfl)

end Rule

/-- What the text of a category sets, it sets without samples and without blanks at its ends. -/
theorem RuleSet.Sets.stripSamples {c : Condition} (h : Sets t c) :
    Sets (Rule.stripSamples t) c := by
  rcases h with ⟨hnil, rfl⟩ | ⟨-, hc⟩
  · have hstripped : Rule.stripSamples t = [] := by
      rw [Rule.stripSamples, Text.before_of_isBlank (Text.strip_eq_nil_iff.1 hnil), hnil]
    rw [hstripped]
    exact .inl ⟨rfl, rfl⟩
  · have hstripped := Rule.compile_stripSamples hc
    by_cases hnil : (Rule.stripSamples t).strip = []
    · have halways := (Rule.compile_blank_iff (Text.strip_eq_nil_iff.1 hnil)).1 hstripped
      exact .inl ⟨hnil, halways.1⟩
    · exact .inr ⟨hnil, hstripped⟩

end Numerus
