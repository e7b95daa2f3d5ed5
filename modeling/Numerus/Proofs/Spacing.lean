import Numerus.Proofs.Lexeme

/-!
Spaces between the lexemes of rules.

A space or a tab may stand anywhere between two lexemes, and must only between two words. For
lexemes that rules are made of this is the same as consisting of them: none goes on with what stands
right after it. A number is never followed by a number, nor a symbol by anything else, and no symbol
opens with a letter or a digit.

* `Spaced` — a text that is made of lexemes with spaces around them.
* `Lexeme.Fit` — lexemes in an order in which only words have to be parted.
* `Lexes.spaced`, `Lexeme.Fit.lexes` — what a text is made of and what it consists of.
-/

namespace Numerus

/-- `Spaced t ls`: the text is made of the lexemes in their order, with any spaces and tabs before,
between and after them, and at least one between two words. -/
inductive Spaced : Text → List Lexeme → Prop where
  | done : Spaced [] []
  | space {c : Char} {t : Text} {ls : List Lexeme} :
      Cursor.isSpace c = true → Spaced t ls → Spaced (c :: t) ls
  | lexeme {l : Lexeme} {t : Text} {ls : List Lexeme} :
      (l.kind = .word → ∀ l' ∈ ls.head?, l'.kind = .word → ∃ c ∈ t.head?, Cursor.isSpace c = true) →
      Spaced t ls → Spaced (l.text ++ t) (l :: ls)

namespace Lexeme

/-! ### Lexemes of rules -/

/-- The symbols of rules. -/
def ruleSymbols : List Text := [['%'], ['='], ['!', '='], [','], ['.', '.']]

/-- Whether the lexeme is a number of digits, a word of letters or a symbol of rules. -/
def IsProper : Lexeme → Prop
  | number digits => digits ≠ [] ∧ ∀ c ∈ digits, c.isDigit = true
  | word letters => letters ≠ [] ∧ ∀ c ∈ letters, c.isAlpha = true
  | symbol characters => characters ∈ ruleSymbols

/-- Whether the lexeme may stand before another one: no number stands before a number, and only
numbers stand after symbols. -/
def MayPrecede : Lexeme → Lexeme → Prop
  | number _, l => l.kind ≠ .number
  | word _, _ => True
  | symbol _, l => l.kind = .number

/-- Lexemes of rules of which each may stand before the next. -/
def Fit : List Lexeme → Prop
  | [] => True
  | l :: ls => l.IsProper ∧ (∀ l' ∈ ls.head?, l.MayPrecede l') ∧ Fit ls

variable {l : Lexeme} {ls : List Lexeme} {t : Text}

theorem not_isDigit_of_kindOf {c : Char} (h : Token.kindOf c ≠ .number) : c.isDigit = false := by
  cases hdigit : c.isDigit with
  | false => rfl
  | true => exact absurd (by simp [Token.kindOf, hdigit]) h

theorem not_isAlpha_of_kindOf {c : Char} (h : Token.kindOf c ≠ .word) : c.isAlpha = false := by
  cases halpha : c.isAlpha with
  | false => rfl
  | true => exact absurd (by simp [Token.kindOf, isDigit_of_isAlpha halpha, halpha]) h

theorem kindOf_of_isSpace {c : Char} (h : Cursor.isSpace c = true) : Token.kindOf c = .symbol := by
  simp only [Cursor.isSpace, Bool.or_eq_true, beq_iff_eq] at h
  rcases h with rfl | rfl <;> rfl

/-- The first character of a lexeme tells its class. -/
theorem IsProper.exists_head (h : l.IsProper) :
    ∃ c rest, l.text = c :: rest ∧ Cursor.isSpace c = false ∧ Token.kindOf c = l.kind := by
  cases l with
  | number digits =>
    obtain ⟨c, rest, rfl⟩ := List.exists_cons_of_ne_nil h.1
    have hc := h.2 c List.mem_cons_self
    exact ⟨c, rest, rfl, isSpace_of_isDigit hc, by simp [Token.kindOf, hc, kind]⟩
  | word letters =>
    obtain ⟨c, rest, rfl⟩ := List.exists_cons_of_ne_nil h.1
    have hc := h.2 c List.mem_cons_self
    exact ⟨c, rest, rfl, isSpace_of_isAlpha hc,
      by simp [Token.kindOf, isDigit_of_isAlpha hc, hc, kind]⟩
  | symbol characters =>
    have hopens : ∀ t ∈ ruleSymbols, ∃ c rest, t = c :: rest ∧ Cursor.isSpace c = false ∧
        Token.kindOf c = .symbol := by
      simp only [ruleSymbols, List.mem_cons, List.not_mem_nil, or_false]
      rintro t (rfl | rfl | rfl | rfl | rfl) <;> exact ⟨_, _, rfl, rfl, rfl⟩
    exact hopens characters h

theorem IsProper.notMem (h : l.IsProper) : '@' ∉ l.text := by
  cases l with
  | number digits => exact fun hmem => by simpa using h.2 _ hmem
  | word letters => exact fun hmem => by simpa using h.2 _ hmem
  | symbol characters =>
    have hsymbols : ∀ t ∈ ruleSymbols, '@' ∉ t := by decide
    exact hsymbols characters h

end Lexeme

/-! ### What stands where a text begins -/

variable {l : Lexeme} {ls : List Lexeme} {t : Text}

/-- A text opens with a space or with the first of its lexemes. -/
theorem Spaced.head (h : Spaced t ls) (hproper : ∀ l ∈ ls.head?, l.IsProper) :
    ∀ c ∈ t.head?, Cursor.isSpace c = true ∨ ∃ l ∈ ls.head?, Token.kindOf c = l.kind := by
  cases h with
  | done => simp
  | space hspace => exact fun d hd => .inl (by simpa [← Option.some.inj hd] using hspace)
  | @lexeme l t ls _ _ =>
    obtain ⟨c, rest, htext, -, hkind⟩ := (hproper l rfl).exists_head
    rw [htext]
    exact fun d hd => .inr ⟨l, rfl, by rwa [← Option.some.inj hd]⟩

/-- A text with a word first opens with a space or a letter. -/
theorem Lexes.head_of_word (h : Lexes t ls) (hword : ∃ l ∈ ls.head?, l.kind = .word) :
    ∃ c ∈ t.head?, Cursor.isSpace c = true ∨ c.isAlpha = true := by
  cases h with
  | done => simp at hword
  | @space c => exact ⟨c, rfl, .inl ‹_›⟩
  | @lexeme l rest ls hl _ =>
    obtain ⟨l', hmem, hkind⟩ := hword
    obtain rfl := Option.some.inj hmem
    cases l with
    | word letters =>
      obtain ⟨c, letters, rfl⟩ := List.exists_cons_of_ne_nil hl.1
      exact ⟨c, rfl, .inr (hl.2.1 c List.mem_cons_self)⟩
    | number => cases hkind
    | symbol => cases hkind

/-! ### What a text is made of and what it consists of -/

/-- What a text consists of it is made of: a word would go on with another one right after it. -/
theorem Lexes.spaced (h : Lexes t ls) : Spaced t ls := by
  induction h with
  | done => exact .done
  | space hspace _ ih => exact .space hspace ih
  | @lexeme l rest ls hl hrest ih =>
    refine .lexeme (fun hkind l' hl' hkind' => ?_) ih
    obtain ⟨c, hc, hspace | halpha⟩ := hrest.head_of_word ⟨l', hl', hkind'⟩
    · exact ⟨c, hc, hspace⟩
    · cases l with
      | word => simp [hl.2.2 c hc] at halpha
      | number => cases hkind
      | symbol => cases hkind

namespace Lexeme

theorem Fit.isProper_head (h : Fit ls) : ∀ l ∈ ls.head?, l.IsProper := by
  cases ls with
  | nil => simp
  | cons l ls =>
    intro l' hl'
    obtain rfl := Option.some.inj hl'
    exact h.1

/-- A lexeme does not go on with what follows it in a text. -/
theorem Fit.standsBefore (h : Fit (l :: ls)) (ht : Spaced t ls)
    (hwords : l.kind = .word → ∀ l' ∈ ls.head?, l'.kind = .word →
      ∃ c ∈ t.head?, Cursor.isSpace c = true) : l.StandsBefore t := by
  obtain ⟨hproper, hnext, hfit⟩ := h
  have hhead := ht.head hfit.isProper_head
  cases l with
  | number digits =>
    refine ⟨hproper.1, hproper.2, fun c hc => not_isDigit_of_kindOf ?_⟩
    rcases hhead c hc with hspace | ⟨l', hl', hkind⟩
    · simp [kindOf_of_isSpace hspace]
    · rw [hkind]
      exact hnext l' hl'
  | word letters =>
    refine ⟨hproper.1, hproper.2, fun c hc => not_isAlpha_of_kindOf fun hword => ?_⟩
    -- A letter would open another word, and this one is parted from the first.
    have hspace : Cursor.isSpace c = true := by
      rcases hhead c hc with hspace | ⟨l', hl', hkind⟩
      · exact hspace
      · obtain ⟨d, hd, hspace⟩ := hwords rfl l' hl' (hkind.symm.trans hword)
        rwa [Option.some.inj (hc.symm.trans hd)]
    rw [kindOf_of_isSpace hspace] at hword
    cases hword
  | symbol characters =>
    -- Of the symbols of one character only the equals sign opens a longer one.
    have hequal : ∀ d ∈ t.head?, d ≠ '=' := by
      rintro _ hd rfl
      rcases hhead _ hd with hspace | ⟨l', hl', hkind⟩
      · cases hspace
      · have hnumber : l'.kind = .number := hnext l' hl'
        rw [hnumber] at hkind
        cases hkind
    have hsymbols : characters ∈ ruleSymbols := hproper
    simp only [ruleSymbols, List.mem_cons, List.not_mem_nil, or_false] at hsymbols
    rcases hsymbols with rfl | rfl | rfl | rfl | rfl
    · exact .inr ⟨'%', rfl, rfl, rfl, rfl, by simp [Token.pairs]⟩
    · exact .inr ⟨'=', rfl, rfl, rfl, rfl, by simpa [Token.pairs] using hequal⟩
    · exact .inl (by decide)
    · exact .inr ⟨',', rfl, rfl, rfl, rfl, by simp [Token.pairs]⟩
    · exact .inl (by decide)

/-- Lexemes of rules that a text is made of are those it consists of. -/
theorem Fit.lexes (h : Fit ls) (ht : Spaced t ls) : Lexes t ls := by
  induction ht with
  | done => exact .done
  | space hspace _ ih => exact .space hspace (ih h)
  | lexeme hwords ht ih => exact .lexeme (h.standsBefore ht hwords) (ih h.2.2)

end Lexeme

/-- Lexemes of rules open no samples. -/
theorem Spaced.notMem (h : Spaced t ls) (hfit : Lexeme.Fit ls) : '@' ∉ t := by
  induction h with
  | done => simp
  | space hspace _ ih =>
    rw [List.mem_cons, not_or]
    exact ⟨by rintro rfl; simp [Cursor.isSpace] at hspace, ih hfit⟩
  | lexeme _ _ ih =>
    rw [List.mem_append, not_or]
    exact ⟨hfit.1.notMem, ih hfit.2.2⟩

end Numerus
