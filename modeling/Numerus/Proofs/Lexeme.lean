import Numerus.Rule.Token

/-!
Lexemes: tokens without their places.

The grammar of rules does not speak of offsets, so a token is taken here as its class and its
characters. `Lexes t ls` says which lexemes a text consists of without any scanning: a text is
made of spaces, tabs and lexemes, and no lexeme is followed by what would make it longer.

* `Lexes.exists`, `Lexes.unique` — every text has one sequence of lexemes.
* `Token.standFor_scan` — the tokens that `Token.scan` finds are those of the lexemes, at whatever
  offset the text starts.
* `Lexes.size_le` — lexemes have no more characters than their text.
-/

namespace Numerus

/-- What the grammar of rules is about: a word, a number or a symbol, with its characters. -/
inductive Lexeme where
  | word (letters : Text)
  | number (digits : Text)
  | symbol (characters : Text)
  deriving DecidableEq

namespace Lexeme

/-- The characters of the lexeme. -/
def text : Lexeme → Text
  | word t | number t | symbol t => t

/-- The class of the lexeme's token. -/
def kind : Lexeme → Token.Kind
  | word _ => .word
  | number _ => .number
  | symbol _ => .symbol

/-- The token of the lexeme at an offset. -/
def token (position : Nat) (l : Lexeme) : Token := ⟨l.kind, l.text, position⟩

/-- The number of characters of some lexemes. -/
def size : List Lexeme → Nat
  | [] => 0
  | l :: ls => l.text.length + size ls

@[simp] theorem size_cons (l : Lexeme) (ls : List Lexeme) :
    size (l :: ls) = l.text.length + size ls := rfl

@[simp] theorem size_append (ls ls' : List Lexeme) :
    size (ls ++ ls') = size ls + size ls' := by
  induction ls with
  | nil => exact (Nat.zero_add _).symm
  | cons l ls ih => rw [List.cons_append, size_cons, size_cons, ih, Nat.add_assoc]

/-- Whether the lexeme is what a text starts with that goes on with `rest`: a number is a longest
run of digits, a word a longest run of letters, and a symbol of two characters goes before one of
one character. -/
def StandsBefore (rest : Text) : Lexeme → Prop
  | number digits =>
    digits ≠ [] ∧ (∀ c ∈ digits, c.isDigit = true) ∧ ∀ c ∈ rest.head?, c.isDigit = false
  | word letters =>
    letters ≠ [] ∧ (∀ c ∈ letters, c.isAlpha = true) ∧ ∀ c ∈ rest.head?, c.isAlpha = false
  | symbol characters =>
    characters ∈ Token.pairs ∨
      ∃ c, characters = [c] ∧ c.isDigit = false ∧ c.isAlpha = false ∧ Cursor.isSpace c = false ∧
        ∀ d ∈ rest.head?, [c, d] ∉ Token.pairs

end Lexeme

/-- `Lexes t ls`: the text `t` consists of the lexemes `ls`, with spaces and tabs around them. -/
inductive Lexes : Text → List Lexeme → Prop where
  | done : Lexes [] []
  | space {c : Char} {t : Text} {ls : List Lexeme} :
      Cursor.isSpace c = true → Lexes t ls → Lexes (c :: t) ls
  | lexeme {l : Lexeme} {rest : Text} {ls : List Lexeme} :
      l.StandsBefore rest → Lexes rest ls → Lexes (l.text ++ rest) (l :: ls)

/-! ### The characters that open a lexeme -/

theorem isSpace_of_isDigit {c : Char} (h : c.isDigit = true) : Cursor.isSpace c = false := by
  cases hs : Cursor.isSpace c with
  | false => rfl
  | true =>
    simp only [Cursor.isSpace, Bool.or_eq_true, beq_iff_eq] at hs
    rcases hs with rfl | rfl <;> simp at h

theorem isSpace_of_isAlpha {c : Char} (h : c.isAlpha = true) : Cursor.isSpace c = false := by
  cases hs : Cursor.isSpace c with
  | false => rfl
  | true =>
    simp only [Cursor.isSpace, Bool.or_eq_true, beq_iff_eq] at hs
    rcases hs with rfl | rfl <;> simp at h

/-- No letter is a digit. -/
theorem isDigit_of_isAlpha {c : Char} (h : c.isAlpha = true) : c.isDigit = false := by
  cases hd : c.isDigit with
  | false => rfl
  | true =>
    have halpha : (decide (65 ≤ c.val ∧ c.val ≤ 90) ||
        decide (97 ≤ c.val) && decide (c.val ≤ 122)) = true := h
    have hdigit : (decide (48 ≤ c.val) && decide (c.val ≤ 57)) = true := hd
    simp only [Bool.or_eq_true, Bool.and_eq_true, decide_eq_true_eq, UInt32.le_iff_toNat_le,
      UInt32.reduceToNat] at halpha hdigit
    omega

/-- A symbol of two characters opens with no digit, no letter, no space and no tab. -/
theorem symbol_of_mem_pairs {t : Text} (h : t ∈ Token.pairs) :
    ∃ c d, t = [c, d] ∧ c.isDigit = false ∧ c.isAlpha = false ∧ Cursor.isSpace c = false := by
  simp only [Token.pairs, List.mem_cons, List.not_mem_nil, or_false] at h
  rcases h with rfl | rfl | rfl | rfl | rfl | rfl <;> exact ⟨_, _, rfl, by decide⟩

/-- The longest run at the start of a text is a run that nothing in the text goes on. -/
theorem takeWhile_run {p : Char → Bool} {run rest : Text} (hrun : ∀ c ∈ run, p c = true)
    (hrest : ∀ c ∈ rest.head?, p c = false) : (run ++ rest).takeWhile p = run := by
  have stops : rest.takeWhile p = [] := by
    cases rest with
    | nil => rfl
    | cons c rest => simp [hrest c rfl]
  rw [List.takeWhile_append_of_pos hrun, stops, List.append_nil]

/-- What follows a longest run does not go on with it. -/
theorem head?_dropWhile_run (p : Char → Bool) (t : Text) :
    ∀ c ∈ (t.dropWhile p).head?, p c = false := by
  intro c hc
  have := List.head?_dropWhile_not p t
  rw [Option.mem_def] at hc
  simpa [hc] using this

/-- Some lexeme opens a text that does not open with white space. -/
theorem exists_standsBefore {c : Char} (h : Cursor.isSpace c = false) (t : Text) :
    ∃ l rest, Lexeme.StandsBefore rest l ∧ l.text ++ rest = c :: t ∧ rest.length ≤ t.length := by
  have split (p : Char → Bool) := List.takeWhile_append_dropWhile (p := p) (l := t)
  cases hd : c.isDigit with
  | true =>
    refine ⟨.number (c :: t.takeWhile Char.isDigit), t.dropWhile Char.isDigit,
      ⟨by simp, ?_, head?_dropWhile_run _ t⟩, by simp [Lexeme.text, split],
      (List.dropWhile_sublist _).length_le⟩
    intro d hmem
    rcases List.mem_cons.1 hmem with rfl | hmem
    · exact hd
    · exact List.all_eq_true.1 List.all_takeWhile d hmem
  | false =>
    cases ha : c.isAlpha with
    | true =>
      refine ⟨.word (c :: t.takeWhile Char.isAlpha), t.dropWhile Char.isAlpha,
        ⟨by simp, ?_, head?_dropWhile_run _ t⟩, by simp [Lexeme.text, split],
        (List.dropWhile_sublist _).length_le⟩
      intro d hmem
      rcases List.mem_cons.1 hmem with rfl | hmem
      · exact ha
      · exact List.all_eq_true.1 List.all_takeWhile d hmem
    | false =>
      have alone (hpair : ∀ d ∈ t.head?, [c, d] ∉ Token.pairs) :
          ∃ l rest, Lexeme.StandsBefore rest l ∧ l.text ++ rest = c :: t ∧
            rest.length ≤ t.length :=
        ⟨.symbol [c], t, .inr ⟨c, rfl, hd, ha, h, hpair⟩, rfl, Nat.le_refl _⟩
      cases t with
      | nil => exact alone (by simp)
      | cons d t =>
        by_cases hpair : [c, d] ∈ Token.pairs
        · exact ⟨.symbol [c, d], t, .inl hpair, rfl, Nat.le_succ _⟩
        · exact alone (by simpa using hpair)

/-- Every text has lexemes. -/
theorem Lexes.exists (t : Text) : ∃ ls, Lexes t ls := by
  match t with
  | [] => exact ⟨[], .done⟩
  | c :: t =>
    cases h : Cursor.isSpace c with
    | true =>
      obtain ⟨ls, hls⟩ := Lexes.exists t
      exact ⟨ls, .space h hls⟩
    | false =>
      obtain ⟨l, rest, hl, heq, hshorter⟩ := exists_standsBefore h t
      obtain ⟨ls, hls⟩ := Lexes.exists rest
      exact ⟨l :: ls, heq ▸ .lexeme hl hls⟩
termination_by t.length

/-- The lexemes of a text have no more characters than the text. -/
theorem Lexes.size_le {t : Text} {ls : List Lexeme} (h : Lexes t ls) :
    Lexeme.size ls ≤ t.length := by
  induction h with
  | done => exact Nat.le_refl _
  | space _ _ ih => exact Nat.le_succ_of_le ih
  | lexeme _ _ ih =>
    rw [Lexeme.size_cons, List.length_append]
    exact Nat.add_le_add_left ih _

/-- No lexeme is empty. -/
theorem Lexes.text_ne_nil {t : Text} {ls : List Lexeme} (h : Lexes t ls) :
    ∀ l ∈ ls, l.text ≠ [] := by
  induction h with
  | done => simp
  | space _ _ ih => exact ih
  | @lexeme l rest ls hl _ ih =>
    intro l' hl'
    rcases List.mem_cons.1 hl' with rfl | hl'
    · cases l' with
      | word => exact hl.1
      | number => exact hl.1
      | symbol =>
        rcases hl with hpair | ⟨c, rfl, -⟩
        · obtain ⟨c, d, rfl, -⟩ := symbol_of_mem_pairs hpair
          simp [Lexeme.text]
        · simp [Lexeme.text]
    · exact ih l' hl'

/-- No lexeme of a text is longer than the text. -/
theorem Lexes.length_le {t : Text} {ls : List Lexeme} {l : Lexeme} (h : Lexes t ls)
    (hl : l ∈ ls) : l.text.length ≤ t.length := by
  induction h with
  | done => simp at hl
  | space _ _ ih => exact Nat.le_succ_of_le (ih hl)
  | @lexeme l' rest ls _ _ ih =>
    rw [List.length_append]
    rcases List.mem_cons.1 hl with rfl | hl
    · exact Nat.le_add_right _ _
    · exact Nat.le_add_left_of_le (ih hl)

namespace Token

/-- The lexeme of a token; the end of a text has none. -/
def lexeme? (t : Token) : Option Lexeme :=
  match t.kind with
  | .word => some (.word t.text)
  | .number => some (.number t.text)
  | .symbol => some (.symbol t.text)
  | .stop => none

@[simp] theorem lexeme?_token (l : Lexeme) (position : Nat) :
    (l.token position).lexeme? = some l := by
  cases l <;> rfl

theorem lexeme?_eq_none_iff {t : Token} : t.lexeme? = none ↔ t.kind = .stop := by
  cases t with
  | mk kind => cases kind <;> simp [lexeme?]

theorem isWord_iff {t : Token} {word : Text} :
    t.isWord word = true ↔ t.lexeme? = some (.word word) := by
  cases t with
  | mk kind => cases kind <;> simp [lexeme?, isWord]

theorem isSymbol_iff {t : Token} {symbol : Text} :
    t.isSymbol symbol = true ↔ t.lexeme? = some (.symbol symbol) := by
  cases t with
  | mk kind => cases kind <;> simp [lexeme?, isSymbol]

theorem lexeme?_eq_number_iff {t : Token} {digits : Text} :
    t.lexeme? = some (.number digits) ↔ t.kind = .number ∧ t.text = digits := by
  cases t with
  | mk kind => cases kind <;> simp [lexeme?]

theorem lexeme?_eq_word_iff {t : Token} {letters : Text} :
    t.lexeme? = some (.word letters) ↔ t.kind = .word ∧ t.text = letters := by
  cases t with
  | mk kind => cases kind <;> simp [lexeme?]

/-- `StandFor ts ls`: the tokens `ts` are those of the lexemes `ls`, and then the end. -/
inductive StandFor : List Token → List Lexeme → Prop where
  | stop {t : Token} : t.lexeme? = none → StandFor [t] []
  | cons {t : Token} {l : Lexeme} {ts : List Token} {ls : List Lexeme} :
      t.lexeme? = some l → StandFor ts ls → StandFor (t :: ts) (l :: ls)

/-- The lexemes that tokens stand for are determined by them. -/
theorem StandFor.unique {ts : List Token} {ls ls' : List Lexeme} (h : StandFor ts ls)
    (h' : StandFor ts ls') : ls = ls' := by
  induction h generalizing ls' with
  | stop hnone =>
    cases h' with
    | stop => rfl
    | cons hsome => simp [hnone] at hsome
  | cons hsome _ ih =>
    cases h' with
    | stop hnone => simp [hnone] at hsome
    | cons hsome' htail =>
      rw [hsome] at hsome'
      rw [Option.some.inj hsome', ih htail]

/-! ### Scanning -/

/-- A token is its first character and as many more as belong to it. -/
theorem scan_run {c : Char} (hc : Cursor.isSpace c = false) {run rest : Text}
    (hrun : extent c (run ++ rest) = run.length) (position : Nat) :
    scan position (c :: (run ++ rest))
      = ⟨kindOf c, c :: run, position⟩ :: scan (position + (c :: run).length) rest := by
  rw [scan_token hc, hrun, List.take_left, List.drop_left]
  rfl

/-- A lexeme at the start of a text is the first token that is found there. -/
theorem scan_lexeme {l : Lexeme} {rest : Text} (h : l.StandsBefore rest) (position : Nat) :
    scan position (l.text ++ rest)
      = l.token position :: scan (position + l.text.length) rest := by
  cases l with
  | number digits =>
    obtain ⟨hne, hdigits, hrest⟩ := h
    obtain ⟨c, run, rfl⟩ := List.exists_cons_of_ne_nil hne
    have hc : c.isDigit = true := hdigits c List.mem_cons_self
    have hrun : extent c (run ++ rest) = run.length := by
      simp only [extent, kindOf, hc]
      exact congrArg _ (takeWhile_run (fun d hd => hdigits d (List.mem_cons_of_mem _ hd)) hrest)
    simpa [Lexeme.token, Lexeme.kind, Lexeme.text, kindOf, hc] using
      scan_run (isSpace_of_isDigit hc) hrun position
  | word letters =>
    obtain ⟨hne, hletters, hrest⟩ := h
    obtain ⟨c, run, rfl⟩ := List.exists_cons_of_ne_nil hne
    have hc : c.isAlpha = true := hletters c List.mem_cons_self
    have hrun : extent c (run ++ rest) = run.length := by
      simp only [extent, kindOf, isDigit_of_isAlpha hc, hc]
      exact congrArg _ (takeWhile_run (fun d hd => hletters d (List.mem_cons_of_mem _ hd)) hrest)
    simpa [Lexeme.token, Lexeme.kind, Lexeme.text, kindOf, isDigit_of_isAlpha hc, hc] using
      scan_run (isSpace_of_isAlpha hc) hrun position
  | symbol characters =>
    rcases h with hpair | ⟨c, rfl, hd, ha, hs, halone⟩
    · obtain ⟨c, d, rfl, hd, ha, hs⟩ := symbol_of_mem_pairs hpair
      have hrun : extent c ([d] ++ rest) = [d].length := by
        simp [extent, kindOf, hd, ha, hpair]
      simpa [Lexeme.token, Lexeme.kind, Lexeme.text, kindOf, hd, ha] using
        scan_run hs hrun position
    · have hrun : extent c ([] ++ rest) = ([] : Text).length := by
        cases rest with
        | nil => simp [extent, kindOf, hd, ha, pairs]
        | cons d rest => simp [extent, kindOf, hd, ha, halone d rfl]
      simpa [Lexeme.token, Lexeme.kind, Lexeme.text, kindOf, hd, ha] using
        scan_run hs hrun position

/-- The tokens of a text stand for its lexemes. -/
theorem standFor_scan {t : Text} {ls : List Lexeme} (h : Lexes t ls) (position : Nat) :
    StandFor (scan position t) ls := by
  induction h generalizing position with
  | done =>
    rw [scan_nil]
    exact .stop rfl
  | space hspace _ ih =>
    rw [scan_space hspace]
    exact ih (position + 1)
  | lexeme hl _ ih =>
    rw [scan_lexeme hl]
    exact .cons (lexeme?_token _ _) (ih _)

end Token

/-- A text has one sequence of lexemes. -/
theorem Lexes.unique {t : Text} {ls ls' : List Lexeme} (h : Lexes t ls) (h' : Lexes t ls') :
    ls = ls' :=
  (Token.standFor_scan h 0).unique (Token.standFor_scan h' 0)

end Numerus
