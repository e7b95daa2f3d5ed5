import Numerus.Proofs.Answer
import Numerus.Proofs.Placement
import Numerus.Rule.Cutting

/-!
How texts are cut into tokens.

A cursor that is moved over a text and the scan of the text find the same tokens. They are as long
as their classes let them be. A longest run must not go on to its left either; that is so since a
lexeme leaves the text after it parted from what stands before.

* `Cursor.skipWhile_eq`, `Cursor.token_eq` — how far the cursor is moved over a run and a token.
* `Token.cut_eq_scan` — the cursor finds the tokens of the scan.
* `Token.Parts` — the tokens that a text holds from an offset on, apart from white space: there are
  none at its end, and white space or a token in front of them keeps this so.
* `Token.cut_into_longest_tokens` — what every text is cut into.
-/

namespace Numerus

namespace Cursor

variable {p : Char → Bool}

/-- Before a character the cursor is not at the end, and the character is the one at the cursor. -/
theorem atEnd_eq_false (before t : Text) (c : Char) :
    atEnd ⟨before ++ c :: t, before.length⟩ = false := by
  simp only [atEnd, List.length_append, List.length_cons, decide_eq_false_iff_not]
  omega

theorem current_eq (before t : Text) (c : Char) :
    current ⟨before ++ c :: t, before.length⟩ = .ok c := by
  have hat : (before ++ c :: t).at? before.length = some c := by simp [Text.at?]
  rw [current, atEnd_eq_false]
  simp [hat]

theorem advance_eq (before run t : Text) :
    advance ⟨before ++ (run ++ t), before.length⟩ run.length =
      ⟨(before ++ run) ++ t, (before ++ run).length⟩ := by
  simp only [advance, List.append_assoc, List.length_append, Cursor.mk.injEq, true_and]
  omega

/-- The cursor is moved over the longest run at its position. -/
theorem skipWhile_eq (before t : Text) :
    skipWhile p ⟨before ++ t, before.length⟩ =
      .ok ⟨before ++ t, (before ++ t.takeWhile p).length⟩ := by
  induction t generalizing before with
  | nil =>
    rw [skipWhile_atEnd (by simp [atEnd])]
    simp
  | cons c t ih =>
    rw [skipWhile_current (atEnd_eq_false before t c) (current_eq before t c), List.takeWhile_cons]
    cases hc : p c with
    | false => simp
    | true =>
      have hadvance := advance_eq before [c] t
      rw [List.length_singleton, List.singleton_append] at hadvance
      rw [if_pos rfl, if_pos rfl]
      show skipWhile p (advance _ 1) = _
      rw [show (1 : Int) = ((1 : Nat) : Int) from rfl, hadvance, ih]
      simp

/-- White space is passed over. -/
theorem skipWhile_space {c : Char} (hc : p c = true) (before t : Text) :
    skipWhile p ⟨before ++ c :: t, before.length⟩ =
      skipWhile p ⟨(before ++ [c]) ++ t, (before ++ [c]).length⟩ := by
  rw [skipWhile_eq, skipWhile_eq, List.takeWhile_cons, if_pos hc]
  simp

/-- The part of the text from the cursor up to a position that is not before it. -/
theorem sliceTo_eq (before t : Text) (count : Nat) :
    sliceTo ⟨before ++ t, before.length⟩ (before.length + count : Nat) = t.take count := by
  have place_ofNat (length i : Nat) : Text.place length i = min i length := by
    rw [Text.place, if_neg (by omega), Int.toNat_natCast]
  have hstart : min before.length (before ++ t).length = before.length :=
    Nat.min_eq_left (by simp)
  have hcount : min (before.length + count) (before ++ t).length - before.length =
      min count t.length := by
    rw [List.length_append]
    omega
  rw [sliceTo, Text.span, place_ofNat, place_ofNat, hstart, Text.slice, hcount, List.drop_left,
    ← List.take_eq_take_min]

/-! ### Tokens found by a cursor -/

/-- The cursor after a token is as far from the cursor before it as the token is long. -/
theorem afterToken_eq (before t : Text) (c : Char) :
    afterToken ⟨before ++ c :: t, before.length⟩ c =
      .ok ⟨before ++ c :: t, (before.length + (Token.extent c t + 1) : Nat)⟩ := by
  have skip_run {p : Char → Bool} (hc : p c = true) :
      skipWhile p ⟨before ++ c :: t, before.length⟩ =
        .ok ⟨before ++ c :: t, (before.length + ((t.takeWhile p).length + 1) : Nat)⟩ := by
    rw [skipWhile_eq, List.takeWhile_cons, if_pos hc, List.length_append, List.length_cons]
  have hextent := Token.extent_le c t
  unfold Token.extent Token.kindOf at hextent ⊢
  rw [afterToken, Token.kindOf]
  by_cases hdigit : c.isDigit = true
  · simpa only [hdigit, if_true] using skip_run hdigit
  · by_cases halpha : c.isAlpha = true
    · simpa only [hdigit, halpha, Bool.false_eq_true, if_true, if_false] using skip_run halpha
    · have hpair : sliceTo ⟨before ++ c :: t, before.length⟩ ((before.length : Int) + 2) =
          c :: t.take 1 := sliceTo_eq before (c :: t) 2
      simp only [hdigit, halpha, hpair, Bool.false_eq_true, if_false] at hextent ⊢
      rw [advance, List.length_append, List.length_cons]
      congr 2
      split at hextent <;> simp only [*, if_true, if_false, Bool.false_eq_true] <;> omega

theorem token_eq (before t : Text) (c : Char) :
    token ⟨before ++ c :: t, before.length⟩ =
      .ok (⟨Token.kindOf c, c :: t.take (Token.extent c t), before.length⟩,
        ⟨before ++ c :: t, (before.length + (Token.extent c t + 1) : Nat)⟩) := by
  simp only [token, current_eq, bind, Except.bind, afterToken_eq, sliceTo_eq, pure, Except.pure,
    List.take_succ_cons, Int.toNat_natCast]

/-- Moved over white space and over tokens, the cursor finds those of the scan. -/
theorem tokens_eq (before t : Text) :
    (skipSpaces ⟨before ++ t, before.length⟩ >>= tokens) = .ok (Token.scan before.length t) := by
  generalize hi : before.length = i
  fun_induction Token.scan i t generalizing before with
  | case1 i =>
    subst hi
    have hend : atEnd ⟨before ++ [], before.length⟩ = true := by simp [atEnd]
    rw [skipSpaces, skipWhile_atEnd hend]
    show tokens _ = _
    rw [tokens_atEnd hend, List.append_nil]
  | case2 i c t hspace ih =>
    subst hi
    have hlength : (before ++ [c]).length = before.length + 1 := by simp
    have hrest := ih (before ++ [c]) hlength
    rw [← hlength] at hrest
    rw [skipSpaces, skipWhile_space hspace, ← hlength]
    exact hrest
  | case3 i c t hspace n ih =>
    subst hi
    have hend := atEnd_eq_false before t c
    have hsplit : (before ++ c :: t.take n) ++ t.drop n = before ++ c :: t := by simp
    have hlength : (before ++ c :: t.take n).length = before.length + (n + 1) := by
      have := Token.extent_le c t
      simp [n]
      omega
    have hrest := ih (before ++ c :: t.take n) hlength
    rw [hsplit] at hrest
    rw [skipSpaces, skipWhile_current hend (current_eq before t c), if_neg hspace]
    show tokens _ = _
    rw [tokens_token hend (token_eq before t c)]
    show _ <$> (skipSpaces ⟨_, (before.length + (n + 1) : Nat)⟩ >>= tokens) = _
    rw [show (before.length + (n + 1) : Nat) = before.length + n + 1 from rfl, hrest]
    rfl

end Cursor

namespace Text

/-- Whether the part of the text between two offsets is a run of characters that have the property
`p`, and the characters on both sides of it, if there are any, do not have it. -/
structure IsLongestRun (p : Char → Bool) (t : Text) (start stop : Nat) : Prop where
  all : ∀ c ∈ t.slice start stop, p c = true
  before : ∀ i, i + 1 = start → ∀ c ∈ t[i]?, p c = false
  after : ∀ c ∈ t[stop]?, p c = false

/-- A run between two parts that do not go on with it. -/
theorem isLongestRun_of_parts {p : Char → Bool} {before run after : Text}
    (hbefore : ∀ c ∈ before.getLast?, p c = false) (hrun : ∀ c ∈ run, p c = true)
    (hafter : ∀ c ∈ after.head?, p c = false) :
    IsLongestRun p (before ++ (run ++ after)) before.length (before.length + run.length) where
  all := by
    have hslice : slice (before ++ (run ++ after)) before.length (before.length + run.length) =
        run := by
      simp [slice]
    rwa [hslice]
  before := by
    intro i hi c hc
    apply hbefore
    rw [List.getLast?_eq_getElem?, ← hi, Nat.add_sub_cancel]
    rwa [List.getElem?_append_left (by omega)] at hc
  after := by
    intro c hc
    apply hafter
    rw [List.head?_eq_getElem?]
    rw [← List.append_assoc, List.getElem?_append_right (by simp)] at hc
    simpa using hc

end Text

namespace Token

/-- Whether a token is as long as its class lets it be where it stands in a text: a number is a
longest run of digits and a word a longest run of letters; a symbol is the pair that stands there,
or else one character that is neither digit nor letter nor white space. -/
def IsLongest (t : Text) (u : Token) : Prop :=
  match u.kind with
  | .number => t.IsLongestRun Char.isDigit u.position u.stop
  | .word => t.IsLongestRun Char.isAlpha u.position u.stop
  | .symbol =>
    let pair := t.slice u.position (u.position + 2)
    (pair ∈ pairs → u.text = pair) ∧
      (pair ∉ pairs → ∃ c, u.text = [c] ∧ c.isDigit = false ∧ c.isAlpha = false ∧
        Cursor.isSpace c = false)
  | .stop => False

/-- `Parts t start us`: the tokens `us` are what the text `t` holds from the offset `start` on,
apart from white space. -/
structure Parts (t : Text) (start : Nat) (us : List Token) : Prop where
  /-- No token starts before the offset. -/
  later : ∀ u ∈ us, start ≤ u.position
  nonempty : ∀ u ∈ us, u.text ≠ []
  /-- The characters of each token stand in the text at its offset. -/
  standsIn : ∀ u ∈ us, u.StandsIn t
  longest : ∀ u ∈ us, u.IsLongest t
  /-- The tokens stand one after another and do not overlap. -/
  apart : us.Pairwise fun u v => u.stop ≤ v.position
  /-- What belongs to no token is white space. -/
  covered : ∀ i, start ≤ i → ∀ c ∈ t[i]?,
    (∀ u ∈ us, ¬ (u.position ≤ i ∧ i < u.stop)) → Cursor.isSpace c = true

theorem Parts.nil (t : Text) : Parts t t.length [] where
  later := by simp
  nonempty := by simp
  standsIn := by simp
  longest := by simp
  apart := .nil
  covered := by
    intro i hi c hc
    rw [List.getElem?_eq_none hi] at hc
    simp at hc

theorem Parts.space {t : Text} {start : Nat} {us : List Token} {c : Char}
    (h : Parts t (start + 1) us) (hc : t[start]? = some c) (hspace : Cursor.isSpace c = true) :
    Parts t start us where
  later u hu := Nat.le_of_succ_le (h.later u hu)
  nonempty := h.nonempty
  standsIn := h.standsIn
  longest := h.longest
  apart := h.apart
  covered := by
    intro i hi d hd huncovered
    rcases Nat.eq_or_lt_of_le hi with rfl | hi
    · obtain rfl := Option.some.inj (hc.symm.trans hd)
      exact hspace
    · exact h.covered i hi d hd huncovered

theorem Parts.cons {t : Text} {us : List Token} {u : Token} (h : Parts t u.stop us)
    (hne : u.text ≠ []) (hstands : u.StandsIn t) (hlongest : u.IsLongest t) :
    Parts t u.position (u :: us) where
  later := by
    intro v hv
    rcases List.mem_cons.1 hv with rfl | hv
    · exact Nat.le_refl _
    · exact Nat.le_trans (Nat.le_add_right _ _) (h.later v hv)
  nonempty := List.forall_mem_cons.2 ⟨hne, h.nonempty⟩
  standsIn := List.forall_mem_cons.2 ⟨hstands, h.standsIn⟩
  longest := List.forall_mem_cons.2 ⟨hlongest, h.longest⟩
  apart := List.pairwise_cons.2 ⟨h.later, h.apart⟩
  covered := by
    intro i hi c hc huncovered
    rw [List.forall_mem_cons] at huncovered
    have hstop : u.stop ≤ i := by
      have := huncovered.1
      omega
    exact h.covered i hstop c hc huncovered.2

/-! ### Longest tokens -/

/-- Whether no run of digits or letters that ends `before` goes on in `t`. -/
def Parted (before t : Text) : Prop :=
  ∀ c ∈ before.getLast?, ∀ d ∈ t.head?,
    ¬ (c.isDigit = true ∧ d.isDigit = true) ∧ ¬ (c.isAlpha = true ∧ d.isAlpha = true)

/-- The last character of a text that does not end in its first part belongs to the second. -/
theorem mem_of_mem_getLast?_append {before run : Text} {c : Char} (hne : run ≠ [])
    (h : c ∈ (before ++ run).getLast?) : c ∈ run := by
  rw [List.getLast?_append, List.getLast?_eq_some_getLast hne] at h
  obtain rfl := Option.some.inj h
  exact List.getLast_mem hne

theorem parted_of_last {before t : Text} {c : Char} (hlast : before.getLast? = some c)
    (hdigit : c.isDigit = false) (halpha : c.isAlpha = false) : Parted before t := by
  intro d hd
  obtain rfl := Option.some.inj (hlast.symm.trans hd)
  simp [hdigit, halpha]

/-- After a lexeme a text is parted, since the lexeme would be longer otherwise. -/
theorem parted_of_standsBefore {l : Lexeme} {rest : Text} (h : l.StandsBefore rest)
    (before : Text) : Parted (before ++ l.text) rest := by
  cases l with
  | number digits =>
    obtain ⟨hne, hdigits, hrest⟩ := h
    intro c hc d hd
    have hdigit : c.isDigit = true := hdigits c (mem_of_mem_getLast?_append hne hc)
    have halpha : c.isAlpha = false := Bool.eq_false_iff.2 fun h => by
      simp [isDigit_of_isAlpha h] at hdigit
    simp [halpha, hrest d hd]
  | word letters =>
    obtain ⟨hne, hletters, hrest⟩ := h
    intro c hc d hd
    have halpha : c.isAlpha = true := hletters c (mem_of_mem_getLast?_append hne hc)
    simp [isDigit_of_isAlpha halpha, hrest d hd]
  | symbol characters =>
    rcases h with hpair | ⟨c, rfl, hdigit, halpha, -⟩
    · have hlast : ∀ pair ∈ pairs, ∃ c, pair.getLast? = some c ∧ c.isDigit = false ∧
          c.isAlpha = false := by
        simp [pairs]
      obtain ⟨c, hc, hdigit, halpha⟩ := hlast characters hpair
      exact parted_of_last (by simp [Lexeme.text, List.getLast?_append, hc]) hdigit halpha
    · exact parted_of_last (by simp [Lexeme.text]) hdigit halpha

/-- The token of a lexeme is a longest one where the text before it is parted from it. -/
theorem isLongest_token {l : Lexeme} {before rest : Text} (h : l.StandsBefore rest)
    (hparted : Parted before (l.text ++ rest)) :
    (l.token before.length).IsLongest (before ++ (l.text ++ rest)) := by
  cases l with
  | number digits =>
    obtain ⟨hne, hdigits, hrest⟩ := h
    refine Text.isLongestRun_of_parts (fun c hc => ?_) hdigits hrest
    obtain ⟨d, run, rfl⟩ := List.exists_cons_of_ne_nil hne
    have hd : d.isDigit = true := hdigits d List.mem_cons_self
    exact Bool.eq_false_iff.2 fun hdigit => (hparted c hc d rfl).1 ⟨hdigit, hd⟩
  | word letters =>
    obtain ⟨hne, hletters, hrest⟩ := h
    refine Text.isLongestRun_of_parts (fun c hc => ?_) hletters hrest
    obtain ⟨d, run, rfl⟩ := List.exists_cons_of_ne_nil hne
    have hd : d.isAlpha = true := hletters d List.mem_cons_self
    exact Bool.eq_false_iff.2 fun halpha => (hparted c hc d rfl).2 ⟨halpha, hd⟩
  | symbol characters =>
    have hslice : (before ++ (characters ++ rest)).slice before.length (before.length + 2) =
        (characters ++ rest).take 2 := by
      simp [Text.slice]
    show let pair := (before ++ (characters ++ rest)).slice before.length (before.length + 2)
      (pair ∈ pairs → characters = pair) ∧ (pair ∉ pairs → ∃ c, characters = [c] ∧ _)
    rw [hslice]
    rcases h with hpair | ⟨c, rfl, hdigit, halpha, hspace, halone⟩
    · obtain ⟨c, d, rfl, -⟩ := symbol_of_mem_pairs hpair
      exact ⟨fun _ => rfl, fun hno => absurd hpair hno⟩
    · refine ⟨fun hpair => ?_, fun _ => ⟨c, rfl, hdigit, halpha, hspace⟩⟩
      cases rest with
      | nil => simp [pairs] at hpair
      | cons d rest => exact absurd hpair (halone d rfl)

/-- The tokens of a text that follows `before`, in both together. -/
theorem exists_parts_scan {t : Text} {ls : List Lexeme} (h : Lexes t ls) {before : Text}
    (hparted : Parted before t) :
    ∃ us, scan before.length t = us ++ [⟨.stop, [], (before ++ t).length⟩] ∧
      Parts (before ++ t) before.length us := by
  have hne := h.text_ne_nil
  induction h generalizing before with
  | done =>
    rw [scan_nil, List.append_nil]
    exact ⟨[], rfl, .nil before⟩
  | @space c t ls hspace _ ih =>
    have hdigit : c.isDigit = false := Bool.eq_false_iff.2 fun h => by
      simp [isSpace_of_isDigit h] at hspace
    have halpha : c.isAlpha = false := Bool.eq_false_iff.2 fun h => by
      simp [isSpace_of_isAlpha h] at hspace
    obtain ⟨us, hscan, hparts⟩ :=
      ih (parted_of_last List.getLast?_concat hdigit halpha : Parted (before ++ [c]) t) hne
    rw [List.append_assoc, List.singleton_append] at hscan hparts
    rw [List.length_append, List.length_singleton] at hscan hparts
    refine ⟨us, ?_, hparts.space ?_ hspace⟩
    · rw [scan_space hspace, hscan]
    · simp
  | @lexeme l rest ls hl _ ih =>
    obtain ⟨us, hscan, hparts⟩ :=
      ih (parted_of_standsBefore hl before) fun l' hl' => hne l' (List.mem_cons_of_mem _ hl')
    rw [List.append_assoc] at hscan hparts
    rw [List.length_append] at hscan hparts
    have hrest : Parts (before ++ (l.text ++ rest)) (l.token before.length).stop us := hparts
    refine ⟨l.token before.length :: us, ?_, hrest.cons ?_ ?_ ?_⟩
    · rw [scan_lexeme hl, hscan]
      rfl
    · exact hne l List.mem_cons_self
    · exact ⟨before, rest, rfl, rfl⟩
    · exact isLongest_token hl hparted

theorem cut_eq_scan (source : Text) : cut source = .ok (scan 0 source) :=
  Cursor.tokens_eq [] source

/-- **Tokens are longest, and nothing but white space is lost.** Every text is cut into tokens, of
which the last one, and no other, stands for the end, at the length of the text; a cursor that is
moved over the text finds the same ones. Each of the others has characters, which stand in the text
at its offset; they follow one another in order and do not overlap; and each character that belongs
to none of them is a space or a tab. A number is a longest run of digits, a word a longest run of
letters, and a symbol is a pair if one stands there, and else a single character that is neither
digit nor letter nor white space. -/
theorem cut_into_longest_tokens (source : Text) :
    ∃ us : List Token,
      cut source = .ok (us ++ [⟨.stop, [], source.length⟩]) ∧
      scan 0 source = us ++ [⟨.stop, [], source.length⟩] ∧
      (∀ u ∈ us, u.kind ≠ .stop ∧ u.text ≠ [] ∧ u.stop ≤ source.length ∧
        source.slice u.position u.stop = u.text ∧ u.IsLongest source) ∧
      us.Pairwise (fun u v => u.position < v.position ∧ u.stop ≤ v.position) ∧
      ∀ (i : Nat) (c : Char), source[i]? = some c →
        (∀ u ∈ us, ¬ (u.position ≤ i ∧ i < u.stop)) → Cursor.isSpace c = true := by
  obtain ⟨ls, hls⟩ := Lexes.exists source
  have hparted : Parted [] source := by simp [Parted]
  obtain ⟨us, hscan, hparts⟩ := exists_parts_scan hls hparted
  have hscan : scan 0 source = us ++ [⟨.stop, [], source.length⟩] := hscan
  refine ⟨us, hscan ▸ cut_eq_scan source, hscan, fun u hu => ?_, ?_, fun i c hc huncovered => ?_⟩
  · have hlongest := hparts.longest u hu
    have hkind : u.kind ≠ .stop := by
      intro h
      simp [IsLongest, h] at hlongest
    exact ⟨hkind, hparts.nonempty u hu, (hparts.standsIn u hu).stop_le,
      (hparts.standsIn u hu).slice_eq, hlongest⟩
  · refine hparts.apart.imp_of_mem fun {u v} hu _ hbefore => ⟨?_, hbefore⟩
    have hlength := List.length_pos_iff.2 (hparts.nonempty u hu)
    have : u.stop = u.position + u.text.length := rfl
    omega
  · exact hparts.covered i (Nat.zero_le i) c hc huncovered

end Token

end Numerus
