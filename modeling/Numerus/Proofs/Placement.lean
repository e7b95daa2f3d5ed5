import Numerus.Proofs.Lexeme

/-!
Where tokens stand.

Each token of a rule text stands in the text at its offset, and the tokens follow one another
without overlapping: every one but the last, which stands for the end, has characters of its own.

* `Token.ofText_standsIn` — the offsets of tokens are those of their characters.
* `Token.ofText_pairwise` — the offsets of tokens ascend.
* `Token.ofText_stop` — the token for the end is where the samples begin, or at the end of the text.
-/

namespace Numerus.Token

variable {t : Text} {u : Token}

/-- Whether the characters of the token stand in the text at the token's offset. -/
def StandsIn (u : Token) (t : Text) : Prop :=
  ∃ before after, t = before ++ (u.text ++ after) ∧ u.position = before.length

theorem StandsIn.append (h : u.StandsIn t) (rest : Text) : u.StandsIn (t ++ rest) := by
  obtain ⟨before, after, rfl, hposition⟩ := h
  exact ⟨before, after ++ rest, by simp, hposition⟩

/-- A token that stands in a text is no longer than the text. -/
theorem StandsIn.length_text_le (h : u.StandsIn t) : u.text.length ≤ t.length := by
  obtain ⟨before, after, rfl, -⟩ := h
  simp only [List.length_append]
  omega

/-- A token does not reach beyond the text that it stands in. -/
theorem StandsIn.stop_le (h : u.StandsIn t) : u.stop ≤ t.length := by
  obtain ⟨before, after, rfl, hposition⟩ := h
  simp only [stop, hposition, List.length_append]
  omega

/-- The part of a text between the offsets of a token has the characters of the token. -/
theorem StandsIn.slice_eq (h : u.StandsIn t) : t.slice u.position u.stop = u.text := by
  obtain ⟨before, after, rfl, hposition⟩ := h
  simp [Text.slice, stop, hposition]

/-- The character at the offset of a token is its first one. -/
theorem StandsIn.at?_eq {c : Char} {rest : Text} (h : u.StandsIn t) (htext : u.text = c :: rest) :
    t.at? u.position = some c := by
  obtain ⟨before, after, rfl, hposition⟩ := h
  simp [Text.at?, hposition, htext]

/-- The tokens of a text that follows `before` stand in both together. -/
theorem scan_standsIn {ls : List Lexeme} (h : Lexes t ls) (before : Text) :
    ∀ u ∈ scan before.length t, u.StandsIn (before ++ t) := by
  induction h generalizing before with
  | done =>
    intro u hu
    rw [scan_nil, List.mem_singleton] at hu
    exact ⟨before, [], by simp [hu], by simp [hu]⟩
  | @space c t ls hspace _ ih =>
    intro u hu
    rw [scan_space hspace] at hu
    have := ih (before ++ [c]) u (by simpa using hu)
    simpa using this
  | @lexeme l rest ls hl _ ih =>
    intro u hu
    rw [scan_lexeme hl, List.mem_cons] at hu
    rcases hu with rfl | hu
    · exact ⟨before, rest, rfl, rfl⟩
    · have := ih (before ++ l.text) u (by simpa using hu)
      simpa using this

/-- Tokens are found one after the other. -/
theorem scan_pairwise {ls : List Lexeme} (h : Lexes t ls) (position : Nat) :
    (scan position t).Pairwise (·.position < ·.position) ∧
      ∀ u ∈ scan position t, position ≤ u.position := by
  have hne := h.text_ne_nil
  induction h generalizing position with
  | done => simp [scan_nil]
  | space hspace _ ih =>
    rw [scan_space hspace]
    obtain ⟨hpairwise, hleast⟩ := ih (position + 1) hne
    exact ⟨hpairwise, fun u hu => Nat.le_of_succ_le (hleast u hu)⟩
  | @lexeme l rest ls hl _ ih =>
    rw [scan_lexeme hl]
    obtain ⟨hpairwise, hleast⟩ := ih (position + l.text.length)
      fun l' hl' => hne l' (List.mem_cons_of_mem _ hl')
    have hlength := List.length_pos_iff.2 (hne l List.mem_cons_self)
    refine ⟨List.pairwise_cons.2 ⟨fun u hu => ?_, hpairwise⟩, fun u hu => ?_⟩
    · have := hleast u hu
      show position < u.position
      omega
    · rcases List.mem_cons.1 hu with rfl | hu
      · exact Nat.le_refl position
      · have := hleast u hu
        omega

/-- The token for the end has no characters and is where the text ends; the others come before. -/
theorem scan_stop {ls : List Lexeme} (h : Lexes t ls) (position : Nat) :
    ∀ u ∈ scan position t, u = ⟨.stop, [], position + t.length⟩ ∨
      u.lexeme? ≠ none ∧ u.position < position + t.length := by
  have hne := h.text_ne_nil
  induction h generalizing position with
  | done => simp [scan_nil]
  | space hspace _ ih =>
    intro u hu
    rw [scan_space hspace] at hu
    have := ih (position + 1) hne u hu
    rwa [Nat.add_right_comm, Nat.add_assoc] at this
  | @lexeme l rest ls hl _ ih =>
    intro u hu
    rw [scan_lexeme hl, List.mem_cons] at hu
    rw [List.length_append, ← Nat.add_assoc]
    rcases hu with rfl | hu
    · have hlength := List.length_pos_iff.2 (hne l List.mem_cons_self)
      refine .inr ⟨by simp, ?_⟩
      show position < _
      omega
    · exact ih _ (fun l' hl' => hne l' (List.mem_cons_of_mem _ hl')) u hu

/-! ### Tokens of rule texts -/

/-- The tokens of a rule text stand before its samples. -/
theorem ofText_standsIn_before (t : Text) : ∀ u ∈ ofText t, u.StandsIn (t.before '@') := by
  intro u hu
  obtain ⟨ls, hls⟩ := Lexes.exists (t.before '@')
  exact scan_standsIn hls [] u hu

/-- The offsets of tokens are those of their characters. -/
theorem ofText_standsIn (t : Text) : ∀ u ∈ ofText t, u.StandsIn t := by
  intro u hu
  have hsplit : t.before '@' ++ t.dropWhile (· != '@') = t := List.takeWhile_append_dropWhile
  rw [← hsplit]
  exact (ofText_standsIn_before t u hu).append _

/-- The offsets of tokens ascend. -/
theorem ofText_pairwise (t : Text) : (ofText t).Pairwise (·.position < ·.position) := by
  obtain ⟨ls, hls⟩ := Lexes.exists (t.before '@')
  exact (scan_pairwise hls 0).1

/-- The token for the end has no characters and is where the samples begin; the others come
before. -/
theorem ofText_stop (t : Text) :
    ∀ u ∈ ofText t, u = ⟨.stop, [], (t.before '@').length⟩ ∨
      u.lexeme? ≠ none ∧ u.position < (t.before '@').length := by
  intro u hu
  obtain ⟨ls, hls⟩ := Lexes.exists (t.before '@')
  have := scan_stop hls 0 u hu
  rwa [Nat.zero_add] at this

end Numerus.Token
