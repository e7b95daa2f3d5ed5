import Numerus.Rule.Token

/-!
Rule texts cut into tokens by a cursor.

These are the tokens of `Rule/Token`, found the other way: a cursor starts at the head of the text,
and is moved over white space, over a token, over white space again, until it is at the end.
Nothing is taken for granted here. Every character is looked up at the cursor, a look-up at the end
is a failure, and the text of a token is the part of the text between two positions.

* `Cursor.token` — the token at a cursor, and the cursor after it.
* `Cursor.tokens` — the tokens from a cursor on; this ends since each token moves the cursor.
* `Token.cut` — the tokens of a text.
-/

namespace Numerus

namespace Cursor

/-- The cursor after the token that starts with `first` at the cursor. -/
def afterToken (c : Cursor) (first : Char) : Except Failure Cursor :=
  match Token.kindOf first with
  | .number => c.skipWhile Char.isDigit
  | .word => c.skipWhile Char.isAlpha
  | _ => .ok (c.advance (if Token.pairs.contains (c.sliceTo (c.position + 2)) then 2 else 1))

/-- The token at the cursor, and the cursor after it. -/
def token (c : Cursor) : Except Failure (Token × Cursor) := do
  let first ← c.current
  let after ← c.afterToken first
  return (⟨Token.kindOf first, c.sliceTo after.position, c.position.toNat⟩, after)

/-! ### Cursors move forward -/

section Forward

variable {c d : Cursor} {p : Char → Bool} {first : Char}

/-- Whether the cursor `d` is in the same text as `c`, and not before it. -/
def Reaches (c d : Cursor) : Prop := d.source = c.source ∧ c.position ≤ d.position

/-- Whether the cursor `d` is in the same text as `c`, and after it. -/
def Passes (c d : Cursor) : Prop := d.source = c.source ∧ c.position < d.position

theorem Passes.reaches {e : Cursor} (h : c.Passes d) (h' : d.Reaches e) : c.Passes e :=
  ⟨h'.1.trans h.1, Int.lt_of_lt_of_le h.2 h'.2⟩

theorem passes_advance (h : c.atEnd = false) {count : Int} (hcount : 0 < count) :
    c.Passes (c.advance count) := by
  have hposition : c.position < c.source.length := by simpa [atEnd] using h
  refine ⟨rfl, ?_⟩
  simp only [advance]
  omega

theorem skipWhile_atEnd (h : c.atEnd = true) : c.skipWhile p = .ok c := by
  rw [skipWhile, dif_pos h]

theorem skipWhile_current (h : c.atEnd = false) (hcurrent : c.current = .ok first) :
    c.skipWhile p = if p first then c.advance.skipWhile p else .ok c := by
  rw [skipWhile, dif_neg (by simp [h]), hcurrent]
  rfl

theorem reaches_of_skipWhile (h : c.skipWhile p = .ok d) : c.Reaches d := by
  fun_induction skipWhile p c with
  | case1 c =>
    obtain rfl := Except.ok.inj h
    exact ⟨rfl, Int.le_refl _⟩
  | case2 c hend ih =>
    cases hcurrent : c.current with
    | error e => simp [hcurrent, bind, Except.bind] at h
    | ok first =>
      simp only [hcurrent, bind, Except.bind] at h
      split at h
      · obtain ⟨hsource, hposition⟩ :=
          (passes_advance (by simpa using hend) Int.one_pos).reaches (ih h)
        exact ⟨hsource, Int.le_of_lt hposition⟩
      · obtain rfl := Except.ok.inj h
        exact ⟨rfl, Int.le_refl _⟩

/-- Moving over a run that is not empty moves the cursor. -/
theorem passes_of_skipWhile (hend : c.atEnd = false) (hcurrent : c.current = .ok first)
    (hfirst : p first = true) (h : c.skipWhile p = .ok d) : c.Passes d := by
  rw [skipWhile_current hend hcurrent, if_pos hfirst] at h
  exact (passes_advance hend Int.one_pos).reaches (reaches_of_skipWhile h)

theorem passes_of_afterToken (hend : c.atEnd = false) (hcurrent : c.current = .ok first)
    (h : c.afterToken first = .ok d) : c.Passes d := by
  unfold afterToken Token.kindOf at h
  by_cases hdigit : first.isDigit = true
  · simp only [hdigit, if_true] at h
    exact passes_of_skipWhile hend hcurrent hdigit h
  · by_cases halpha : first.isAlpha = true
    · simp only [hdigit, halpha, if_true] at h
      exact passes_of_skipWhile hend hcurrent halpha h
    · simp only [hdigit, halpha] at h
      obtain rfl := Except.ok.inj h
      refine passes_advance hend ?_
      split <;> decide

/-- A token moves the cursor. -/
theorem passes_of_token {t : Token} (hend : c.atEnd = false) (h : c.token = .ok (t, d)) :
    c.Passes d := by
  unfold token at h
  cases hcurrent : c.current with
  | error e => simp [hcurrent, bind, Except.bind] at h
  | ok first =>
    cases hafter : c.afterToken first with
    | error e => simp [hcurrent, hafter, bind, Except.bind] at h
    | ok after =>
      simp only [hcurrent, hafter, bind, Except.bind, pure, Except.pure, Except.ok.injEq,
        Prod.mk.injEq] at h
      exact passes_of_afterToken hend hcurrent (h.2 ▸ hafter)

end Forward

/-! ### All tokens -/

/-- The tokens from the cursor on, which is at no white space. -/
def tokens (c : Cursor) : Except Failure (List Token) :=
  if _hend : c.atEnd then .ok [⟨.stop, [], c.source.length⟩]
  else
    match _htoken : c.token with
    | .error e => .error e
    | .ok (t, after) =>
      match _hspaces : after.skipSpaces with
      | .error e => .error e
      | .ok next => (t :: ·) <$> tokens next
termination_by (c.source.length - c.position).toNat
decreasing_by
  have hend : c.atEnd = false := by simpa using _hend
  obtain ⟨hsource, hlater⟩ :=
    (passes_of_token hend _htoken).reaches (reaches_of_skipWhile _hspaces)
  have hposition : c.position < c.source.length := by simpa [atEnd] using hend
  rw [hsource]
  omega

theorem tokens_atEnd {c : Cursor} (h : c.atEnd = true) :
    c.tokens = .ok [⟨.stop, [], c.source.length⟩] := by
  rw [tokens, dif_pos h]

/-- After a token and the white space behind it come the other tokens. -/
theorem tokens_token {c after : Cursor} {t : Token} (hend : c.atEnd = false)
    (htoken : c.token = .ok (t, after)) :
    c.tokens = (t :: ·) <$> (after.skipSpaces >>= tokens) := by
  rw [tokens, dif_neg (by simp [hend])]
  split
  · next h => simp [htoken] at h
  · next h =>
    obtain ⟨rfl, rfl⟩ := Prod.mk.inj (Except.ok.inj (htoken.symm.trans h))
    split
    · next h => rw [h]; rfl
    · next h => rw [h]; rfl

end Cursor

/-- The tokens of a text, found by a cursor that starts at its head. -/
def Token.cut (source : Text) : Except Failure (List Token) := do
  let start ← Cursor.skipSpaces ⟨source, 0⟩
  start.tokens

end Numerus
