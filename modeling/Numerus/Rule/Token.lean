import Numerus.Text.Cursor

/-!
Tokens of rule texts.

A rule text is cut into the longest runs of digits, the longest runs of letters, and symbols.
Digits and letters are those of ASCII; spaces and tabs separate tokens and belong to none. The
tokens end with one that stands for the end of the text.
-/

namespace Numerus

/-- The classes of tokens. -/
inductive Token.Kind where
  | word
  | number
  | symbol
  | stop
  deriving DecidableEq

/-- A token with its offset. -/
structure Token where
  kind : Token.Kind
  text : Text
  position : Nat
  deriving DecidableEq

namespace Token

/-- The offset after the token. -/
def stop (t : Token) : Nat := t.position + t.text.length

/-- Whether the token is the given word. -/
def isWord (t : Token) (word : Text) : Bool := t.kind == .word && t.text == word

/-- Whether the token is the given symbol. -/
def isSymbol (t : Token) (symbol : Text) : Bool := t.kind == .symbol && t.text == symbol

/-- The symbols of two characters. -/
def pairs : List Text :=
  [['.', '.'], ['!', '='], ['=', '='], ['<', '='], ['>', '='], ['<', '>']]

/-- The class of the token that starts with `c`. -/
def kindOf (c : Char) : Kind :=
  if c.isDigit then .number else if c.isAlpha then .word else .symbol

/-- The number of characters that `following` adds to the token that starts with `c`. -/
def extent (c : Char) (following : Text) : Nat :=
  match kindOf c with
  | .number => (following.takeWhile Char.isDigit).length
  | .word => (following.takeWhile Char.isAlpha).length
  | _ => if pairs.contains (c :: following.take 1) then 1 else 0

/-- The tokens of a text that starts at the given offset. -/
def scan (position : Nat) : Text → List Token
  | [] => [⟨.stop, [], position⟩]
  | c :: following =>
    if Cursor.isSpace c then scan (position + 1) following
    else
      let n := extent c following
      ⟨kindOf c, c :: following.take n, position⟩ :: scan (position + n + 1) (following.drop n)
termination_by t => t.length

theorem scan_nil (position : Nat) : scan position [] = [⟨.stop, [], position⟩] := by
  rw [scan]

/-- White space belongs to no token. -/
theorem scan_space {c : Char} (h : Cursor.isSpace c = true) (position : Nat) (t : Text) :
    scan position (c :: t) = scan (position + 1) t := by
  rw [scan, if_pos h]

/-- A character that is no white space opens a token. -/
theorem scan_token {c : Char} (h : Cursor.isSpace c = false) (position : Nat) (t : Text) :
    scan position (c :: t) =
      ⟨kindOf c, c :: t.take (extent c t), position⟩
        :: scan (position + extent c t + 1) (t.drop (extent c t)) := by
  rw [scan, if_neg (by simp [h])]

/-- A token does not reach beyond its text. -/
theorem extent_le (c : Char) (t : Text) : extent c t ≤ t.length := by
  unfold extent
  split
  · exact (List.takeWhile_sublist _).length_le
  · exact (List.takeWhile_sublist _).length_le
  · split
    · rename_i h
      cases t with
      | nil => simp [pairs] at h
      | cons => simp
    · exact Nat.zero_le _

/-- The tokens of a rule text, up to the mark that opens its samples. -/
def ofText (t : Text) : List Token := scan 0 (t.before '@')

end Token

end Numerus
