import Numerus.Text.Basic

/-!
White space, and the text left when it is taken off both ends.

A blank is a character with the property White_Space, or one of the four separator controls
U+001C to U+001F.
-/

namespace Numerus

/-- Closed ranges of the blank code points, ascending and apart. -/
def blankRanges : List (Nat × Nat) :=
  [(0x09, 0x0D), (0x1C, 0x20), (0x85, 0x85), (0xA0, 0xA0), (0x1680, 0x1680), (0x2000, 0x200A),
   (0x2028, 0x2029), (0x202F, 0x202F), (0x205F, 0x205F), (0x3000, 0x3000)]

/-- Whether `c` is white space. -/
def isBlank (c : Char) : Bool :=
  blankRanges.any fun range => range.1 ≤ c.toNat && c.toNat ≤ range.2

namespace Text

/-- The text without the blanks at its two ends. -/
def strip (t : Text) : Text :=
  ((t.dropWhile isBlank).reverse.dropWhile isBlank).reverse

/-- A text without blanks has none at its ends. -/
theorem strip_eq_self {t : Text} (h : ∀ c ∈ t, Numerus.isBlank c = false) : t.strip = t := by
  have hdrop {t : Text} (h : ∀ c ∈ t, Numerus.isBlank c = false) :
      t.dropWhile Numerus.isBlank = t := by
    cases t with
    | nil => rfl
    | cons c t => rw [List.dropWhile_cons_of_neg (by simp [h])]
  rw [strip, hdrop h, hdrop fun c hc => h c (List.mem_reverse.1 hc), List.reverse_reverse]

/-- Whether the text consists of blanks. -/
def isBlank (t : Text) : Bool := t.all Numerus.isBlank

end Text

end Numerus
