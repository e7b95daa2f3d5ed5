import Numerus.Proofs.Acceptance
import Numerus.Proofs.Reassociation
import Numerus.Proofs.Shallow

/-!
Written conditions compile back.

The text of a condition is taken apart into the lexemes that were written, and these derive the
condition nested to the left. Numbers are the one thing a text could go on with by accident, so
the lemmas on lexemes ask that no digit follows.

* `Condition.lexes_text` — the text of a condition consists of its lexemes.
* `Condition.IsGrouped.isDisjunction` — its lexemes derive the condition nested to the left.
* `Condition.written_condition_compiles_back` — writing a condition and compiling the text nests
  it to the left.
-/

namespace Numerus

open Rule Rule.Grammar

/-! ### The lexemes that are written -/

/-- The lexemes of a range. -/
def Range.lexemes (r : Range) : List Lexeme :=
  if r.isSingle then [.number (Numeral.ofNat r.low)]
  else [.number (Numeral.ofNat r.low), .symbol ['.', '.'], .number (Numeral.ofNat r.high)]

namespace Subject

/-- The lexemes of an operand and its modulus. -/
def expressionLexemes (s : Subject) : List Lexeme :=
  match s.modulus with
  | some m => [.word s.operand.symbol, .symbol ['%'], .number (Numeral.ofNat m.val)]
  | none => [.word s.operand.symbol]

/-- The lexemes of an operator. -/
def operatorLexemes (s : Subject) : List Lexeme :=
  match s.within, s.negated with
  | true, true => [.word "not", .word "within"]
  | true, false => [.word "within"]
  | false, true => [.symbol ['!', '=']]
  | false, false => [.symbol ['=']]

end Subject

/-- The lexemes of ranges with commas between them. -/
def Range.listLexemes (rs : List Range) : List Lexeme :=
  [Lexeme.symbol [',']].intercalate (rs.map Range.lexemes)

/-- The lexemes of a relation. -/
def Relation.lexemes (r : Relation) : List Lexeme :=
  r.expressionLexemes ++ r.operatorLexemes ++ Range.listLexemes r.ranges

/-- The lexemes of a condition; a constant has none. -/
def Condition.lexemes : Condition → List Lexeme
  | relation r => r.lexemes
  | and left right => left.lexemes ++ .word "and" :: right.lexemes
  | or left right => left.lexemes ++ .word "or" :: right.lexemes
  | literal _ => []

/-! ### The text consists of the lexemes -/

namespace Lexes

variable {rest : Text} {ls : List Lexeme}

theorem blank (h : Lexes rest ls) : Lexes (' ' :: rest) ls := .space rfl h

theorem number (n : Nat) (hrest : ∀ c ∈ rest.head?, c.isDigit = false) (h : Lexes rest ls) :
    Lexes (Numeral.ofNat n ++ rest) (.number (Numeral.ofNat n) :: ls) :=
  .lexeme (l := .number (Numeral.ofNat n))
    ⟨Numeral.ofNat_ne_nil n, fun _ => Numeral.isDigit_of_mem_ofNat, hrest⟩ h

/-- A word with a space behind it. -/
theorem word (letters : Text) (hne : letters ≠ []) (hletters : letters.all Char.isAlpha = true)
    (h : Lexes rest ls) : Lexes (letters ++ ' ' :: rest) (.word letters :: ls) :=
  .lexeme (l := .word letters) ⟨hne, List.all_eq_true.1 hletters, by simp⟩ h.blank

theorem pair (characters : Text) (hpair : characters ∈ Token.pairs) (h : Lexes rest ls) :
    Lexes (characters ++ rest) (.symbol characters :: ls) :=
  .lexeme (l := .symbol characters) (.inl hpair) h

/-- A symbol of one character with a space behind it. -/
theorem symbol {c : Char} (hdigit : c.isDigit = false) (halpha : c.isAlpha = false)
    (hspace : Cursor.isSpace c = false) (hpair : [c, ' '] ∉ Token.pairs) (h : Lexes rest ls) :
    Lexes ([c] ++ ' ' :: rest) (.symbol [c] :: ls) :=
  .lexeme (l := .symbol [c]) (.inr ⟨c, rfl, hdigit, halpha, hspace, by simpa using hpair⟩) h.blank

/-- No symbol of two characters opens with a comma. -/
theorem comma (h : Lexes rest ls) : Lexes (',' :: rest) (.symbol [','] :: ls) :=
  .lexeme (l := .symbol [',']) (.inr ⟨',', rfl, rfl, rfl, rfl, by simp [Token.pairs]⟩) h

end Lexes

section Continuation

variable {rest : Text} {ls : List Lexeme}

theorem Range.lexes_text (r : Range) (hrest : ∀ c ∈ rest.head?, c.isDigit = false)
    (h : Lexes rest ls) : Lexes (r.text ++ rest) (r.lexemes ++ ls) := by
  unfold Range.text Range.lexemes
  split
  · exact Lexes.number r.low hrest h
  · have hhigh := Lexes.number r.high hrest h
    have hdots := Lexes.pair ".." (by decide) hhigh
    have hlow := Lexes.number r.low (by simp) hdots
    simpa [List.append_assoc] using hlow

theorem Range.lexes_joined (rs : List Range) (hrest : ∀ c ∈ rest.head?, c.isDigit = false)
    (h : Lexes rest ls) :
    Lexes (Text.joined "," (rs.map Range.text) ++ rest) (Range.listLexemes rs ++ ls) := by
  induction rs with
  | nil => exact h
  | cons r rs ih =>
    cases rs with
    | nil =>
      have := r.lexes_text hrest h
      simpa [Text.joined, listLexemes] using this
    | cons s rs =>
      have := r.lexes_text (by simp) ih.comma
      simpa [Text.joined, listLexemes, List.intercalate_cons_cons] using this

theorem Subject.lexes_expressionText (s : Subject) (h : Lexes rest ls) :
    Lexes (s.expressionText ++ ' ' :: rest) (s.expressionLexemes ++ ls) := by
  obtain ⟨operand, modulus, negated, within⟩ := s
  have hne : operand.symbol ≠ [] := by cases operand <;> decide
  have halpha : operand.symbol.all Char.isAlpha = true := by cases operand <;> decide
  cases modulus with
  | none => exact h.word operand.symbol hne halpha
  | some m =>
    have hm := h.blank.number m.val (by simp)
    have hsign := hm.symbol (c := '%') rfl rfl rfl (by decide)
    have hoperand := hsign.word operand.symbol hne halpha
    simpa [expressionText, expressionLexemes] using hoperand

theorem Subject.lexes_operator (s : Subject) (h : Lexes rest ls) :
    Lexes (s.operator ++ ' ' :: rest) (s.operatorLexemes ++ ls) := by
  obtain ⟨operand, modulus, negated, within⟩ := s
  cases within <;> cases negated
  · exact h.symbol (c := '=') rfl rfl rfl (by decide)
  · exact h.blank.pair "!=" (by decide)
  · exact h.word "within" (by decide) (by decide)
  · exact (h.word "within" (by decide) (by decide)).word "not" (by decide) (by decide)

theorem Relation.lexes_text (r : Relation) (hrest : ∀ c ∈ rest.head?, c.isDigit = false)
    (h : Lexes rest ls) : Lexes (r.text ++ rest) (r.lexemes ++ ls) := by
  have hranges := Range.lexes_joined r.ranges hrest h
  have hoperator := r.lexes_operator hranges
  have hexpression := r.lexes_expressionText hoperator
  simpa [text, lexemes, List.append_assoc] using hexpression

/-- The text of a condition consists of its lexemes. -/
theorem Condition.lexes_text (c : Condition) (hrest : ∀ c ∈ rest.head?, c.isDigit = false)
    (h : Lexes rest ls) : Lexes (c.text ++ rest) (c.lexemes ++ ls) := by
  induction c generalizing rest ls with
  | relation r => exact r.lexes_text hrest h
  | and left right ihl ihr =>
    have hword := (ihr hrest h).word "and" (by decide) (by decide)
    have := ihl (by simp) hword.blank
    simpa [text, lexemes, List.append_assoc] using this
  | or left right ihl ihr =>
    have hword := (ihr hrest h).word "or" (by decide) (by decide)
    have := ihl (by simp) hword.blank
    simpa [text, lexemes, List.append_assoc] using this
  | literal => exact h

end Continuation

/-! ### The lexemes derive the condition -/

theorem Range.isRange (r : Range) : IsRange r.lexemes r := by
  unfold Range.lexemes
  split
  · next hsingle =>
    have := IsRange.single (Numeral.ofNat r.low)
    obtain ⟨low, high, hle⟩ := r
    obtain rfl : low = high := by simpa [isSingle] using hsingle
    rwa [Numeral.value_ofNat] at this
  · have := IsRange.bounds (Numeral.ofNat r.low) (Numeral.ofNat r.high) (by simp [r.low_le_high])
    simpa using this

/-- A list of ranges grows on the left too. -/
theorem Rule.Grammar.IsRangeList.cons {ls ls' : List Lexeme} {r : Range} {rs : List Range}
    (hr : IsRange ls r) (hrs : IsRangeList ls' rs) :
    IsRangeList (ls ++ .symbol [','] :: ls') (r :: rs) := by
  induction hrs with
  | one hs => exact .more (.one hr) hs
  | more _ hs ih =>
    have := IsRangeList.more ih hs
    simpa using this

theorem Range.isRangeList {rs : List Range} (h : rs ≠ []) :
    IsRangeList (listLexemes rs) rs := by
  induction rs with
  | nil => exact absurd rfl h
  | cons r rs ih =>
    cases rs with
    | nil =>
      have := IsRangeList.one r.isRange
      simpa [listLexemes] using this
    | cons s rs =>
      have := IsRangeList.cons r.isRange (ih (by simp))
      simpa [listLexemes, List.intercalate_cons_cons] using this

theorem Subject.isExpression (s : Subject) :
    IsExpression s.expressionLexemes s.operand s.modulus := by
  obtain ⟨operand, modulus, negated, within⟩ := s
  cases modulus with
  | none => exact .plain operand
  | some m =>
    have := IsExpression.reduced operand (Numeral.ofNat m.val) (.inl rfl) (by simp [m.property])
    simp only [Numeral.value_ofNat] at this
    exact this

theorem Subject.isSubject (s : Subject) :
    IsSubject (s.expressionLexemes ++ s.operatorLexemes) s := by
  have hoperator : IsOperator s.operatorLexemes s.negated s.within := by
    obtain ⟨operand, modulus, negated, within⟩ := s
    cases within <;> cases negated
    · exact .equal
    · exact .unequal
    · exact .within
    · exact .notWithin
  exact .mk s.isExpression hoperator

theorem Relation.isRelation (r : Relation) : IsRelation r.lexemes r :=
  .list r.toSubject.isSubject (Range.isRangeList r.ranges_ne_nil)

namespace Condition

variable {c d : Condition} {ls : List Lexeme}

theorem isConjunction_andThen (hc : IsConjunction ls c) (hd : d.IsConjunctive) :
    IsConjunction (ls ++ .word "and" :: d.lexemes) (c.andThen d) := by
  induction d generalizing ls c with
  | relation r => exact .and hc r.isRelation
  | and left right ihl ihr =>
    have := ihr (ihl hc hd.1) hd.2
    simpa [lexemes, andThen] using this
  | or => exact hd.elim
  | literal => exact hd.elim

theorem IsConjunctive.isConjunction (h : c.IsConjunctive) :
    IsConjunction c.lexemes c.conjoined := by
  induction c with
  | relation r => exact .one r.isRelation
  | and left right ihl => exact isConjunction_andThen (ihl h.1) h.2
  | or => exact h.elim
  | literal => exact h.elim

theorem isDisjunction_orThen (hc : IsDisjunction ls c) (hd : d.IsGrouped) :
    IsDisjunction (ls ++ .word "or" :: d.lexemes) (c.orThen d) := by
  induction d generalizing ls c with
  | relation r => exact .or hc (.one r.isRelation)
  | and left right => exact .or hc (IsConjunctive.isConjunction (c := and left right) hd)
  | or left right ihl ihr =>
    have := ihr (ihl hc hd.1) hd.2
    simpa [lexemes, orThen] using this
  | literal => exact hd.elim

/-- The lexemes of a condition derive the condition nested to the left. -/
theorem IsGrouped.isDisjunction (h : c.IsGrouped) : IsDisjunction c.lexemes c.reassociated := by
  induction c with
  | relation r => exact .one (.one r.isRelation)
  | and left right => exact .one (IsConjunctive.isConjunction (c := and left right) h)
  | or left right ihl => exact isDisjunction_orThen (ihl h.1) h.2
  | literal => exact h.elim

/-! ### Writing and compiling -/

/-- A written condition has no samples. -/
theorem before_text (c : Condition) : c.text.before '@' = c.text :=
  Text.before_eq_self_iff.2 c.notMem_text

theorem lexes_before_text (c : Condition) : Lexes (c.text.before '@') c.lexemes := by
  have : Lexes (c.text ++ []) (c.lexemes ++ []) := c.lexes_text (by simp) .done
  simpa [before_text] using this

theorem compile_text (h : c.IsGrouped) (hlength : c.text.length ≤ lengthLimit) :
    compile c.text = .ok c.reassociated :=
  (compile_eq_ok_iff hlength c.lexes_before_text).2 (.condition h.isDisjunction)

/-- A condition with a text of admitted length is not deep: each connective and the relation after
it take nine characters. -/
theorem IsGrouped.depth_lt (h : c.IsGrouped) (hlength : c.text.length ≤ lengthLimit) :
    9 * c.depth < lengthLimit := by
  have := depth_le_length_text h
  omega

/-- So its truth is told. -/
theorem IsGrouped.tells (h : c.IsGrouped) (hlength : c.text.length ≤ lengthLimit) (o : Operands) :
    c.Tells o (c.holds o) := by
  have hdepth := h.depth_lt hlength
  have hlimit : lengthLimit = 4096 := rfl
  have hdepthLimit : depthLimit = 819 := rfl
  exact tells_of_depth_lt (by omega) o

/-- **Written conditions compile back.** A condition of relations with no disjunction below a
conjunction is written if its text has admitted length: it cannot be deep then, and all it takes is
room for its depth. The text compiles to the condition nested to the left: the same relations in the
same alternatives, the condition itself if it was nested so already, and always one with the same
truth. -/
theorem written_condition_compiles_back (c : Condition) (hc : c.IsGrouped)
    (hlength : c.text.length ≤ lengthLimit) :
    (9 * c.depth < lengthLimit ∧
      ∀ room, 2 * c.depth + writingSteps < room → c.writeWithin room = .ok c.text) ∧
      compile c.text = .ok c.reassociated ∧
      c.reassociated.IsLeftNested ∧ c.reassociated.alternatives = c.alternatives ∧
      (c.IsLeftNested → c.reassociated = c) ∧
      ∀ o, c.reassociated.Tells o (c.holds o) ∧ c.Tells o (c.holds o) := by
  have hleft : c.reassociated.IsLeftNested := hc.reassociated
  refine ⟨⟨hc.depth_lt hlength, fun room hroom => ?_⟩, compile_text hc hlength, hleft,
    alternatives_reassociated hc, IsLeftNested.reassociated_eq, fun o => ⟨?_, hc.tells hlength o⟩⟩
  · have hlimit : lengthLimit ≤ Fault.digitLimit := by decide
    rw [writeWithin_of_depth_lt hroom]
    exact write_eq_text hc (by omega)
  · have htells := hleft.isGrouped.tells (by rwa [text_reassociated]) o
    rwa [holds_reassociated] at htells

/-- A disjunction and a conjunction nested to the right. -/
def rightNested : Condition :=
  or (relation ⟨{ operand := .n }, [.single 1], List.cons_ne_nil _ _⟩)
    (or (relation ⟨{ operand := .v, negated := true }, [.single 0], List.cons_ne_nil _ _⟩)
      (and
        (relation ⟨{ operand := .i, modulus := some ⟨10, by decide⟩, within := true },
          [⟨2, 4, by decide⟩, .single 9], List.cons_ne_nil _ _⟩)
        (and
          (relation ⟨{ operand := .f, negated := true, within := true }, [.single 0],
            List.cons_ne_nil _ _⟩)
          (relation ⟨{ operand := .t }, [.single 5], List.cons_ne_nil _ _⟩))))

theorem written_condition_compiles_back_rightNested :
    rightNested.IsGrouped ∧ rightNested.text.length ≤ lengthLimit ∧
      rightNested.writeWithin 1000 =
        .ok "n = 1 or v != 0 or i % 10 within 2..4,9 and f not within 0 and t = 5".toList ∧
      compile "n = 1 or v != 0 or i % 10 within 2..4,9 and f not within 0 and t = 5" =
        .ok rightNested.reassociated ∧
      rightNested.reassociated ≠ rightNested := by
  have hgrouped : rightNested.IsGrouped :=
    ⟨trivial, trivial, trivial, trivial, trivial⟩
  have htext : rightNested.text =
      "n = 1 or v != 0 or i % 10 within 2..4,9 and f not within 0 and t = 5".toList := by decide
  have hlength : rightNested.text.length ≤ lengthLimit := by rw [htext]; decide
  obtain ⟨⟨-, hwrite⟩, hcompile, -⟩ := written_condition_compiles_back rightNested hgrouped hlength
  have hwritten := hwrite 1000 (by decide)
  rw [htext] at hwritten hcompile
  exact ⟨hgrouped, hlength, hwritten, hcompile, by decide⟩

end Condition

end Numerus
