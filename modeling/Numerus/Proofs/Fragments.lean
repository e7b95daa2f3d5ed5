import Numerus.Proofs.FirstWrongToken

/-!
What the fragment of a refused rule text shows.

The fragment is the part of the rule text from the first of some tokens to the end of the last one:
a wrong token by itself, or the tokens of a malformed range. How far a range reaches is told by the
token at hand and the one after it. Where an end is missing the number after the dots belongs to
the range; where the ends are in the wrong order it does not, and is shown with it nevertheless.

* `Rule.State.Leads.exists_shown` — what a step shows that has no answer.
* `Rule.exists_shown` — what the fragment of a refused rule text shows.
* `Rule.malformed_range_fragment` — the fragment of a malformed range.
* `Rule.malformed_range_fragment_overruns` — a fragment that does not end with the range.
-/

namespace Numerus

namespace Token

/-- The offset of the first of some tokens. -/
def startOf (ts : List Token) : Nat := (ts.head?.map position).getD 0

/-- The offset after the last of some tokens. -/
def stopOf (ts : List Token) : Nat := (ts.getLast?.map stop).getD 0

/-- The part of a rule text from the first of some tokens to the end of the last one. -/
def covered (source : Text) (ts : List Token) : Text := source.slice (startOf ts) (stopOf ts)

/-- The first of some tokens, if it is a number. -/
def leadingNumber (ts : List Token) : List Token := (ts.take 1).filter (·.kind = .number)

@[simp] theorem startOf_cons (t : Token) (ts : List Token) : startOf (t :: ts) = t.position := rfl

@[simp] theorem stopOf_singleton (t : Token) : stopOf [t] = t.stop := rfl

@[simp] theorem stopOf_cons_cons (t u : Token) (ts : List Token) :
    stopOf (t :: u :: ts) = stopOf (u :: ts) := by
  simp [stopOf]

/-- A token covers its own characters. -/
theorem covered_singleton {source : Text} {t : Token} (h : t.StandsIn source) :
    covered source [t] = t.text :=
  h.slice_eq

theorem leadingNumber_eq_singleton {t : Token} (h : t.kind = .number) (ts : List Token) :
    leadingNumber (t :: ts) = [t] := by
  simp [leadingNumber, h]

theorem leadingNumber_eq_nil {t : Token} (h : t.kind ≠ .number) (ts : List Token) :
    leadingNumber (t :: ts) = [] := by
  simp [leadingNumber, h]

/-- The number that some tokens open with is one of them. -/
theorem leadingNumber_prefix (ts : List Token) : leadingNumber ts <+: ts := by
  cases ts with
  | nil => exact List.prefix_refl []
  | cons t ts =>
    by_cases h : t.kind = .number
    · rw [leadingNumber_eq_singleton h]
      exact List.prefix_append [t] ts
    · rw [leadingNumber_eq_nil h]
      exact List.nil_prefix

end Token

namespace Rule

open Token (lexemes covered startOf stopOf leadingNumber)

/-- The end of a token is pushed on by a number that follows it. -/
theorem rangeEnd_eq (t : Token) (rest : List Token) :
    rangeEnd t rest.head? = stopOf (t :: leadingNumber rest) := by
  cases rest with
  | nil => rfl
  | cons next rest =>
    by_cases h : next.kind = .number
    · simp [rangeEnd, Token.leadingNumber_eq_singleton h, h]
    · simp [rangeEnd, Token.leadingNumber_eq_nil h, h]

/-! ### Malformed ranges -/

/-- `LacksEnd range rest`: the tokens `range`, which the tokens `rest` follow, are what there is of
a range without its low end, without its high end, or without both. -/
inductive LacksEnd : List Token → List Token → Prop where
  /-- Dots and no number on either side. -/
  | both {dots : Token} {rest : List Token} : dots.lexeme? = some (.symbol ['.', '.']) →
      leadingNumber rest = [] → LacksEnd [dots] rest
  /-- Dots and a high end. -/
  | low {dots high : Token} {rest : List Token} : dots.lexeme? = some (.symbol ['.', '.']) →
      high.kind = .number → LacksEnd [dots, high] rest
  /-- A low end and dots. -/
  | high {low dots : Token} {rest : List Token} : low.kind = .number →
      dots.lexeme? = some (.symbol ['.', '.']) → leadingNumber rest = [] →
      LacksEnd [low, dots] rest

/-- `IsInverted range`: the tokens are a range with its ends in the wrong order. -/
inductive IsInverted : List Token → Prop where
  | intro {low dots high : Token} {digits digits' : Text} : low.lexeme? = some (.number digits) →
      dots.lexeme? = some (.symbol ['.', '.']) → high.lexeme? = some (.number digits') →
      Numeral.value digits' < Numeral.value digits → IsInverted [low, dots, high]

/-- `Shown before here code shown`: where the tokens `here` follow the tokens `before`, a diagnostic
with the code shows the first of them, `shown`. -/
inductive Shown (before : List Token) : List Token → Code → List Token → Prop where
  /-- A wrong token is shown by itself. -/
  | token {t : Token} {rest : List Token} {code : Code} : code ≠ .invalidRange →
      Shown before (t :: rest) code [t]
  /-- A range without one of its ends is shown by itself. -/
  | lacksEnd {range rest : List Token} : RangeMayFollow (lexemes before) → LacksEnd range rest →
      Shown before (range ++ rest) .invalidRange range
  /-- A range with its ends in the wrong order is shown with a number after it. -/
  | inverted {range rest : List Token} : RangeMayFollow (lexemes before) → IsInverted range →
      Shown before (range ++ rest) .invalidRange (range ++ leadingNumber rest)

/-- What is shown is where the diagnostic stands. -/
theorem Shown.isPrefix {before here shown : List Token} {code : Code}
    (h : Shown before here code shown) : shown <+: here := by
  cases h with
  | token => exact List.prefix_append [_] _
  | lacksEnd => exact List.prefix_append _ _
  | inverted => exact (List.prefix_append_right_inj _).2 (Token.leadingNumber_prefix _)

/-- Dots without a low end are a malformed range together with a number after them. -/
theorem exists_lacksEnd {dots : Token} (hdots : dots.lexeme? = some (.symbol ['.', '.']))
    (rest : List Token) :
    ∃ rest', rest = leadingNumber rest ++ rest' ∧ LacksEnd (dots :: leadingNumber rest) rest' := by
  cases rest with
  | nil => exact ⟨[], rfl, .both hdots rfl⟩
  | cons next rest =>
    by_cases hnext : next.kind = .number
    · rw [Token.leadingNumber_eq_singleton hnext]
      exact ⟨rest, rfl, .low hdots hnext⟩
    · have hleading := Token.leadingNumber_eq_nil hnext rest
      rw [hleading]
      exact ⟨next :: rest, rfl, .both hdots hleading⟩

/-! ### Refused tokens -/

/-- `ShowsTokens source shown d e`: the failure tells the diagnostic, which marks the part of the
rule text that the tokens cover. -/
structure ShowsTokens (source : Text) (shown : List Token) (d : Diagnostic) (e : Failure) :
    Prop where
  eq : e = .grammar (.diagnosed d) source (covered source shown) (startOf shown)
  marks : d.Marks source (startOf shown) (covered source shown).length

/-- What is blamed on the part that some tokens cover shows them. -/
theorem BlamesRange.showsTokens {source : Text} (shown : List Token) {e : Failure}
    (h : BlamesRange source (startOf shown) (stopOf shown) e) :
    ∃ d, ShowsTokens source shown d e ∧ d.code = .invalidRange := by
  obtain ⟨hmarks, hcode⟩ := h
  exact ⟨_, ⟨rfl, hmarks⟩, hcode⟩

/-- What a step shows that has no answer: its token, or a malformed range that ends there or before
it. -/
theorem State.Leads.exists_shown {source : Text} {read rest : List Token} {t : Token} {s : State}
    {e : Failure} (h : State.Leads source read s) (ht : t.IsOf source)
    (hstep : s.step source t rest.head? = .error e) :
    ∃ d before here shown, read ++ t :: rest = before ++ here ∧
      Shown before here d.code shown ∧ ShowsTokens source shown d e := by
  cases State.step_failsWith ht e hstep with
  | token hblames =>
    obtain ⟨hmarks, hcode⟩ := hblames
    have htext := Token.covered_singleton ht.standsIn
    exact ⟨_, read, t :: rest, [t], rfl, .token hcode, by rw [htext]; rfl, by rwa [htext]⟩
  | dots hstage hdots hblames =>
    rw [rangeEnd_eq] at hblames
    obtain ⟨d, hshows, hcode⟩ := BlamesRange.showsTokens (t :: leadingNumber rest) hblames
    obtain ⟨rest', hrest, hlacks⟩ := exists_lacksEnd hdots rest
    refine ⟨d, read, t :: leadingNumber rest ++ rest', _, ?_, ?_, hshows⟩
    · rw [List.cons_append, ← hrest]
    · rw [hcode]
      exact .lacksEnd (h.reads.rangeMayFollow hstage) hlacks
  | noHigh hstage hkind hblames =>
    obtain ⟨before, number, dots, s', rfl, hleads, hrange, rfl, rfl, ⟨digits, hnumber, -⟩, hdots⟩ :=
      h.of_high hstage
    obtain ⟨d, hshows, hcode⟩ := BlamesRange.showsTokens [number, dots] hblames
    have hkindLow : number.kind = .number := (Token.lexeme?_eq_number_iff.1 hnumber).1
    refine ⟨d, before, [number, dots] ++ t :: rest, _, by simp, ?_, hshows⟩
    rw [hcode]
    exact .lacksEnd (hleads.reads.rangeMayFollow hrange)
      (.high hkindLow hdots (Token.leadingNumber_eq_nil hkind rest))
  | inverted hstage hhigh hlow hblames =>
    obtain ⟨before, number, dots, s', rfl, hleads, hrange, rfl, -, ⟨digits, hnumber, rfl⟩, hdots⟩ :=
      h.of_high hstage
    rw [rangeEnd_eq] at hblames
    obtain ⟨d, hshows, hcode⟩ :=
      BlamesRange.showsTokens ([number, dots, t] ++ leadingNumber rest) hblames
    refine ⟨d, before, [number, dots, t] ++ rest, _, by simp, ?_, hshows⟩
    rw [hcode]
    exact .inverted (hleads.reads.rangeMayFollow hrange) (.intro hnumber hdots hhigh hlow)

/-! ### Refused rule texts -/

/-- A rule text of admitted length that is refused is refused for some of its tokens, and these are
shown. -/
theorem exists_shown {t : Text} {e : Failure} (hlength : t.length ≤ lengthLimit)
    (h : compile t = .error e) :
    ∃ d before here shown, Token.ofText t = before ++ here ∧ Shown before here d.code shown ∧
      ShowsTokens t shown d e := by
  obtain ⟨read, wrong, rest, s, htokens, hleads, -, hstep⟩ := exists_step_error hlength h
  have hwrong : wrong.IsOf t := Token.isOf_of_mem_ofText hlength (by simp [htokens])
  rw [htokens]
  exact hleads.exists_shown hwrong hstep

/-- A rule text that is refused for a range is not too long. -/
theorem length_le_of_invalidRange {t ruleText fragment : Text} {d : Diagnostic} {position : Int}
    (h : compile t = .error (.grammar (.diagnosed d) ruleText fragment position))
    (hcode : d.code = .invalidRange) : t.length ≤ lengthLimit := by
  by_contra hlong
  rw [compile, if_pos (Nat.not_le.1 hlong)] at h
  injection h with h
  injection h with hnotice
  injection hnotice with hd
  rw [← hd] at hcode
  cases hcode

/-- **What the fragment of a malformed range shows.** Let a rule text be refused for a range. Its
tokens are then parted where a range may follow, and a malformed range stands there. The fragment
starts with the range. If the low end, the high end or both are missing, the fragment is the range:
the number and the dots, the dots and the number, or the dots alone. If the ends are in the wrong
order, the fragment is the range with the number that follows it, if one does. -/
theorem malformed_range_fragment {t ruleText fragment : Text} {d : Diagnostic} {position : Int}
    (h : compile t = .error (.grammar (.diagnosed d) ruleText fragment position))
    (hcode : d.code = .invalidRange) :
    ∃ before range rest, Token.ofText t = before ++ (range ++ rest) ∧
      RangeMayFollow (lexemes before) ∧ ruleText = t ∧ position = startOf range ∧
      d.Marks t (startOf range) fragment.length ∧
      (LacksEnd range rest ∧ fragment = covered t range ∨
        IsInverted range ∧ fragment = covered t (range ++ leadingNumber rest)) := by
  obtain ⟨d', before, here, shown, htokens, hshown, heq, hmarks⟩ :=
    exists_shown (length_le_of_invalidRange h hcode) h
  injection heq with hnotice hrule hfragment hposition
  injection hnotice with hd
  subst hd hrule hfragment hposition
  generalize hd : d.code = code at hshown
  cases hshown with
  | token hother => exact absurd (hd.symm.trans hcode) hother
  | @lacksEnd _ rest hfollow hlacks =>
    exact ⟨before, shown, rest, htokens, hfollow, rfl, rfl, hmarks, .inl ⟨hlacks, rfl⟩⟩
  | @inverted range rest hfollow hinverted =>
    have hstart : startOf (range ++ leadingNumber rest) = startOf range := by
      cases hinverted
      rfl
    rw [hstart] at hmarks ⊢
    exact ⟨before, range, rest, htokens, hfollow, rfl, rfl, hmarks, .inr ⟨hinverted, rfl⟩⟩

/-- The diagnostic on a part of a rule text that is a malformed range. -/
def onRange (source fragment : Text) (start : Nat) : Diagnostic where
  code := .invalidRange
  message := "Invalid range '" ++ fragment ++ "'"
  span := some ⟨start, start + fragment.length, Nat.le_add_right _ _⟩
  source := some source
  hint := some "Ranges are written low..high with low <= high".toList
  helpUrl := some grammarPage

theorem malformed_range_fragment_no_high :
    compile "n = 2, 3.. or i = 1" = .error
        (.grammar (.diagnosed (onRange "n = 2, 3.. or i = 1" "3.." 7)) "n = 2, 3.. or i = 1" "3.."
          7) ∧
      ∃ before range rest, Token.ofText "n = 2, 3.. or i = 1" = before ++ (range ++ rest) ∧
        RangeMayFollow (lexemes before) ∧ startOf range = 7 ∧
        (LacksEnd range rest ∧ covered "n = 2, 3.. or i = 1" range = "3..".toList ∨
          IsInverted range ∧
            covered "n = 2, 3.. or i = 1" (range ++ leadingNumber rest) = "3..".toList) := by
  have h : compile "n = 2, 3.. or i = 1" = .error
      (.grammar (.diagnosed (onRange "n = 2, 3.. or i = 1" "3.." 7)) "n = 2, 3.. or i = 1" "3.."
        7) := by cbv
  obtain ⟨before, range, rest, htokens, hfollow, -, hposition, -, hcases⟩ :=
    malformed_range_fragment h rfl
  refine ⟨h, before, range, rest, htokens, hfollow, (Int.ofNat_inj.1 hposition).symm, ?_⟩
  exact hcases.imp (And.imp_right Eq.symm) (And.imp_right Eq.symm)

/-- **A fragment may go beyond the malformed range.** Where a number follows a range with its ends
in the wrong order, the fragment shows the number as well. -/
theorem malformed_range_fragment_overruns :
    ∃ before range rest, Token.ofText "n = 5..1 3" = before ++ (range ++ rest) ∧
      IsInverted range ∧ covered "n = 5..1 3" range = "5..1".toList ∧
      compile "n = 5..1 3" = .error
        (.grammar (.diagnosed (onRange "n = 5..1 3" "5..1 3" 4)) "n = 5..1 3" "5..1 3" 4) := by
  refine ⟨[⟨.word, "n", 0⟩, ⟨.symbol, "=", 2⟩],
    [⟨.number, "5", 4⟩, ⟨.symbol, "..", 5⟩, ⟨.number, "1", 7⟩],
    [⟨.number, "3", 9⟩, ⟨.stop, "", 10⟩], ?_, .intro rfl rfl rfl ?_, ?_, ?_⟩
  · cbv
  · decide
  · rfl
  · cbv

end Rule

end Numerus
