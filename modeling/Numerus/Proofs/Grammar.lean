import Numerus.Proofs.Lexeme
import Numerus.Rule.Condition

/-!
The grammar of rules, as derivations over lexemes.

Each nonterminal is a relation between lexemes and what they mean, so a derivation of a rule
carries the condition of the rule. The relations follow the grammar that heads `Rule/Stage` and
know nothing of stages: alternatives and conjunctions grow to the left, every operand is one of
the eight, no modulus is zero, and no range has its bounds in the wrong order.

* `Grammar.IsRule` — the whole of a rule; no lexemes at all are the condition that always holds.
-/

namespace Numerus.Rule.Grammar

/-- `operand [("%" | "mod") value]`, with a modulus that is not zero. -/
inductive IsExpression : List Lexeme → Operand → Option Modulus → Prop where
  | plain (x : Operand) : IsExpression [.word x.symbol] x none
  | reduced (x : Operand) {sign : Lexeme} (digits : Text)
      (hsign : sign = .symbol ['%'] ∨ sign = .word "mod") (hpos : 0 < Numeral.value digits) :
      IsExpression [.word x.symbol, sign, .number digits] x (some ⟨Numeral.value digits, hpos⟩)

/-- The operators before a list of ranges, with what they set: negation and `within`. -/
inductive IsOperator : List Lexeme → Bool → Bool → Prop where
  | equal : IsOperator [.symbol ['=']] false false
  | unequal : IsOperator [.symbol ['!', '=']] true false
  | isIn : IsOperator [.word "in"] false false
  | notIn : IsOperator [.word "not", .word "in"] true false
  | within : IsOperator [.word "within"] false true
  | notWithin : IsOperator [.word "not", .word "within"] true true

/-- An expression and an operator: all of a relation before its list of ranges. -/
inductive IsSubject : List Lexeme → Subject → Prop where
  | mk {ls ls' : List Lexeme} {operand : Operand} {modulus : Option Modulus}
      {negated within : Bool} :
      IsExpression ls operand modulus → IsOperator ls' negated within →
      IsSubject (ls ++ ls') { operand, modulus, negated, within }

/-- `value | value ".." value`, with bounds in order. -/
inductive IsRange : List Lexeme → Range → Prop where
  | single (digits : Text) : IsRange [.number digits] (.single (Numeral.value digits))
  | bounds (low high : Text) (hle : Numeral.value low ≤ Numeral.value high) :
      IsRange [.number low, .symbol ['.', '.'], .number high]
        ⟨Numeral.value low, Numeral.value high, hle⟩

/-- `range ("," range)*`, the ranges in their order. -/
inductive IsRangeList : List Lexeme → List Range → Prop where
  | one {ls : List Lexeme} {r : Range} : IsRange ls r → IsRangeList ls [r]
  | more {ls ls' : List Lexeme} {rs : List Range} {r : Range} :
      IsRangeList ls rs → IsRange ls' r →
      IsRangeList (ls ++ .symbol [','] :: ls') (rs ++ [r])

/-- A relation in either syntax. After "is" stands one value and no list. -/
inductive IsRelation : List Lexeme → Relation → Prop where
  | list {ls ls' : List Lexeme} {r : Relation} :
      IsSubject ls r.toSubject → IsRangeList ls' r.ranges → IsRelation (ls ++ ls') r
  | is {ls : List Lexeme} {operand : Operand} {modulus : Option Modulus} (digits : Text) :
      IsExpression ls operand modulus →
      IsRelation (ls ++ [.word "is", .number digits])
        { operand, modulus, ranges := [.single (Numeral.value digits)] }
  | isNot {ls : List Lexeme} {operand : Operand} {modulus : Option Modulus} (digits : Text) :
      IsExpression ls operand modulus →
      IsRelation (ls ++ [.word "is", .word "not", .number digits])
        { operand, modulus, negated := true, ranges := [.single (Numeral.value digits)] }

/-- `relation ("and" relation)*`, nested to the left. -/
inductive IsConjunction : List Lexeme → Condition → Prop where
  | one {ls : List Lexeme} {r : Relation} : IsRelation ls r → IsConjunction ls (.relation r)
  | and {ls ls' : List Lexeme} {c : Condition} {r : Relation} :
      IsConjunction ls c → IsRelation ls' r →
      IsConjunction (ls ++ .word "and" :: ls') (.and c (.relation r))

/-- `conjunction ("or" conjunction)*`, nested to the left. -/
inductive IsDisjunction : List Lexeme → Condition → Prop where
  | one {ls : List Lexeme} {c : Condition} : IsConjunction ls c → IsDisjunction ls c
  | or {ls ls' : List Lexeme} {c d : Condition} :
      IsDisjunction ls c → IsConjunction ls' d →
      IsDisjunction (ls ++ .word "or" :: ls') (.or c d)

/-- The lexemes of a rule and its condition. -/
inductive IsRule : List Lexeme → Condition → Prop where
  | blank : IsRule [] .always
  | condition {ls : List Lexeme} {c : Condition} : IsDisjunction ls c → IsRule ls c

/-! ### Only a blank rule has no lexemes -/

theorem IsExpression.ne_nil {ls : List Lexeme} {operand : Operand} {modulus : Option Modulus}
    (h : IsExpression ls operand modulus) : ls ≠ [] := by
  cases h <;> simp

theorem IsOperator.ne_nil {ls : List Lexeme} {negated within : Bool}
    (h : IsOperator ls negated within) : ls ≠ [] := by
  cases h <;> simp

theorem IsRangeList.ne_nil {ls : List Lexeme} {rs : List Range} (h : IsRangeList ls rs) :
    ls ≠ [] := by
  cases h with
  | one hr => cases hr <;> simp
  | more => simp

theorem IsSubject.ne_nil {ls : List Lexeme} {s : Subject} (h : IsSubject ls s) : ls ≠ [] := by
  obtain ⟨he, -⟩ := h
  simp [he.ne_nil]

theorem IsRelation.ne_nil {ls : List Lexeme} {r : Relation} (h : IsRelation ls r) : ls ≠ [] := by
  cases h with
  | list hs => simp [hs.ne_nil]
  | is => simp
  | isNot => simp

theorem IsConjunction.ne_nil {ls : List Lexeme} {c : Condition} (h : IsConjunction ls c) :
    ls ≠ [] := by
  cases h with
  | one hr => exact hr.ne_nil
  | and => simp

theorem IsDisjunction.ne_nil {ls : List Lexeme} {c : Condition} (h : IsDisjunction ls c) :
    ls ≠ [] := by
  cases h with
  | one hc => exact hc.ne_nil
  | or => simp

theorem isRule_nil_iff {c : Condition} : IsRule [] c ↔ c = .always := by
  constructor
  · intro h
    cases h with
    | blank => rfl
    | condition hc => exact absurd rfl hc.ne_nil
  · rintro rfl
    exact .blank

/-- A rule that is not blank is a disjunction. -/
theorem IsRule.isDisjunction {ls : List Lexeme} {c : Condition} (h : IsRule ls c) (hne : ls ≠ []) :
    IsDisjunction ls c := by
  cases h with
  | blank => exact absurd rfl hne
  | condition hc => exact hc

theorem isRule_cons_iff {l : Lexeme} {ls : List Lexeme} {c : Condition} :
    IsRule (l :: ls) c ↔ IsDisjunction (l :: ls) c := by
  constructor
  · rintro (_ | hc)
    exact hc
  · exact .condition

end Numerus.Rule.Grammar
