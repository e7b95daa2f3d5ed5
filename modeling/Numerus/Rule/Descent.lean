import Numerus.Rule.Compile

/-!
Reading a rule by descent into its phrases.

This is the reading of `Rule/Stage` told the other way: one reader for each phrase of the grammar,
which takes the index of its first token and gives the index after its last one. Nothing is taken
for granted here. Every token is looked up by its index, the token before the one at hand as well,
and a look-up outside the tokens is a failure; every numeral is read within the limit on digits; and
ranges, moduli and relations are built by the functions that check their parts.
-/

namespace Numerus.Rule.Descent

/-- What is read from the index `start` on, and the index after it. -/
structure Part (α : Type) (start : Nat) where
  value : α
  next : Nat
  start_lt_next : start < next

/-- The token at an index. -/
def tokenAt (ts : List Token) (i : Nat) : Except Failure Token :=
  match ts[i]? with
  | some t => .ok t
  | none => .error .outOfBounds

/-- The token before the one at an index. -/
def tokenBefore (ts : List Token) : Nat → Except Failure Token
  | 0 => .error .outOfBounds
  | i + 1 => tokenAt ts i

/-- An item, and more items as long as a separator follows, put together from the left. -/
def more {α β : Type} (ts : List Token) (separates : Token → Bool)
    (item : (i : Nat) → Except Failure (Part α i)) (join : β → α → β) {start : Nat}
    (first : Part β start) : Except Failure (Part β start) :=
  if h : first.next < ts.length then
    if separates ts[first.next] then do
      let a ← item (first.next + 1)
      have later := a.start_lt_next
      have begun := first.start_lt_next
      more ts separates item join ⟨join first.value a.value, a.next, by omega⟩
    else .ok first
  else .error .outOfBounds
termination_by ts.length - first.next

section Readers

variable (source : Text) (ts : List Token)

/-- A number. -/
def value (i : Nat) : Except Failure (Part Nat i) := do
  let t ← tokenAt ts i
  let n ← readValue source t
  return ⟨n, i + 1, Nat.lt_succ_self i⟩

/-- An operand and a modulus, if a sign for one follows. -/
def expression (i : Nat) : Except Failure (Part (Text × Option Int) i) := do
  let t ← tokenAt ts i
  let _ ← readOperand source t
  let sign ← tokenAt ts (i + 1)
  if sign.isSymbol ['%'] || sign.isWord "mod" then
    let numeral ← tokenAt ts (i + 2)
    let m ← value source ts (i + 2)
    have later := m.start_lt_next
    if m.value = 0 then
      refuse source numeral (.invalidModulus source numeral.text numeral.position)
    else return ⟨(t.text, some m.value), m.next, by omega⟩
  else return ⟨(t.text, none), i + 1, Nat.lt_succ_self i⟩

/-- Where a range that is refused ends: after the number at an index, or after the token before
that index. -/
def rangeEndAt (i : Nat) : Except Failure Nat := do
  let t ← tokenAt ts i
  if t.kind = .number then return t.stop
  else
    let previous ← tokenBefore ts i
    return previous.stop

/-- The high end of the range that starts at offset `start` with the number `low`. -/
def highEnd (start low i : Nat) : Except Failure (Part Range i) := do
  let t ← tokenAt ts i
  if t.kind = .number then
    let high ← value source ts i
    if high.value < low then
      let stop ← rangeEndAt ts high.next
      refuseRange source start stop
    else
      let r ← Range.of low high.value
      return ⟨r, high.next, high.start_lt_next⟩
  else
    let dots ← tokenBefore ts i
    refuseRange source start (dots.position + 2)

/-- A range, of one number or of two with dots between them. -/
def range (i : Nat) : Except Failure (Part Range i) := do
  let first ← tokenAt ts i
  if first.isSymbol ['.', '.'] then
    let stop ← rangeEndAt ts (i + 1)
    refuseRange source first.position stop
  else
    let low ← value source ts i
    have later := low.start_lt_next
    let t ← tokenAt ts low.next
    if t.isSymbol ['.', '.'] then
      let r ← highEnd source ts first.position low.value (low.next + 1)
      have further := r.start_lt_next
      return ⟨r.value, r.next, by omega⟩
    else
      let r ← Range.of low.value low.value
      return ⟨r, low.next, later⟩

/-- Ranges with commas between them. -/
def ranges (i : Nat) : Except Failure (Part (List Range) i) := do
  let r ← range source ts i
  more ts (·.isSymbol [',']) (range source ts) (fun rs r => rs ++ [r])
    ⟨[r.value], r.next, r.start_lt_next⟩

/-- The ranges of a relation whose other parts have been read. -/
def listed (x : Text × Option Int) (negated within : Bool) (i : Nat) :
    Except Failure (Part Relation i) := do
  let rs ← ranges source ts i
  let r ← Relation.of x.1 x.2 negated within rs.value
  return ⟨r, rs.next, rs.start_lt_next⟩

/-- The one value of a relation whose other parts have been read. -/
def single (x : Text × Option Int) (negated : Bool) (i : Nat) :
    Except Failure (Part Relation i) := do
  let n ← value source ts i
  let range ← Range.of n.value n.value
  let r ← Relation.of x.1 x.2 negated false [range]
  return ⟨r, n.next, n.start_lt_next⟩

/-- What follows "is": one value, perhaps with "not" before it. -/
def afterIs (x : Text × Option Int) (i : Nat) : Except Failure (Part Relation i) := do
  let sign ← tokenAt ts i
  if sign.isWord "not" then
    let r ← single source ts x true (i + 1)
    return ⟨r.value, r.next, Nat.lt_of_succ_lt r.start_lt_next⟩
  else single source ts x false i

/-- "in" or "within" with ranges, where a "not" before it has been read or not. -/
def keyword (x : Text × Option Int) (negated : Bool) (i : Nat) :
    Except Failure (Part Relation i) := do
  let t ← tokenAt ts i
  if t.isWord "in" || t.isWord "within" then
    let r ← listed source ts x negated (t.isWord "within") (i + 1)
    return ⟨r.value, r.next, Nat.lt_of_succ_lt r.start_lt_next⟩
  else if negated then refuseFor "'in' or 'within'" source t
  else refuseOperator source t

/-- What follows the expression of a relation: an operator and ranges, or "is" and one value. -/
def comparison (x : Text × Option Int) (i : Nat) : Except Failure (Part Relation i) := do
  let t ← tokenAt ts i
  match t.kind with
  | .symbol =>
    if t.text = ['='] ∨ t.text = ['!', '='] then
      let r ← listed source ts x (t.text = ['!', '=']) false (i + 1)
      return ⟨r.value, r.next, Nat.lt_of_succ_lt r.start_lt_next⟩
    else if foreignOperators.contains t.text then refuseOperator source t
    else refuseFor "a relational operator" source t
  | .word =>
    if t.text = "is".toList then
      let r ← afterIs source ts x (i + 1)
      return ⟨r.value, r.next, Nat.lt_of_succ_lt r.start_lt_next⟩
    else if t.text = "not".toList then
      let r ← keyword source ts x true (i + 1)
      return ⟨r.value, r.next, Nat.lt_of_succ_lt r.start_lt_next⟩
    else keyword source ts x false i
  | _ => refuseFor "a relational operator" source t

/-- A relation. -/
def relation (i : Nat) : Except Failure (Part Relation i) := do
  let x ← expression source ts i
  let r ← comparison source ts x.value x.next
  return ⟨r.value, r.next, Nat.lt_trans x.start_lt_next r.start_lt_next⟩

/-- Relations with "and" between them. -/
def conjunction (i : Nat) : Except Failure (Part Condition i) := do
  let r ← relation source ts i
  more ts (·.isWord "and") (relation source ts) (fun c r => .and c (.relation r))
    ⟨.relation r.value, r.next, r.start_lt_next⟩

/-- Conjunctions with "or" between them. -/
def disjunction (i : Nat) : Except Failure (Part Condition i) := do
  let c ← conjunction source ts i
  more ts (·.isWord "or") (conjunction source ts) .or c

/-- The condition that the tokens of a rule text stand for. -/
def rule : Except Failure Condition := do
  let t ← tokenAt ts 0
  if t.kind = .stop then return .always
  else
    let c ← disjunction source ts 0
    let t ← tokenAt ts c.next
    if t.kind = .stop then return c.value
    else refuseFor "'and', 'or' or end of rule" source t

end Readers

/-- The condition that a rule text stands for. -/
def compile (t : Text) : Except Failure Condition :=
  if t.length > lengthLimit then
    (Complaint.ruleTooLong (Numeral.ofNat t.length) (Numeral.ofNat lengthLimit)).raise
      (.grammar · (t.take lengthLimit) [] (-1))
  else rule t (Token.ofText t)

end Numerus.Rule.Descent
