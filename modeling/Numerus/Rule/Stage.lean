import Numerus.Diagnostic.Complaint
import Numerus.Rule.Condition
import Numerus.Rule.Token

/-!
Reading a rule token by token.

A stage says what part of a rule is being read and keeps what has been read of the relation at
hand. `State.step` takes one token: it leads to the next stage, ends with the condition read, or
refuses the token. Conjunctions and disjunctions grow to the left, and a conjunction binds tighter.

    condition   = conjunction ("or" conjunction)*
    conjunction = relation ("and" relation)*
    relation    = subject ("=" | "!=") ranges
                | subject "is" ["not"] value
                | subject ["not"] ("in" | "within") ranges
    subject     = operand [("%" | "mod") value]
    ranges      = (value | value ".." value) ("," (value | value ".." value))*
-/

namespace Numerus.Rule

/-- The part of a rule that is being read. -/
inductive Stage where
  /-- An operand is wanted. -/
  | operand
  /-- A modulus or an operator is wanted. -/
  | subject (s : Subject)
  /-- The value of a modulus is wanted. -/
  | modulus (s : Subject)
  /-- An operator is wanted. -/
  | operator (s : Subject)
  /-- A value is wanted after "is", or first a "not". -/
  | value (s : Subject)
  /-- A value is wanted after "is not". -/
  | otherValue (s : Subject)
  /-- "in" or "within" is wanted after "not". -/
  | keyword (s : Subject)
  /-- A range is wanted. -/
  | range (s : Subject) (ranges : List Range)
  /-- A value has been read, at offset `start`, that is a range or the low end of one. -/
  | low (s : Subject) (ranges : List Range) (start low : Nat)
  /-- The high end of a range is wanted; the dots before it end at offset `stop`. -/
  | high (s : Subject) (ranges : List Range) (start low stop : Nat)
  /-- A range has been read, and more ranges may follow. -/
  | listed (r : Relation)
  /-- A relation has been read. -/
  | complete (r : Relation)
  deriving DecidableEq

/-- How far a rule has been read. -/
structure State where
  /-- The alternatives before the one at hand. -/
  alternatives : Option Condition := none
  /-- The relations of the alternative at hand that are complete. -/
  conjuncts : Option Condition := none
  stage : Stage := .operand
  deriving DecidableEq

/-- What a token leads to. -/
inductive Outcome where
  | next (s : State)
  | done (c : Condition)

/-- The condition `c` after the conditions read before it. -/
def joinedBy (connect : Condition → Condition → Condition) (before : Option Condition)
    (c : Condition) : Condition :=
  match before with
  | some b => connect b c
  | none => c

/-- The operators that other rule languages have. -/
def foreignOperators : List Text :=
  [['=', '='], ['<'], ['>'], ['<', '='], ['>', '='], ['!'], ['<', '>']]

variable {α : Type}

/-- Refuses a token of the rule text `source`. -/
def refuse (source : Text) (t : Token) (c : Complaint) : Except Failure α :=
  c.raise (.grammar · source t.text t.position)

/-- What is wrong with a token where something else is wanted. -/
def mismatch (source : Text) (t : Token) (expected : Text) : Complaint :=
  if t.kind = .stop then .unexpectedEnd source t.position expected
  else if t.isSymbol ['('] || t.isSymbol [')'] then .parenthesesUnsupported source t.position
  else .unexpectedToken source t.text t.position expected

/-- Refuses a token where something else is wanted. -/
def refuseFor (expected : Text) (source : Text) (t : Token) : Except Failure α :=
  refuse source t (mismatch source t expected)

/-- Refuses a token as an operator. -/
def refuseOperator (source : Text) (t : Token) : Except Failure α :=
  refuse source t (.unknownOperator source t.text t.position)

/-- Refuses the range between two offsets. -/
def refuseRange (source : Text) (start stop : Nat) : Except Failure α :=
  let fragment := source.slice start stop
  (Complaint.invalidRange source fragment start).raise (.grammar · source fragment start)

/-- The end of the token `t`, or of the token after it if that is a number. -/
def rangeEnd (t : Token) : Option Token → Nat
  | some next => if next.kind = .number then next.stop else t.stop
  | none => t.stop

/-- Reads a number where a value is wanted. -/
def readValue (source : Text) (t : Token) : Except Failure Nat :=
  if t.kind = .number then Numeral.read t.text else refuseFor "a number" source t

/-- Reads an operand. -/
def readOperand (source : Text) (t : Token) : Except Failure Stage :=
  if t.kind = .word then
    match Operand.ofSymbol? t.text with
    | some x => .ok (.subject { operand := x })
    | none => refuse source t (.unknownOperand source t.text t.position)
  else refuseFor "an operand" source t

/-- Reads the value of a modulus. -/
def readModulus (source : Text) (s : Subject) (t : Token) : Except Failure Stage := do
  let m ← readValue source t
  if h : 0 < m then return .operator { s with modulus := some ⟨m, h⟩ }
  else refuse source t (.invalidModulus source t.text t.position)

/-- Reads an operator. -/
def readOperator (source : Text) (s : Subject) (t : Token) : Except Failure Stage :=
  match t.kind with
  | .symbol =>
    if t.text = ['='] then .ok (.range s [])
    else if t.text = ['!', '='] then .ok (.range { s with negated := true } [])
    else if t.text ∈ foreignOperators then refuseOperator source t
    else refuseFor "a relational operator" source t
  | .word =>
    if t.text = "is".toList then .ok (.value s)
    else if t.text = "not".toList then .ok (.keyword { s with negated := true })
    else if t.text = "in".toList then .ok (.range s [])
    else if t.text = "within".toList then .ok (.range { s with within := true } [])
    else refuseOperator source t
  | _ => refuseFor "a relational operator" source t

/-- Reads what follows the operand: the sign of a modulus or an operator. -/
def readSubject (source : Text) (s : Subject) (t : Token) : Except Failure Stage :=
  if t.isSymbol ['%'] || t.isWord "mod" then .ok (.modulus s) else readOperator source s t

/-- Reads the keyword after "not". -/
def readKeyword (source : Text) (s : Subject) (t : Token) : Except Failure Stage :=
  if t.isWord "in" then .ok (.range s [])
  else if t.isWord "within" then .ok (.range { s with within := true } [])
  else refuseFor "'in' or 'within'" source t

/-- Reads the value after "is not". -/
def readOtherValue (source : Text) (s : Subject) (t : Token) : Except Failure Stage := do
  let n ← readValue source t
  return .complete { s with ranges := [Range.single n] }

/-- Reads the value after "is", or a "not" before it. -/
def readIs (source : Text) (s : Subject) (t : Token) : Except Failure Stage :=
  if t.isWord "not" then .ok (.otherValue { s with negated := true })
  else readOtherValue source s t

/-- Reads the low end of a range. -/
def readLow (source : Text) (s : Subject) (ranges : List Range) (t : Token)
    (next : Option Token) : Except Failure Stage :=
  if t.isSymbol ['.', '.'] then refuseRange source t.position (rangeEnd t next)
  else do
    let n ← readValue source t
    return .low s ranges t.position n

/-- Reads the high end of a range. -/
def readHigh (source : Text) (s : Subject) (ranges : List Range) (start low stop : Nat)
    (t : Token) (next : Option Token) : Except Failure Stage :=
  if t.kind = .number then do
    let high ← Numeral.read t.text
    if h : low ≤ high then return .listed { s with ranges := ranges ++ [⟨low, high, h⟩] }
    else refuseRange source start (rangeEnd t next)
  else refuseRange source start stop

namespace State

/-- Reads a connective or the end of the rule, after the relation `r`. -/
def connect (s : State) (source : Text) (r : Relation) (t : Token) : Except Failure Outcome :=
  let conjunction := joinedBy .and s.conjuncts (.relation r)
  if t.isWord "and" then
    .ok (.next { alternatives := s.alternatives, conjuncts := some conjunction })
  else if t.isWord "or" then
    .ok (.next { alternatives := some (joinedBy .or s.alternatives conjunction) })
  else if t.kind = .stop then .ok (.done (joinedBy .or s.alternatives conjunction))
  else refuseFor "'and', 'or' or end of rule" source t

/-- Reads what follows a range: a comma and more ranges, or the end of the relation `r`. -/
def connectOrList (s : State) (source : Text) (r : Relation) (t : Token) :
    Except Failure Outcome :=
  if t.isSymbol [','] then .ok (.next { s with stage := .range r.toSubject r.ranges })
  else s.connect source r t

/-- Reads what follows a value in a list of ranges: dots and a high end, or what follows the range
of that value. -/
def connectOrDots (s : State) (source : Text) (subject : Subject) (ranges : List Range)
    (start low : Nat) (t : Token) : Except Failure Outcome :=
  if t.isSymbol ['.', '.'] then
    .ok (.next { s with stage := .high subject ranges start low t.stop })
  else s.connectOrList source { subject with ranges := ranges ++ [Range.single low] } t

/-- Stays in the relation at hand, at the stage that a token leads to. -/
def proceed (s : State) (stage : Except Failure Stage) : Except Failure Outcome := do
  let stage ← stage
  return .next { s with stage }

/-- Reads one token of the rule text `source`; the token after it tells how far a range that is
refused reaches. -/
def step (source : Text) (s : State) (t : Token) (next : Option Token) : Except Failure Outcome :=
  match s.stage with
  | .operand => s.proceed (readOperand source t)
  | .subject x => s.proceed (readSubject source x t)
  | .modulus x => s.proceed (readModulus source x t)
  | .operator x => s.proceed (readOperator source x t)
  | .value x => s.proceed (readIs source x t)
  | .otherValue x => s.proceed (readOtherValue source x t)
  | .keyword x => s.proceed (readKeyword source x t)
  | .range x ranges => s.proceed (readLow source x ranges t next)
  | .low x ranges start low => s.connectOrDots source x ranges start low t
  | .high x ranges start low stop => s.proceed (readHigh source x ranges start low stop t next)
  | .listed r => s.connectOrList source r t
  | .complete r => s.connect source r t

/-- Reads tokens up to the one that stands for the end of the text. -/
def run (source : Text) : State → List Token → Except Failure Condition
  | _, [] => .error .outOfBounds
  | s, t :: ts => do
    match ← s.step source t ts.head? with
    | .next s => run source s ts
    | .done c => return c

theorem run_next {source : Text} {s s' : State} {t : Token} {ts : List Token}
    (h : s.step source t ts.head? = .ok (.next s')) : run source s (t :: ts) = run source s' ts := by
  rw [run, h]
  rfl

theorem run_done {source : Text} {s : State} {t : Token} {ts : List Token} {c : Condition}
    (h : s.step source t ts.head? = .ok (.done c)) : run source s (t :: ts) = .ok c := by
  rw [run, h]
  rfl

theorem run_error {source : Text} {s : State} {t : Token} {ts : List Token} {e : Failure}
    (h : s.step source t ts.head? = .error e) : run source s (t :: ts) = .error e := by
  rw [run, h]
  rfl

end State

end Numerus.Rule
