import Numerus.Rule.Stage
import Numerus.Text.Blank

/-!
Rule texts compiled to conditions.

A rule text may be followed by samples, which an at sign opens; they are left out. A text without
tokens is the condition that always holds. Texts that are too long are not looked at.
-/

namespace Numerus.Rule

/-- The most characters that a rule text may have, samples included. -/
def lengthLimit : Nat := 4096

/-- The condition that the tokens of the rule text `source` stand for. -/
def ofTokens (source : Text) (ts : List Token) : Except Failure Condition :=
  match ts.head? with
  | some t => if t.kind = .stop then .ok .always else State.run source {} ts
  | none => .error .outOfBounds

/-- The condition that a rule text stands for. -/
def compile (t : Text) : Except Failure Condition :=
  if t.length > lengthLimit then
    (Complaint.ruleTooLong (Numeral.ofNat t.length) (Numeral.ofNat lengthLimit)).raise
      (.grammar · (t.take lengthLimit) [] (-1))
  else ofTokens t (Token.ofText t)

/-- The rule text without its samples and without white space at its ends. -/
def stripSamples (t : Text) : Text := Text.strip (t.before '@')

end Numerus.Rule
