import Numerus.Diagnostic.Rendering
import Numerus.Failure.Fault

/-!
Failures: the ways in which an operation of the library ends without an answer.

The first five kinds belong to the library's own subject and tell what is wrong by a notice. The
others are refusals of single values, of look-ups and of documents that cannot be read.
-/

namespace Numerus

/-- What a failure tells: a plain message or a diagnostic. -/
inductive Notice where
  | plain (message : Text)
  | diagnosed (diagnostic : Diagnostic)
  deriving DecidableEq

namespace Notice

/-- The text of a notice; a diagnostic is written as a report without colors, unclipped. -/
def message : Notice → Text
  | plain message => message
  | diagnosed diagnostic => diagnostic.render {}

/-- The diagnostic of a notice, if it has one. -/
def diagnostic? : Notice → Option Diagnostic
  | plain _ => none
  | diagnosed diagnostic => some diagnostic

end Notice

/-- How an operation ends without an answer. -/
inductive Failure where
  /-- Any fault of plural rules. -/
  | general (notice : Notice)
  /-- A rule text or rule data is malformed: `fragment` is at fault, at offset `position` of
  `ruleText`, or at offset -1 if no offset applies. -/
  | grammar (notice : Notice) (ruleText fragment : Text) (position : Int)
  /-- Neither a locale nor its language has rules. -/
  | unknownRules (notice : Notice) (localeCode family : Text)
  /-- The argument with the given name is not acceptable. -/
  | argument (notice : Notice) (name : Text)
  /-- A document does not have the expected shape. -/
  | data (notice : Notice)
  /-- A value breaks a rule of its type. -/
  | invalid (fault : Fault)
  /-- No operand has the given symbol. -/
  | unknownSymbol (symbol : Text)
  /-- Nothing has the given name. -/
  | unknownName (name : Text)
  /-- A text is read at a position where it has ended. -/
  | pastEnd (position : Int)
  /-- An index lies outside its sequence. -/
  | outOfBounds
  /-- A number exceeds the machine's integers. -/
  | overflow
  /-- A result does not fit into memory. -/
  | outOfMemory
  /-- A result has more digits than arithmetic works with. -/
  | tooManyDigits
  /-- A text is not a decimal number. -/
  | notDecimal
  /-- A mapping is needed and something else was given. -/
  | notMapping
  /-- Arguments are missing, or are of a kind that their use does not admit. -/
  | wrongKind
  /-- No kind of diagnostic has the given name. -/
  | unknownTemplate
  /-- A text is not JSON. -/
  | notJson
  /-- Bytes are not UTF-8. -/
  | notUtf8
  /-- There is no such file. -/
  | noFile
  /-- A document or a condition is nested too deeply. -/
  | tooDeep
  deriving DecidableEq

namespace Failure

/-- What the failure tells about plural rules, if it is of that subject. -/
def notice? : Failure → Option Notice
  | general notice | grammar notice .. | unknownRules notice .. | argument notice _
  | data notice => some notice
  | _ => none

/-- The diagnostic of a failure, if it has one. -/
def diagnostic? (f : Failure) : Option Diagnostic := f.notice?.bind (·.diagnostic?)

/-- The message of a failure, if it has one. -/
def message? : Failure → Option Text
  | invalid fault => some fault.message
  | unknownSymbol symbol => some ("Unknown plural operand " ++ symbol)
  | unknownName name => some name
  | pastEnd position => some ("Unexpected EOF at position " ++ Numeral.ofInt position)
  | f => f.notice?.map (·.message)

end Failure

end Numerus
