import Numerus.Datum.Shown

/-!
JSON texts read into data.

Beside the numbers of JSON the words NaN and Infinity are read, the latter with a minus sign too. A
number with a fraction or an exponent is a binary number, any other number an integer within the
limit on digits. Control characters may not stand in strings. Of several members with one
key the last one counts. Arrays and objects may be nested up to a limit; near the limit there may
be no room left to tell more of a text than that it goes too deep.
-/

namespace Numerus.Json

/-- White space between the tokens of JSON. -/
def isSpace (c : Char) : Bool := c == ' ' || c == '\t' || c == '\n' || c == '\r'

/-- The text without the white space in front. -/
def skip (t : Text) : Text := t.dropWhile isSpace

/-- The value of a hexadecimal digit. -/
def hexDigit? (c : Char) : Option Nat :=
  if c.isDigit then some (c.toNat - '0'.toNat)
  else if 'a' ≤ c ∧ c ≤ 'f' then some (c.toNat - 'a'.toNat + 10)
  else if 'A' ≤ c ∧ c ≤ 'F' then some (c.toNat - 'A'.toNat + 10)
  else none

/-- The value of hexadecimal digits. -/
def hexValue? (t : Text) : Option Nat :=
  t.foldlM (fun value c => (hexDigit? c).map (16 * value + ·)) 0

/-- The character that a letter behind a backslash stands for. -/
def unescape? : Char → Option Char
  | '"' => some '"'
  | '\\' => some '\\'
  | '/' => some '/'
  | 'b' => some '\x08'
  | 'f' => some '\x0c'
  | 'n' => some '\n'
  | 'r' => some '\r'
  | 't' => some '\t'
  | _ => none

/-- How much deeper the reader has to go to tell what is wrong with a text. -/
def refusalDepth : Nat := 3

/-- Refuses a text; `room` is how much deeper the reader can go. Where it merely finds no value it
tells so without going deeper, and does not come here. -/
def refuse {α : Type} (room : Nat) : Except Failure α :=
  if room < refusalDepth then .error .tooDeep else .error .notJson

section Strings

variable (room : Nat)

/-- Reads a string after its opening mark, as code points and halves of pairs. -/
def readUnits : Text → Except Failure (List Nat × Text)
  | [] => refuse room
  | '"' :: rest => .ok ([], rest)
  | '\\' :: 'u' :: a :: b :: c :: d :: rest =>
    match hexValue? [a, b, c, d] with
    | some unit => do
      let (units, rest) ← readUnits rest
      return (unit :: units, rest)
    | none => refuse room
  | '\\' :: c :: rest =>
    match unescape? c with
    | some plain => do
      let (units, rest) ← readUnits rest
      return (plain.toNat :: units, rest)
    | none => refuse room
  | c :: rest =>
    if c.toNat < 0x20 ∨ c = '\\' then refuse room
    else do
      let (units, rest) ← readUnits rest
      return (c.toNat :: units, rest)

/-- Reads a string after its opening mark. -/
def readString (t : Text) : Except Failure (Datum × Text) := do
  let (units, rest) ← readUnits room t
  return (Datum.ofPoints (CodePoint.joinHalves units), rest)

end Strings

/-- Reads the digits of the whole part of a number: a zero, or digits that do not start with one. -/
def readWhole : Text → Except Failure (Text × Text)
  | '0' :: rest => .ok (['0'], rest)
  | t =>
    let digits := t.takeWhile Char.isDigit
    if digits = [] then .error .notJson else .ok (digits, t.dropWhile Char.isDigit)

/-- Reads a point and digits, if they stand there. -/
def readFraction : Text → Option Text × Text
  | '.' :: rest =>
    let digits := rest.takeWhile Char.isDigit
    if digits = [] then (none, '.' :: rest) else (some digits, rest.dropWhile Char.isDigit)
  | t => (none, t)

/-- Reads a sign, if one stands there. -/
def readSign : Text → Bool × Text
  | '-' :: rest => (true, rest)
  | '+' :: rest => (false, rest)
  | t => (false, t)

/-- Reads an exponent with its mark, if one stands there. -/
def readExponent (t : Text) : Option Int × Text :=
  match t with
  | [] => (none, [])
  | c :: rest =>
    let (negative, unsigned) := readSign rest
    let digits := unsigned.takeWhile Char.isDigit
    if (c = 'e' ∨ c = 'E') ∧ digits ≠ [] then
      let n : Int := Numeral.value digits
      (some (if negative then -n else n), unsigned.dropWhile Char.isDigit)
    else (none, t)

/-- Reads a number. -/
def readNumber (t : Text) : Except Failure (Datum × Text) := do
  let (negative, unsigned) := match t with
    | '-' :: rest => (true, rest)
    | _ => (false, t)
  let (whole, rest) ← readWhole unsigned
  let (fraction, rest) := readFraction rest
  let (exponent, rest) := readExponent rest
  if fraction.isNone && exponent.isNone then
    let n : Int := ← Numeral.read whole
    return (.integer (if negative then -n else n), rest)
  else
    let fraction := fraction.getD []
    let d : Decimal :=
      ⟨negative, Numeral.value (whole ++ fraction), exponent.getD 0 - fraction.length⟩
    return (.binary (Binary64.nearest d), rest)

/-- The words of JSON with what they stand for. -/
def words : List (Text × Datum) :=
  [("null", .absent), ("true", .truth true), ("false", .truth false)]

/-- The words for what is no finite number. -/
def numberWords : List (Text × Binary64) :=
  [("NaN", .notANumber), ("Infinity", .infinite false), ("-Infinity", .infinite true)]

/-- Reads a word or a number. A word for a number is looked up one step deeper. -/
def readScalar (room : Nat) (t : Text) : Except Failure (Datum × Text) :=
  match words.find? (·.1.isPrefixOf t), numberWords.find? (·.1.isPrefixOf t) with
  | some word, _ => .ok (word.2, t.drop word.1.length)
  | none, some word =>
    if room = 0 then .error .tooDeep else .ok (.binary word.2, t.drop word.1.length)
  | none, none => readNumber t

section Nested

variable (bound room : Nat) (readElement : Text → Except Failure (Datum × Text))

/-- Reads the elements of an array up to its closing bracket; `fuel` bounds their number. -/
def readElements : Nat → Text → Except Failure (List Datum × Text)
  | 0, _ => .error .notJson
  | fuel + 1, t => do
    let (element, rest) ← readElement t
    match skip rest with
    | ',' :: rest => do
      let (elements, rest) ← readElements fuel (skip rest)
      return (element :: elements, rest)
    | ']' :: rest => return ([element], rest)
    | _ => refuse room

/-- Reads an array after its opening bracket; `bound` bounds the number of its elements. -/
def readArray (t : Text) : Except Failure (Datum × Text) :=
  match skip t with
  | ']' :: rest => .ok (.sequence [], rest)
  | t => do
    let (elements, rest) ← readElements room readElement bound t
    return (.sequence elements, rest)

/-- Reads a key, the colon after it, and a value. -/
def readMember : Text → Except Failure ((Datum × Datum) × Text)
  | '"' :: rest => do
    let (key, rest) ← readString room rest
    match skip rest with
    | ':' :: rest => do
      let (value, rest) ← readElement (skip rest)
      return ((key, value), rest)
    | _ => refuse room
  | _ => refuse room

/-- Reads the members of an object up to its closing brace; `fuel` bounds their number. -/
def readMembers : Nat → Text → Except Failure (List (Datum × Datum) × Text)
  | 0, _ => .error .notJson
  | fuel + 1, t => do
    let (member, rest) ← readMember room readElement t
    match skip rest with
    | ',' :: rest => do
      let (members, rest) ← readMembers fuel (skip rest)
      return (member :: members, rest)
    | '\x7d' :: rest => return ([member], rest)
    | _ => refuse room

/-- Reads an object after its opening brace; `bound` bounds the number of its members. -/
def readObject (t : Text) : Except Failure (Datum × Text) :=
  match skip t with
  | '\x7d' :: rest => .ok (.mapping [], rest)
  | t => do
    let (members, rest) ← readMembers room readElement bound t
    return (.mapping (Entries.ofList Datum.sameKey members), rest)

end Nested

/-- Reads a value in which arrays and objects have `bound` parts and are nested to the depth `room`
at most. -/
def readValue (bound : Nat) : Nat → Text → Except Failure (Datum × Text)
  | room, '"' :: rest => readString room rest
  | 0, '[' :: _ => .error .tooDeep
  | 0, '\x7b' :: _ => .error .tooDeep
  | room + 1, '[' :: rest => readArray bound room (readValue bound room) rest
  | room + 1, '\x7b' :: rest => readObject bound room (readValue bound room) rest
  | room, t => readScalar room t

/-- How deep arrays and objects may be nested. -/
def nestingLimit : Nat := 991

/-- Reads a JSON text: one value, with white space around it. No array or object has more parts than
the text has characters. -/
def read (t : Text) : Except Failure Datum := do
  let (value, rest) ← readValue t.length nestingLimit (skip t)
  if skip rest = [] then return value else throw .notJson

end Numerus.Json
