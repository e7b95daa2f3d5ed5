import Numerus.Binary64.Shortest
import Numerus.Entries
import Numerus.Failure.Basic
import Numerus.Locale.Library
import Numerus.Text.CodePoint

/-!
Data of any kind, as callers pass them and documents hold them.

The entries of a mapping have different keys, in the order in which the keys were first put in.
Numbers of different kinds are the same key if they have the same value. Sequences,
mappings and signaling decimal numbers are no keys.
-/

namespace Numerus

/-- A datum of any kind. -/
inductive Datum where
  | absent
  | truth (value : Bool)
  | integer (value : Int)
  | binary (value : Binary64)
  | decimal (value : ExtendedDecimal)
  | text (value : Text)
  /-- A text with halves of pairs that stand alone, as its code points. -/
  | brokenText (points : List Nat)
  | bytes (value : List UInt8)
  | sequence (items : List Datum)
  | mapping (entries : List (Datum × Datum))
  | locale (value : Locale)
  /-- A locale as an object of the library that tags are read with. -/
  | localeObject (value : Locale.Object)

instance : Inhabited Datum := ⟨.absent⟩

namespace Decimal

/-- The number of zeros that close the digits of the coefficient. -/
def closingZeros (d : Decimal) : Nat :=
  ((Numeral.ofNat d.coefficient).reverse.takeWhile (· == '0')).length

/-- The decimal number of the same value whose coefficient does not end in a zero. -/
def reduced (d : Decimal) : Decimal :=
  if d.coefficient = 0 then ⟨false, 0, 0⟩
  else ⟨d.negative, d.coefficient / powerOfTen d.closingZeros, d.exponent + d.closingZeros⟩

/-- The value of `± significand * 2 ^ exponent`. -/
def ofBinary (negative : Bool) (significand : Nat) (exponent : Int) : Decimal :=
  if 0 ≤ exponent then ⟨negative, significand * powerOfTwo exponent.toNat, 0⟩
  else ⟨negative, significand * Nat.pow 5 (-exponent).toNat, exponent⟩

/-- The whole number `i`. -/
def ofInt (i : Int) : Decimal := ⟨i < 0, i.natAbs, 0⟩

end Decimal

namespace Datum

/-- The value of a number of any kind; something that is no number has none. -/
def magnitude? : Datum → Option ExtendedDecimal
  | truth value => some (.finite (Decimal.ofNat value.toNat).reduced)
  | integer value => some (.finite (Decimal.ofInt value).reduced)
  | binary (.finite negative significand exponent) =>
    some (.finite (Decimal.ofBinary negative significand exponent).reduced)
  | binary (.infinite negative) => some (.infinite negative)
  | decimal (.finite value) => some (.finite value.reduced)
  | decimal (.infinite negative) => some (.infinite negative)
  | _ => none

/-- The text of the given code points. -/
def ofPoints (points : List Nat) : Datum :=
  if points.any CodePoint.isHalf then brokenText points else text (points.map CodePoint.toChar)

/-- The text that a datum is, if it is one; halves of pairs in it are replaced. -/
def text? : Datum → Option Text
  | text value => some value
  | brokenText points => some (points.map CodePoint.toChar)
  | _ => none

/-- Whether two data are the same key. -/
def sameKey : Datum → Datum → Bool
  | absent, absent => true
  | text a, text b => a == b
  | brokenText a, brokenText b => a == b
  | bytes a, bytes b => a == b
  | locale a, locale b => a == b
  | localeObject a, localeObject b => a == b
  | a, b =>
    match a.magnitude?, b.magnitude? with
    | some x, some y => x == y
    | _, _ => false

/-- Whether a datum can be a key: sequences and mappings cannot, nor can a decimal number that
signals that it is no number. -/
def isKey : Datum → Bool
  | sequence _ => false
  | mapping _ => false
  | decimal (.notANumber _ signaling _) => !signaling
  | _ => true

/-- The mapping with the given entries; of several entries with one key the last value counts. -/
def mappingOf (entries : List (Datum × Datum)) : Except Failure Datum :=
  if entries.all (·.1.isKey) then .ok (mapping (Entries.ofList sameKey entries))
  else .error .wrongKind

/-- The value under a text in a mapping's entries. -/
def get? (entries : List (Datum × Datum)) (key : Text) : Option Datum :=
  Entries.get? sameKey entries (text key)

/-- The name of a datum's kind. -/
def kind : Datum → Text
  | absent => "NoneType"
  | truth _ => "bool"
  | integer _ => "int"
  | binary _ => "float"
  | decimal _ => "Decimal"
  | text _ => "str"
  | brokenText _ => "str"
  | bytes _ => "bytes"
  | sequence _ => "list"
  | mapping _ => "dict"
  | locale _ => "LocaleId"
  | localeObject _ => "Locale"

end Datum

end Numerus
