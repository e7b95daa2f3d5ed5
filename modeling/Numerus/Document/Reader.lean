import Numerus.Document.Basic
import Numerus.Json.Reader

/-!
Documents read from the bytes of a file: UTF-8, and JSON in it.
-/

namespace Numerus.Document

/-- Reads a JSON text and decodes it. A text that holds something else than an object has no
sections. -/
def ofText (t : Text) : Except Failure Document := do
  match ← Json.read t with
  | .mapping entries => decodeMapping entries
  | _ => refuse root

/-- Reads the bytes of a file and decodes them. -/
def ofBytes (bytes : ByteArray) : Except Failure Document :=
  match String.fromUTF8? bytes with
  | some s => ofText s.toList
  | none => .error .notUtf8

/-- Reads a file, if there is one, and decodes it. -/
def ofFile : Option ByteArray → Except Failure Document
  | some bytes => ofBytes bytes
  | none => .error .noFile

end Numerus.Document
