/-
**JSON as a format of records.**

A record is an object, or an array of its fields' values and nothing else. A word is a text, or an
object whose only member has the word as its name and null as its value.

* `Json.asOptional_eq_none`: null is the only value that counts as left out;
* `Json.decode`: reads a record from a document that holds nothing else.
-/

import HostNet.Json.Reader
import HostNet.Schema.Record

namespace HostNet.Json

open HostNet

/-- What a value is, if it could be read and holds only characters and finite numbers. -/
def found? : Json → Option Found
  | null => some .null
  | bool value => some (.boolean value)
  | number (.natural value) => some (.integer value)
  | number (.negative value) => some (.integer (-value))
  | number (.fraction negative magnitude) =>
    some (.fraction ((if negative then "-" else "") ++ magnitude.text))
  | number .overflow => none
  | text value => some (.text value)
  | brokenText => none
  | array _ => some .sequence
  | object _ => some .map
  | cut => none

/-- Refuses a value of the wrong kind. -/
def mismatch {α : Type} (value : Json) (expected : String) : Decoded α :=
  match value.found? with
  | some found => .error (.wrongKind found expected)
  | none => .error .malformed

/-- A text. -/
def asText : Json → Decoded String
  | text value => .ok value
  | other => other.mismatch "a string"

/-- A truth value. -/
def asFlag : Json → Decoded Bool
  | bool value => .ok value
  | other => other.mismatch "a boolean"

/-- A number of at most some bits. -/
def asNatural (bits : Nat) (value : Json) : Decoded Nat :=
  let expected := "u" ++ toString bits
  match value with
  | number (.natural amount) =>
    if amount < Nat.pow 2 bits then .ok amount else .error (.outOfRange (.integer amount) expected)
  | number (.negative amount) => .error (.outOfRange (.integer (-amount)) expected)
  | other => other.mismatch expected

/-- A value other than null. -/
def asOptional : Json → Decoded (Option Json)
  | null => .ok none
  | other => .ok (some other)

/-- The items of an array. -/
def asItems : Json → Decoded (List Json)
  | array items => .ok items
  | other => other.mismatch "a sequence"

/-- What stands beside the name of a word: null, and no further member. -/
def checkWord (value : Json) (others : List (Json × Json)) : Decoded Unit :=
  match value with
  | null => if others.isEmpty then .ok () else .error .malformed
  | other => other.mismatch "unit"

/-- A word. -/
def asWord : Json → Decoded (String × Decoded Unit)
  | text word => .ok (word, .ok ())
  | object ((text word, value) :: others) => .ok (word, checkWord value others)
  | object ((name, _) :: _) => name.mismatch "variant identifier"
  | _ => .error .malformed

/-- The name of a member. -/
def name? : Json → Option String
  | text name => some name
  | _ => none

/-- The contents of a record. -/
def asContents (title : String) : Json → Decoded (Contents Json)
  | object members => .ok (.members (members.map fun (name, value) => (name.name?, value)))
  | array items => .ok (.places items)
  | other => other.mismatch title

/-- A value of no interest has to be whole. -/
def skipWhole (value : Json) : Decoded Unit :=
  if value.isWhole then .ok () else .error .malformed

/-- JSON as a format of records. -/
def format : Format Json where
  text := asText
  flag := asFlag
  natural := asNatural
  optional := asOptional
  items := asItems
  word := asWord
  contents := asContents
  skip := skipWhole
  surplus values := if values.isEmpty then .ok () else .error .malformed

/-- Null is the only value that counts as left out. -/
theorem asOptional_eq_none (value : Json) : asOptional value = .ok none ↔ value = .null := by
  cases value <;> simp [asOptional]

/-- Reads a record from a document that holds nothing else. -/
def decode {α : Type} (record : Record Json α) (document : String) : Decoded α := do
  let (value, alone) := read document
  let result ← record.read format value
  if alone then return result else .error .malformed

end HostNet.Json
