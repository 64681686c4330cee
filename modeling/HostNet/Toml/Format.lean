/-
**TOML as a format of records.**

A record is a table, or an array of its fields' values, where further values do not count. There
is no null, so no value counts as left out.

* `contents_of_table`: the members of a table are those of the record, however the table came to
  be;
* `decode`: reads a record from a document.
-/

import HostNet.Schema.Record
import HostNet.Toml.Reader

namespace HostNet.Toml

open HostNet

/-- A text. -/
def asText : Value → Decoded String
  | .text characters => .ok characters
  | _ => .error .malformed

/-- A truth value. -/
def asFlag : Value → Decoded Bool
  | .flag value => .ok value
  | _ => .error .malformed

/-- A number of at most some bits. -/
def asNatural (bits : Nat) : Value → Decoded Nat
  | .integer amount =>
    if 0 ≤ amount && amount < Nat.pow 2 bits then .ok amount.toNat else .error .malformed
  | _ => .error .malformed

/-- The items of an array. -/
def asItems : Value → Decoded (List Value)
  | .array items => .ok items
  | .tables elements => .ok (elements.reverse.map (.table .headed))
  | _ => .error .malformed

/-- A word. -/
def asWord : Value → Decoded (String × Decoded Unit)
  | .text word => .ok (word, .ok ())
  | _ => .error .malformed

/-- The contents of a record. A date stands for a table without a member of a known name. -/
def asContents : Value → Decoded (Contents Value)
  | .table _ members => .ok (.members (members.map fun (name, value) => (some name, value)))
  | .moment => .ok (.members [])
  | value => (asItems value).map .places

/-- TOML as a format of records. -/
def format : Format Value where
  text := asText
  flag := asFlag
  natural := asNatural
  optional value := .ok (some value)
  items := asItems
  word := asWord
  contents _ := asContents
  skip _ := .ok ()
  surplus _ := .ok ()

/-- The members of a table are those of the record, however the table came to be. -/
theorem contents_of_table (first second : Origin) (members : Members) :
    asContents (.table first members) = asContents (.table second members) := rfl

/-- Reads a record from a document. -/
def decode {α : Type} (record : Record Value α) (document : String) : Decoded α :=
  match readDocument? document with
  | some members => record.read format (.table .headed members)
  | none => .error .malformed

end HostNet.Toml
