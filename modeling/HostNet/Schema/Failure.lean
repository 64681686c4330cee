/-
**Why a document does not fit.**

A document that is well formed may still not describe what it should: a member is missing or
repeated, a word is unknown, or a value is of the wrong kind or out of range.

* `DecodeFailure.message`: the sentence for each of these;
* a document that is not well formed, or fails where no rule is named, is `malformed`.
-/

import HostNet.Text.Quoted
import HostNet.Text.Pieces

namespace HostNet

open HostNet.Text

/-- What stands in a document where something else was expected. -/
inductive Found where
  | boolean (value : Bool)
  | integer (value : Int)
  /-- A number with a fraction or an exponent, in its text. -/
  | fraction (numeral : String)
  | text (value : String)
  | null
  | sequence
  | map
  deriving Repr, DecidableEq, Inhabited

/-- A phrase for what stands in a document. -/
def Found.phrase : Found → String
  | .boolean value => "boolean `" ++ (if value then "true" else "false") ++ "`"
  | .integer value => "integer `" ++ toString value ++ "`"
  | .fraction numeral => "floating point `" ++ numeral ++ "`"
  | .text value => "string " ++ quoted value
  | .null => "null"
  | .sequence => "sequence"
  | .map => "map"

/-- Why a document does not fit. -/
inductive DecodeFailure where
  | missingField (name : String)
  | duplicateField (name : String)
  | unknownWord (word : String) (known : List String)
  | wrongKind (found : Found) (expected : String)
  | outOfRange (found : Found) (expected : String)
  /-- A sequence ends before the required fields of a record with this many fields. -/
  | shortSequence (length : Nat) (record : String) (fields : Nat)
  | malformed
  deriving Repr, DecidableEq, Inhabited

/-- The sentence for a failure. -/
def DecodeFailure.message : DecodeFailure → String
  | .missingField name => "missing field `" ++ name ++ "`"
  | .duplicateField name => "duplicate field `" ++ name ++ "`"
  | .unknownWord word known =>
    "unknown variant `" ++ word ++ "`, expected one of " ++
      joinWith ", " (known.map fun name => "`" ++ name ++ "`")
  | .wrongKind found expected => "invalid type: " ++ found.phrase ++ ", expected " ++ expected
  | .outOfRange found expected => "invalid value: " ++ found.phrase ++ ", expected " ++ expected
  | .shortSequence length record fields =>
    "invalid length " ++ toString length ++ ", expected " ++ record ++ " with " ++
      toString fields ++ " elements"
  | .malformed => "the document is malformed"

/-- A value read from a document, or why it could not be. -/
abbrev Decoded (α : Type) := Except DecodeFailure α

end HostNet
