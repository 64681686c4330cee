/-
**YAML as a format of records.**

A record is a mapping, and a list is a sequence; a plain scalar without characters stands for an
empty one of either. Every scalar is a text. Numbers and truth values are plain scalars, or
literal blocks tagged as such. A word is a scalar, or the tag of a node that is left out or null.

* `wholeNumber?_leadingZero`: digits after a zero are no number;
* `decode`: reads a record from the only document of a text.
-/

import HostNet.Schema.Record
import HostNet.Text.Digit
import HostNet.Yaml.Node

namespace HostNet.Yaml

open HostNet.Text

/-! ### Scalars by their text -/

/-- Whether a text is a spelling of null. -/
def isNull (text : String) : Bool :=
  text = "null" || text = "Null" || text = "NULL" || text = "~"

/-- The truth value of a text. -/
def truth? (text : String) : Option Bool :=
  if text = "true" || text = "True" || text = "TRUE" then some true
  else if text = "false" || text = "False" || text = "FALSE" then some false
  else none

/-- A number after the mark of its radix. -/
def markedNumber? : List Char → Option Nat
  | '0' :: 'x' :: digits => readNat? 16 digits
  | '0' :: 'o' :: digits => readNat? 8 digits
  | '0' :: 'b' :: digits => readNat? 2 digits
  | _ => none

/-- A number in decimal digits without a zero in front. -/
def decimalNumber? : List Char → Option Nat
  | '0' :: _ :: _ => none
  | digits => readNat? 10 digits

/-- The natural number of a text; one plus sign may stand in front. -/
def wholeNumber? (text : List Char) : Option Nat :=
  let digits := match text with
    | '+' :: rest => rest
    | other => other
  markedNumber? digits <|> decimalNumber? digits

/-- Digits after a zero are no number. -/
theorem wholeNumber?_leadingZero (digit : Char) (digits : List Char)
    (decimal : digit.isDigit = true) : wholeNumber? ('0' :: digit :: digits) = none := by
  have noMark : digit ≠ 'x' ∧ digit ≠ 'o' ∧ digit ≠ 'b' := by
    refine ⟨?_, ?_, ?_⟩ <;> (rintro rfl; exact absurd decimal (by decide))
  have unmarked : markedNumber? ('0' :: digit :: digits) = none := by
    unfold markedNumber?
    split
    · rename_i equal
      simp only [List.cons.injEq] at equal
      exact absurd equal.2.1 noMark.1
    · rename_i equal
      simp only [List.cons.injEq] at equal
      exact absurd equal.2.1 noMark.2.1
    · rename_i equal
      simp only [List.cons.injEq] at equal
      exact absurd equal.2.1 noMark.2.2
    · rfl
  have unread : decimalNumber? ('0' :: digit :: digits) = none := rfl
  show (markedNumber? ('0' :: digit :: digits) <|> decimalNumber? ('0' :: digit :: digits)) = none
  rw [unmarked, unread]
  rfl

/-! ### Nodes -/

namespace Document

variable (document : Document)

/-- A node, or the node that an alias stands for. -/
def follow : Nat → Node → Option Node
  | 0, _ => none
  | fuel + 1, .alias number => (document.resolve? number).bind (follow fuel)
  | _ + 1, node => some node

/-- A node that is no alias. -/
def actual (node : Node) : Decoded Node :=
  match document.follow (document.anchored.length + 2) node with
  | some node => .ok node
  | none => .error .malformed

/-- A text. -/
def asText (node : Node) : Decoded String := do
  match ← document.actual node with
  | .scalar _ _ text => return text
  | _ => .error .malformed

/-- The text of a scalar that may hold a number or a truth value of the given tag. -/
def asValueText (tag : String) (node : Node) : Decoded String := do
  match ← document.actual node with
  | .scalar _ .plain text => return text
  | .scalar given .literal text => if given = some tag then return text else .error .malformed
  | _ => .error .malformed

/-- A truth value. -/
def asFlag (node : Node) : Decoded Bool := do
  match truth? (← document.asValueText "tag:yaml.org,2002:bool" node) with
  | some value => return value
  | none => .error .malformed

/-- A number of at most some bits. -/
def asNatural (bits : Nat) (node : Node) : Decoded Nat := do
  match wholeNumber? (← document.asValueText "tag:yaml.org,2002:int" node).toList with
  | some value => if value < Nat.pow 2 bits then return value else .error .malformed
  | none => .error .malformed

/-- A value other than null. A plain scalar with a tag of its own is never null. -/
def asOptional (node : Node) : Decoded (Option Node) := do
  match ← document.actual node with
  | .scalar none .plain text => return if text.isEmpty || isNull text then none else some node
  | .scalar (some tag) .plain text =>
    if tag ≠ "tag:yaml.org,2002:null" then return some node
    else if isNull text then return none
    else .error .malformed
  | _ => return some node

/-- The items of a sequence. -/
def asItems (node : Node) : Decoded (List Node) := do
  match ← document.actual node with
  | .sequence _ items => return items
  | .scalar _ .plain text => if text.isEmpty then return [] else .error .malformed
  | _ => .error .malformed

/-- The word that a tag of the document's own stands for. -/
def wordOfTag? (tag : Option String) : Option String :=
  match tag.map String.toList with
  | some ['!'] => some "!"
  | some ('!' :: word) => some (String.ofList word)
  | _ => none

/-- Whether a node beside a word is left out or null. -/
def checkWord : Node → Decoded Unit
  | .scalar _ .plain text =>
    if text.isEmpty || isNull text then .ok () else .error .malformed
  | _ => .error .malformed

/-- A word: the tag of a node, or a scalar without one. -/
def asWord (node : Node) : Decoded (String × Decoded Unit) := do
  let node ← document.actual node
  match node with
  | .scalar tag _ text =>
    match wordOfTag? tag with
    | some word => return (word, checkWord node)
    | none => return (text, .ok ())
  | .sequence tag _ | .mapping tag _ =>
    match wordOfTag? tag with
    | some word => return (word, checkWord node)
    | none => .error .malformed
  | .alias _ => .error .malformed

/-- The name of a member, which has to be a scalar. -/
def name? (node : Node) : Option String := (document.asText node).toOption

/-- The contents of a record. -/
def asContents (node : Node) : Decoded (Contents Node) := do
  match ← document.actual node with
  | .mapping _ members =>
    return .members (members.map fun (name, value) => (document.name? name, value))
  | .scalar _ .plain text => if text.isEmpty then return .members [] else .error .malformed
  | _ => .error .malformed

/-- The nodes of a document as a format of records. -/
def format : Format Node where
  text := document.asText
  flag := document.asFlag
  natural := document.asNatural
  optional := document.asOptional
  items := document.asItems
  word := document.asWord
  contents _ := document.asContents
  skip _ := .ok ()
  surplus _ := .ok ()

end Document

/-- Reads a record from the only document of a text. -/
def decode {α : Type} (record : Format Node → Record Node α) (text : String) : Decoded α :=
  match Document.ofText? text with
  | some document => (record document.format).read document.format document.root
  | none => .error .malformed

end HostNet.Yaml
