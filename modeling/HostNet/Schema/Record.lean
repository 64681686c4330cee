/-
**Records by their fields.**

A record is described once, by its fields in order, and read from any format of documents. A format
says how its values are told apart (`Format`); a field says how its value changes a draft of the
record (`Field`).

A record is read from named members in any order, where members of unknown name are left out and a
repeated one is refused, or, in formats that allow it, from the fields' values in order.

* `Record.ofMembers_nil`: without members, a record is its blank unless a field is required;
* `Record.ofMembers_unknown`: a member of unknown name changes nothing.
-/

import HostNet.Schema.Failure

namespace HostNet

/-- The contents of a record in a document. -/
inductive Contents (V : Type) where
  /-- Named members; a member without a readable name has none. -/
  | members (list : List (Option String × V))
  /-- The values of the fields, in order. -/
  | places (list : List V)

/-- How the values of a format are told apart. -/
structure Format (V : Type) where
  /-- A text. -/
  text : V → Decoded String
  /-- A truth value. -/
  flag : V → Decoded Bool
  /-- A number of at most this many bits. -/
  natural : Nat → V → Decoded Nat
  /-- A value that may be left out. -/
  optional : V → Decoded (Option V)
  /-- The items of a list. -/
  items : V → Decoded (List V)
  /-- A word, and the check of what stands beside it. -/
  word : V → Decoded (String × Decoded Unit)
  /-- The contents of the record of this title. -/
  contents : String → V → Decoded (Contents V)
  /-- A value of no interest. -/
  skip : V → Decoded Unit
  /-- Values after those of all fields. -/
  surplus : List V → Decoded Unit

/-! ### Values -/

/-- Reads every item of a list, in order. -/
def readEach {V α : Type} (read : V → Decoded α) : List V → Decoded (List α)
  | [] => .ok []
  | value :: values => do
    let first ← read value
    let others ← readEach read values
    return first :: others

namespace Format

variable {V : Type} (format : Format V)

/-- A list of values read alike. -/
def list {α : Type} (read : V → Decoded α) (value : V) : Decoded (List α) := do
  readEach read (← format.items value)

/-- A value that may be left out. -/
def option {α : Type} (read : V → Decoded α) (value : V) : Decoded (Option α) := do
  match ← format.optional value with
  | some present => return some (← read present)
  | none => return none

/-- One of some values, each with a word of its own. -/
def choice {α : Type} (values : List α) (wordOf : α → String) (value : V) : Decoded α := do
  let (word, rest) ← format.word value
  match values.find? fun candidate => wordOf candidate = word with
  | some chosen =>
    rest
    return chosen
  | none => .error (.unknownWord word (values.map wordOf))

end Format

/-! ### Records -/

/-- A field of a record. -/
structure Field (V α : Type) where
  name : String
  required : Bool
  /-- Reads the value of the field into a draft. -/
  assign : V → α → Decoded α

/-- A field that has to be present. -/
def Field.needed {V α β : Type} (name : String) (read : V → Decoded β) (set : β → α → α) :
    Field V α where
  name := name
  required := true
  assign value draft := do return set (← read value) draft

/-- A field that may be missing. -/
def Field.defaulted {V α β : Type} (name : String) (read : V → Decoded β) (set : β → α → α) :
    Field V α where
  name := name
  required := false
  assign value draft := do return set (← read value) draft

/-- A record: its title, what it is without any field, and its fields. -/
structure Record (V α : Type) where
  title : String
  blank : α
  fields : List (Field V α)

namespace Record

variable {V α : Type}

/-- The field of a name. -/
def field? (record : Record V α) (name : String) : Option (Field V α) :=
  record.fields.find? (·.name = name)

/-- Reads members into a draft; `seen` holds the names of the fields that were read. -/
def ofMembers (format : Format V) (record : Record V α) (seen : List String) (draft : α) :
    List (Option String × V) → Decoded α
  | [] =>
    match record.fields.find? fun field => field.required && !seen.contains field.name with
    | some field => .error (.missingField field.name)
    | none => .ok draft
  | (none, _) :: _ => .error .malformed
  | (some name, value) :: members =>
    match record.field? name with
    | none => do
      format.skip value
      ofMembers format record seen draft members
    | some field => do
      if seen.contains name then throw (.duplicateField name)
      let draft ← field.assign value draft
      ofMembers format record (name :: seen) draft members

/-- Reads the values of the fields in order; `index` counts the fields before. -/
def ofPlaces (format : Format V) (record : Record V α) (index : Nat) (draft : α) :
    List (Field V α) → List V → Decoded α
  | [], values => do
    format.surplus values
    return draft
  | field :: fields, [] =>
    if field.required then .error (.shortSequence index record.title record.fields.length)
    else ofPlaces format record (index + 1) draft fields []
  | field :: fields, value :: values => do
    let draft ← field.assign value draft
    ofPlaces format record (index + 1) draft fields values

/-- Reads a record. -/
def read (format : Format V) (record : Record V α) (value : V) : Decoded α := do
  match ← format.contents record.title value with
  | .members members => ofMembers format record [] record.blank members
  | .places values => ofPlaces format record 0 record.blank record.fields values

/-- Without members, a record is its draft unless a field is required. -/
theorem ofMembers_nil (format : Format V) (record : Record V α) (seen : List String) (draft : α)
    (free : ∀ field ∈ record.fields, field.required = true → field.name ∈ seen) :
    record.ofMembers format seen draft [] = .ok draft := by
  unfold ofMembers
  have none : (record.fields.find? fun field => field.required && !seen.contains field.name) =
      none := by
    rw [List.find?_eq_none]
    intro field member
    simp only [Bool.and_eq_true, Bool.not_eq_true', not_and, Bool.not_eq_false]
    intro required
    simpa using free field member required
  rw [none]

/-- A member of unknown name changes nothing. -/
theorem ofMembers_unknown (format : Format V) (record : Record V α) (seen : List String)
    (draft : α) {name : String} {value : V} (members : List (Option String × V))
    (unknown : record.field? name = none) (skipped : format.skip value = .ok ()) :
    record.ofMembers format seen draft ((some name, value) :: members) =
      record.ofMembers format seen draft members := by
  rw [ofMembers, unknown]
  simp only [skipped]
  rfl

end Record

end HostNet
