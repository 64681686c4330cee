/-
**JSON values as they are read.**

A document is read from its start, and whoever uses it may stop before the end. So a value is kept
as far as the text is well formed: where reading cannot go on stands `cut`, and nothing comes
after it. The members of an object keep their order and their repetitions.

* `Json.isWhole`: a value without a cut, which is all that a value that nobody uses has to be;
* `Json.isWhole_record`: an object is whole if the values of its members are.
-/

import HostNet.Json.Binary64

namespace HostNet

/-- A number as it is written: natural numbers and negative numbers within 64 bits keep their value,
and all others are rounded. -/
inductive JsonNumber where
  | natural (value : Nat)
  /-- Minus the given value. -/
  | negative (value : Nat)
  | fraction (negative : Bool) (magnitude : Binary64)
  /-- A number too large for a fraction. -/
  | overflow
  deriving Repr, DecidableEq, Inhabited

/-- A JSON value as far as it could be read. -/
inductive Json where
  | null
  | bool (value : Bool)
  | number (value : JsonNumber)
  | text (value : String)
  /-- A text with an escape for half a surrogate pair, which stands for no character. -/
  | brokenText
  | array (items : List Json)
  /-- Pairs of name and value. In a whole object the names are texts. -/
  | object (members : List (Json × Json))
  /-- The text is not well formed from here on. -/
  | cut
  deriving Repr, Inhabited

namespace Json

/-- An object from names and values. -/
def record (members : List (String × Json)) : Json :=
  .object (members.map fun (name, value) => (.text name, value))

/-- Whether a value is a text, broken or not. -/
def isAnyText : Json → Bool
  | text _ => true
  | brokenText => true
  | _ => false

mutual

/-- Whether a value was read to its end. -/
def isWhole : Json → Bool
  | cut => false
  | array items => areWhole items
  | object members => membersAreWhole members
  | null => true
  | bool _ => true
  | number _ => true
  | text _ => true
  | brokenText => true

/-- Whether all items of an array were read to their ends. -/
def areWhole : List Json → Bool
  | [] => true
  | item :: items => isWhole item && areWhole items

/-- Whether all members of an object have names and were read to their ends. -/
def membersAreWhole : List (Json × Json) → Bool
  | [] => true
  | (name, value) :: members => isAnyText name && isWhole value && membersAreWhole members

end

/-- An array is whole if its items are. -/
theorem areWhole_iff (items : List Json) :
    areWhole items = true ↔ ∀ item ∈ items, item.isWhole = true := by
  induction items with
  | nil => simp [areWhole]
  | cons item items ih => simp [areWhole, ih]

/-- An object is whole if the values of its members are. -/
theorem isWhole_record (members : List (String × Json)) :
    (record members).isWhole = true ↔ ∀ member ∈ members, member.2.isWhole = true := by
  unfold record
  rw [isWhole]
  induction members with
  | nil => simp [membersAreWhole]
  | cons member members ih => simp [membersAreWhole, isAnyText, ih]

end Json

end HostNet
