/-
**Values and tables of TOML.**

A table grows line by line: by the names of headers and by the dotted names of keys. How a table
came to be says what may still be added to it. A header goes through any table but one in braces;
the dots of a key go only through tables without a header of their own. No name is given twice.

* `addHere?_eq_some`: what is added under a single name was not there before;
* `enters_braced`: nothing is added to a table in braces.
-/

namespace HostNet.Toml

/-- How a table came to be. -/
inductive Origin where
  /-- On the way of a header to a table below. -/
  | passed
  /-- By the dots of a key. -/
  | dotted
  /-- By a header. -/
  | headed
  /-- As a value in braces. -/
  | braced
  deriving Repr, DecidableEq, Inhabited

/-- A value. -/
inductive Value where
  | text (characters : String)
  | flag (isTrue : Bool)
  | integer (amount : Int)
  /-- A number with a fraction or an exponent. -/
  | fraction
  /-- A date, a time or both. -/
  | moment
  | array (items : List Value)
  | table (origin : Origin) (members : List (String × Value))
  /-- Tables under headers of the same name, the last one first. -/
  | tables (elements : List (List (String × Value)))
  deriving Inhabited

/-- The members of a table. -/
abbrev Members := List (String × Value)

/-- Puts a value in the place of the one that a name has. -/
def replaceMember (name : String) (value : Value) (members : Members) : Members :=
  members.map fun member => if member.1 = name then (name, value) else member

/-- Whether a header or the dots of a key go through a table. -/
def enters (dots : Bool) : Origin → Bool
  | .passed => true
  | .dotted => true
  | .headed => !dots
  | .braced => false

/-- Nothing goes through a table in braces. -/
theorem enters_braced (dots : Bool) : enters dots .braced = false := rfl

/-- A change to a table. -/
abbrev Change := Origin → Members → Option Members

/-- Makes a change at the end of a path, with new tables where the path leads to nothing. -/
def changeAt? (dots : Bool) (change : Change) : List String → Change
  | [], origin, members => change origin members
  | name :: path, _, members =>
    match members.lookup name with
    | none => do
      let origin := if dots then Origin.dotted else .passed
      return members ++ [(name, .table origin (← changeAt? dots change path origin []))]
    | some (.table origin inner) =>
      if enters dots origin then do
        return replaceMember name (.table origin (← changeAt? dots change path origin inner))
          members
      else none
    | some (.tables (latest :: earlier)) => do
      return replaceMember name
        (.tables ((← changeAt? dots change path .headed latest) :: earlier)) members
    | some _ => none

/-- Adds a value under a name that is new. -/
def addMember? (name : String) (value : Value) (members : Members) : Option Members :=
  if (members.lookup name).isSome then none else some (members ++ [(name, value)])

/-- Adds a value under a dotted name; the names before the last have to lead to a table made by
dots. -/
def addHere? (path : List String) (name : String) (value : Value) : Change :=
  changeAt? true
    (fun origin members =>
      if path.isEmpty || origin = .dotted then addMember? name value members else none)
    path

/-- Adds a value under a dotted name to the table under a header. -/
def addUnder? (header path : List String) (name : String) (value : Value) (root : Members) :
    Option Members :=
  changeAt? false (addHere? path name value) header .headed root

/-- Opens a table under a header; a table that was only passed by headers becomes one of its own. -/
def openTable? (path : List String) (name : String) (root : Members) : Option Members :=
  changeAt? false
    (fun _ members =>
      match members.lookup name with
      | none => some (members ++ [(name, .table .headed [])])
      | some (.table .passed inner) => some (replaceMember name (.table .headed inner) members)
      | some _ => none)
    path .headed root

/-- Opens a further table under a header that stands for several. -/
def openElement? (path : List String) (name : String) (root : Members) : Option Members :=
  changeAt? false
    (fun _ members =>
      match members.lookup name with
      | none => some (members ++ [(name, .tables [[]])])
      | some (.tables elements) => some (replaceMember name (.tables ([] :: elements)) members)
      | some _ => none)
    path .headed root

/-- What is added under a single name was not there before. -/
theorem addHere?_eq_some {name : String} {value : Value} {origin : Origin}
    {members result : Members} (added : addHere? [] name value origin members = some result) :
    members.lookup name = none ∧ result = members ++ [(name, value)] := by
  simp only [addHere?, changeAt?, List.isEmpty_nil, Bool.true_or, if_true, addMember?] at added
  split at added
  · cases added
  · rename_i absent
    cases added
    exact ⟨Option.not_isSome_iff_eq_none.mp absent, rfl⟩

end HostNet.Toml
