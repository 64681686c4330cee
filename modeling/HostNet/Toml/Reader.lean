/-
**Reading TOML.**

A document is lines: blank ones, comments, headers, and keys with values. Only inside brackets and
braces may a value go over several lines outside of a text.

* `readValue`: a value and what follows it;
* `readDocument?`: the members of a whole document.
-/

import HostNet.Toml.Quoted
import HostNet.Toml.Scalar

namespace HostNet.Toml

/-! ### Between the parts -/

/-- Leaves out spaces and tabs. -/
def skipSpacing (characters : List Char) : List Char := characters.dropWhile isSpacing

/-- Reads a comment after its sign, up to the end of the line. -/
def readComment : List Char → Option (List Char)
  | [] => some []
  | character :: rest =>
    if (readBreak (character :: rest)).isSome then some (character :: rest)
    else if isLineCharacter character then readComment rest
    else none

/-- Reads the rest of a line that may only hold a comment. -/
def readLineEnd (characters : List Char) : Option (List Char) := do
  let rest ← match skipSpacing characters with
    | '#' :: comment => readComment comment
    | other => some other
  if rest.isEmpty then return [] else readBreak rest

/-- Leaves out spaces, line breaks and comments. -/
def skipLines : Nat → List Char → Option (List Char)
  | 0, _ => none
  | fuel + 1, characters =>
    match skipSpacing characters with
    | '#' :: comment => do skipLines fuel (← readComment comment)
    | rest =>
      match readBreak rest with
      | some others => skipLines fuel others
      | none => some rest

/-- Leaves out spaces, line breaks and comments, however many there are. -/
def skipGap (characters : List Char) : Option (List Char) :=
  skipLines (characters.length + 1) characters

/-! ### Keys -/

/-- A character of a name without quotes. -/
def isNameCharacter (character : Char) : Bool :=
  character.isAlphanum || character = '_' || character = '-'

/-- Reads one name. -/
def readKeyName (characters : List Char) : Option (String × List Char) :=
  match characters with
  | '"' :: rest => (readName '"' rest).map fun (name, others) => (String.ofList name, others)
  | '\'' :: rest => (readName '\'' rest).map fun (name, others) => (String.ofList name, others)
  | other =>
    let name := other.takeWhile isNameCharacter
    if name.isEmpty then none else some (String.ofList name, other.dropWhile isNameCharacter)

/-- Reads a key: the names before the last dot, the last name and what follows spaces after it. -/
def readKey : Nat → List Char → Option (List String × String × List Char)
  | 0, _ => none
  | fuel + 1, characters => do
    let (name, rest) ← readKeyName (skipSpacing characters)
    match skipSpacing rest with
    | '.' :: others =>
      let (path, last, others) ← readKey fuel others
      return (name :: path, last, others)
    | others => return ([], name, others)

/-! ### Values -/

/-- A character of a value without quotes. -/
def isWordCharacter (character : Char) : Bool :=
  character.isAlphanum || character = '_' || character = '-' || character = '+' ||
    character = '.' || character = ':'

/-- Reads a value without quotes; one space may stand between a date and a time. -/
def readScalar (characters : List Char) : Option (Value × List Char) :=
  let word := characters.takeWhile isWordCharacter
  let rest := characters.dropWhile isWordCharacter
  match isDate word, rest with
  | true, ' ' :: first :: others =>
    if first.isDigit then
      let time := (first :: others).takeWhile isWordCharacter
      (scalar? (word ++ ' ' :: time)).map fun value =>
        (value, (first :: others).dropWhile isWordCharacter)
    else (scalar? word).map fun value => (value, rest)
  | _, _ => (scalar? word).map fun value => (value, rest)

/-- Reads a text in quotes as a value. -/
def readTextValue (quote : Char) (characters : List Char) : Option (Value × List Char) :=
  (readQuotedValue quote characters).map fun (text, rest) => (.text (String.ofList text), rest)

/-- How deeply values may be nested. -/
def depthLimit : Nat := 80

mutual

/-- Reads a value inside of `depth` others. -/
def readValue (depth : Nat) : Nat → List Char → Option (Value × List Char)
  | 0, _ => none
  | fuel + 1, characters =>
    match characters with
    | '"' :: rest => readTextValue '"' rest
    | '\'' :: rest => readTextValue '\'' rest
    | '[' :: rest => do
      if depthLimit ≤ depth then none
      let (items, others) ← readItems (depth + 1) fuel rest
      return (.array items, others)
    | '\x7b' :: rest => do
      if depthLimit ≤ depth then none
      let (members, others) ← readMembers (depth + 1) fuel [] rest
      return (.table .braced members, others)
    | other => readScalar other

/-- Reads the items of an array up to its end. -/
def readItems (depth : Nat) : Nat → List Char → Option (List Value × List Char)
  | 0, _ => none
  | fuel + 1, characters => do
    match ← skipGap characters with
    | ']' :: rest => return ([], rest)
    | start =>
      let (item, rest) ← readValue depth fuel start
      match ← skipGap rest with
      | ',' :: others =>
        let (items, others) ← readItems depth fuel others
        return (item :: items, others)
      | ']' :: others => return ([item], others)
      | _ => none

/-- Reads the members of a table in braces up to its end. -/
def readMembers (depth : Nat) : Nat → Members → List Char → Option (Members × List Char)
  | 0, _, _ => none
  | fuel + 1, members, characters => do
    match ← skipGap characters with
    | '\x7d' :: rest => return (members, rest)
    | start =>
      let (path, name, rest) ← readKey (start.length + 1) start
      match rest with
      | '=' :: rest =>
        let (value, rest) ← readValue depth fuel (skipSpacing rest)
        let members ← addHere? path name value .braced members
        match ← skipGap rest with
        | ',' :: others => readMembers depth fuel members others
        | '\x7d' :: others => return (members, others)
        | _ => none
      | _ => none

end

/-! ### Documents -/

/-- The members read so far and the header under which reading goes on. -/
structure Draft where
  root : Members := []
  header : List String := []
  deriving Inhabited

namespace Draft

/-- Reads a header after its first bracket. -/
def readHeader (draft : Draft) (characters : List Char) : Option (Draft × List Char) := do
  match characters with
  | '[' :: rest =>
    let (path, name, rest) ← readKey (rest.length + 1) rest
    match rest with
    | ']' :: ']' :: others =>
      return ({ root := ← openElement? path name draft.root, header := path ++ [name] }, others)
    | _ => none
  | rest =>
    let (path, name, rest) ← readKey (rest.length + 1) rest
    match rest with
    | ']' :: others =>
      return ({ root := ← openTable? path name draft.root, header := path ++ [name] }, others)
    | _ => none

/-- Reads a key with its value. -/
def readPair (draft : Draft) (characters : List Char) : Option (Draft × List Char) := do
  let (path, name, rest) ← readKey (characters.length + 1) characters
  match rest with
  | '=' :: rest =>
    let start := skipSpacing rest
    let (value, others) ← readValue 0 (start.length + 1) start
    return ({ draft with root := ← addUnder? draft.header path name value draft.root }, others)
  | _ => none

/-- Reads lines up to the end. -/
def readLines : Nat → Draft → List Char → Option Draft
  | 0, _, _ => none
  | fuel + 1, draft, characters => do
    match ← skipGap characters with
    | [] => return draft
    | '[' :: rest =>
      let (draft, rest) ← draft.readHeader rest
      readLines fuel draft (← readLineEnd rest)
    | start =>
      let (draft, rest) ← draft.readPair start
      readLines fuel draft (← readLineEnd rest)

end Draft

/-- A mark of the order of octets at the front does not count. -/
def skipOrderMark : List Char → List Char
  | '\uFEFF' :: rest => rest
  | characters => characters

/-- The members of a document. -/
def readDocument? (document : String) : Option Members :=
  let characters := skipOrderMark document.toList
  (Draft.readLines (characters.length + 1) {} characters).map (·.root)

/-- A comment ends before the break of its line. -/
theorem readComment_break (rest : List Char) :
    readComment ('\n' :: rest) = some ('\n' :: rest) := by
  simp [readComment, readBreak]

end HostNet.Toml
