/-
**Tags, anchors and directives of a YAML text.**

A tag names the kind of a node, an anchor names the node itself, and a directive stands before a
document. Each is read from a cursor at its first character.

* `readTag`: a tag as its handle and its suffix;
* `readAnchor`: the name of an anchor or an alias;
* `readDirective`: a version or a handle with the text it stands for.
-/

import HostNet.Text.Digit
import HostNet.Yaml.Cursor

namespace HostNet.Yaml

open HostNet.Text

/-! ### Anchors -/

/-- What may follow the name of an anchor without a blank. -/
def followsAnchor (rest : List Char) : Bool :=
  endsWord rest || rest.head?.any fun next => "?:,]\x7d%@`".toList.contains next

/-- Reads the name of an anchor or an alias. -/
def readAnchor (cursor : Cursor) : Option (String × Cursor) :=
  let cursor := cursor.skip 1
  let name := cursor.rest.takeWhile isWordCharacter
  let cursor := cursor.skip name.length
  if name.isEmpty || !followsAnchor cursor.rest then none
  else some (String.ofList name, cursor)

/-! ### Tags -/

/-- A tag: its handle, which stands for a text in front, and the rest. -/
structure Tag where
  handle : String
  suffix : String
  deriving Repr, DecidableEq, Inhabited

/-- A character of a tag; commas and square brackets only where the tag is closed by a mark. -/
def isTagCharacter (closed : Bool) (character : Char) : Bool :=
  isWordCharacter character || ";/?:@&=+$.!~*'()".toList.contains character ||
    (closed && ",[]".toList.contains character)

/-- Reads one octet written as a percent sign and two hexadecimal digits. -/
def readOctet : List Char → Option (Nat × List Char)
  | '%' :: high :: low :: rest => (readNat? 16 [high, low]).map fun octet => (octet, rest)
  | _ => none

/-- How many octets follow a first one. -/
def octetsAfter? (octet : Nat) : Option Nat :=
  if octet < 0x80 then some 0
  else if octet / 32 = 6 then some 1
  else if octet / 16 = 14 then some 2
  else if octet / 8 = 30 then some 3
  else none

/-- Reads the octets of a character after the first one. -/
def readOctets : Nat → Nat → List Char → Option (Nat × List Char)
  | 0, code, rest => some (code, rest)
  | count + 1, code, rest => do
    let (octet, rest) ← readOctet rest
    if octet / 64 = 2 then readOctets count (code * 64 + octet % 64) rest else none

/-- Reads a character written as its octets; answers also how many characters it takes up. -/
def readEncoded (characters : List Char) : Option (Char × Nat) := do
  let (octet, rest) ← readOctet characters
  let more ← octetsAfter? octet
  let bits := if more = 0 then octet else octet % Nat.pow 2 (6 - more)
  let (code, _) ← readOctets more bits rest
  return (Char.ofNat code, (more + 1) * 3)

/-- Reads the characters of a tag. -/
def readTagText (closed : Bool) : Nat → List Char → Cursor → Option (List Char × Cursor)
  | 0, text, cursor => some (text, cursor)
  | fuel + 1, text, cursor =>
    match cursor.rest with
    | [] => some (text, cursor)
    | character :: _ =>
      if character = '%' then
        match readEncoded cursor.rest with
        | some (value, count) => readTagText closed fuel (text ++ [value]) (cursor.skip count)
        | none => none
      else if isTagCharacter closed character then
        readTagText closed fuel (text ++ [character]) (cursor.skip 1)
      else some (text, cursor)

/-- Reads what may be a handle: an exclamation mark, a word, and perhaps another mark. -/
def readHandle (cursor : Cursor) : List Char × Cursor :=
  let cursor := cursor.skip 1
  let word := cursor.rest.takeWhile isWordCharacter
  let cursor := cursor.skip word.length
  if cursor.isAt '!' then ('!' :: (word ++ ['!']), cursor.skip 1) else ('!' :: word, cursor)

/-- Whether what was read is a handle and not the start of a tag without one. -/
def isHandle (text : List Char) : Bool := 2 ≤ text.length && text.getLast? = some '!'

/-- Reads a tag up to its end. A tag between angle marks has no handle, and a lone exclamation
mark is a tag of its own. -/
def readTagForm (cursor : Cursor) : Option (Tag × Cursor) :=
  let readFrom (closed : Bool) (text : List Char) (cursor : Cursor) :=
    readTagText closed (cursor.rest.length + 1) text cursor
  if (cursor.rest.drop 1).head? = some '<' then do
    let (text, cursor) ← readFrom true [] (cursor.skip 2)
    if text.isEmpty || !cursor.isAt '>' then none
    else return (⟨"", String.ofList text⟩, cursor.skip 1)
  else
    let (handle, cursor) := readHandle cursor
    if isHandle handle then do
      let (text, cursor) ← readFrom false [] cursor
      if text.isEmpty then none
      else return (⟨String.ofList handle, String.ofList text⟩, cursor)
    else do
      let (text, cursor) ← readFrom false (handle.drop 1) cursor
      if text.isEmpty then return (⟨"", "!"⟩, cursor)
      else return (⟨"!", String.ofList text⟩, cursor)

/-- Reads a tag, which a blank has to follow, or a comma inside brackets. -/
def readTag (inFlow : Bool) (cursor : Cursor) : Option (Tag × Cursor) := do
  let (tag, cursor) ← readTagForm cursor
  if endsWord cursor.rest || (inFlow && cursor.isAt ',') then return (tag, cursor) else none

/-! ### Directives -/

/-- A directive. -/
inductive Directive where
  | version (major minor : Nat)
  /-- The text that a handle stands for. -/
  | handle (name text : String)
  deriving Repr, DecidableEq, Inhabited

/-- Reads a number of at most nine digits. -/
def readShortNumber (cursor : Cursor) : Option (Nat × Cursor) :=
  let digits := cursor.rest.takeWhile Char.isDigit
  if digits.length ≤ 9 then
    (readNat? 10 digits).map fun value => (value, cursor.skip digits.length)
  else none

/-- Reads the numbers of a version. -/
def readVersion (cursor : Cursor) : Option (Directive × Cursor) := do
  let (major, cursor) ← readShortNumber (cursor.skipWhile isSpacing)
  if !cursor.isAt '.' then none
  else
    let (minor, cursor) ← readShortNumber (cursor.skip 1)
    return (.version major minor, cursor)

/-- Reads a handle and the text it stands for. -/
def readHandleText (cursor : Cursor) : Option (Directive × Cursor) :=
  let cursor := cursor.skipWhile isSpacing
  if !cursor.isAt '!' then none
  else
    let (handle, cursor) := readHandle cursor
    if !(isHandle handle || handle = ['!']) || !cursor.rest.head?.any isSpacing then none
    else do
      let cursor := cursor.skipWhile isSpacing
      let (text, cursor) ← readTagText true (cursor.rest.length + 1) [] cursor
      if text.isEmpty || !endsWord cursor.rest then none
      else return (.handle (String.ofList handle) (String.ofList text), cursor)

/-- Reads a directive and the rest of its line, where only a comment may follow. -/
def readDirective (cursor : Cursor) : Option (Directive × Cursor) := do
  let cursor := cursor.skip 1
  let name := cursor.rest.takeWhile isWordCharacter
  let cursor := cursor.skip name.length
  if !endsWord cursor.rest then none
  else
    let (directive, cursor) ←
      if name = "YAML".toList then readVersion cursor
      else if name = "TAG".toList then readHandleText cursor
      else none
    let cursor := (cursor.skipWhile isSpacing).skipComment
    if !endsLine cursor.rest then none
    else return (directive, cursor.skipBreak)

example : readTag false ⟨"!!str x".toList, 0, 0, 0⟩ =
    some (⟨"!!", "str"⟩, ⟨" x".toList, 5, 0, 5⟩) := by decide +kernel
example : readTag false ⟨"!802.3ad".toList, 0, 0, 0⟩ =
    some (⟨"!", "802.3ad"⟩, ⟨[], 8, 0, 8⟩) := by decide +kernel

end HostNet.Yaml
