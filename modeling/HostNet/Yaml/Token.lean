/-
**Tokens of a YAML text.**

Indentation and the colon after a key become tokens of their own, so that a document is read from
its tokens without looking at columns. A key is only known as one when its colon is reached, and
its token is put in front of it then.

* `Scan`: the state of reading, with the open blocks and the places where a key may have started;
* `Token.ofText?`: all tokens of a text, if it has no lexical fault.
-/

import HostNet.Yaml.Property
import HostNet.Yaml.Scalar

namespace HostNet.Yaml

/-- A token. -/
inductive Token where
  | directive (value : Directive)
  | documentStart
  | documentEnd
  | blockSequence
  | blockMapping
  | blockEnd
  /-- An opening square bracket. -/
  | flowSequence
  | flowSequenceEnd
  /-- An opening curly bracket. -/
  | flowMapping
  | flowMappingEnd
  | blockEntry
  | flowEntry
  | key
  | value
  | alias (name : String)
  | anchor (name : String)
  | tag (value : Tag)
  | scalar (style : Style) (text : String)
  deriving Repr, DecidableEq, Inhabited

/-- A place where a key may have started. -/
structure PossibleKey where
  /-- How many tokens lie before it. -/
  position : Nat
  index : Nat
  line : Nat
  column : Nat
  /-- Whether nothing but a key may stand here. -/
  required : Bool
  deriving Repr, DecidableEq

/-- The state of reading tokens. -/
structure Scan where
  cursor : Cursor
  /-- The tokens read so far, the last one first. -/
  tokens : List Token := []
  /-- The columns of the open blocks, the innermost first. -/
  indents : List Int := []
  /-- The possible key of each open bracket, the innermost first, and of the block around them. -/
  keys : List (Option PossibleKey) := [none]
  /-- Whether a key may start here. -/
  keyAllowed : Bool := true
  deriving Repr

namespace Scan

/-- The column of the innermost block. -/
def indent (scan : Scan) : Int := scan.indents.head?.getD (-1)

/-- Whether a bracket is open. -/
def inFlow (scan : Scan) : Bool := 2 ≤ scan.keys.length

/-- Adds a token. -/
def push (scan : Scan) (token : Token) : Scan := { scan with tokens := token :: scan.tokens }

/-- Puts tokens in front of those from a position on. -/
def insertAt (scan : Scan) (position : Nat) (inserted : List Token) : Scan :=
  let after := scan.tokens.length - position
  { scan with
    tokens := scan.tokens.take after ++ inserted.reverse ++ scan.tokens.drop after }

/-- Moves on. -/
def moveTo (scan : Scan) (cursor : Cursor) : Scan := { scan with cursor := cursor }

/-- Says whether a key may start next. -/
def allowKey (scan : Scan) (allowed : Bool) : Scan := { scan with keyAllowed := allowed }

/-! ### Blocks -/

/-- Closes the blocks that are deeper than a column. -/
def unroll (scan : Scan) (column : Int) : Scan :=
  if scan.inFlow then scan
  else
    let closed := scan.indents.takeWhile (column < ·)
    { scan with
      tokens := List.replicate closed.length .blockEnd ++ scan.tokens
      indents := scan.indents.drop closed.length }

/-- Whether a block opens at a column. -/
def opensAt (scan : Scan) (column : Nat) : Bool := !scan.inFlow && scan.indent < column

/-- Opens a block at the cursor, unless one is open there. -/
def roll (scan : Scan) (token : Token) : Scan :=
  let column := scan.cursor.column
  if scan.opensAt column then { scan.push token with indents := column :: scan.indents }
  else scan

/-! ### Keys -/

/-- Gives up the possible key of the innermost bracket; a required one is refused. -/
def dropKey (scan : Scan) : Option Scan :=
  match scan.keys with
  | some key :: others => if key.required then none else some { scan with keys := none :: others }
  | _ => some scan

/-- Notes the cursor as a possible start of a key. -/
def noteKey (scan : Scan) : Option Scan :=
  if scan.keyAllowed then do
    let cursor := scan.cursor
    let key : PossibleKey := {
      position := scan.tokens.length, index := cursor.index, line := cursor.line,
      column := cursor.column, required := !scan.inFlow && scan.indent = cursor.column }
    let scan ← scan.dropKey
    return { scan with keys := some key :: scan.keys.drop 1 }
  else some scan

/-- Whether a possible key has become too long: a key is one line and at most 1024 characters. -/
def isStale (cursor : Cursor) (key : PossibleKey) : Bool :=
  key.line < cursor.line || key.index + 1024 < cursor.index

/-- Gives up keys that have become too long; a required one is refused. -/
def dropStaleKeys (scan : Scan) : Option Scan :=
  let stale := scan.keys.filterMap fun key => key.filter (isStale scan.cursor)
  if stale.any (·.required) then none
  else
    some { scan with keys := scan.keys.map fun key => key.filter (!isStale scan.cursor ·) }

/-! ### Between tokens -/

/-- Passes blanks, comments, line ends, and byte order marks at the start of a line, which take up a
column. Tabs count as blanks inside brackets and where no key may start. -/
def skipToToken : Nat → Scan → Scan
  | 0, scan => scan
  | fuel + 1, scan =>
    let cursor := scan.cursor
    let cursor := if cursor.column = 0 && cursor.isAt '\uFEFF' then cursor.skip 1 else cursor
    let tabs := scan.inFlow || !scan.keyAllowed
    let cursor := cursor.skipWhile fun character => character = ' ' || (tabs && character = '\t')
    let cursor := cursor.skipComment
    if cursor.rest.head?.any isBreak then
      skipToToken fuel
        ((scan.moveTo cursor.skipBreak).allowKey (scan.keyAllowed || !scan.inFlow))
    else scan.moveTo cursor

/-! ### Tokens -/

/-- Passes characters and adds a token for them. -/
def take (scan : Scan) (count : Nat) (token : Token) : Scan :=
  (scan.moveTo (scan.cursor.skip count)).push token

/-- A directive. -/
def takeDirective (scan : Scan) : Option Scan := do
  let scan ← (scan.unroll (-1)).dropKey
  let (directive, cursor) ← readDirective scan.cursor
  return ((scan.moveTo cursor).push (.directive directive)).allowKey false

/-- The mark of a document. -/
def takeDocument (scan : Scan) (token : Token) : Option Scan := do
  let scan ← (scan.unroll (-1)).dropKey
  return (scan.take 3 token).allowKey false

/-- An opening bracket. -/
def takeOpening (scan : Scan) (token : Token) : Option Scan := do
  let scan ← scan.noteKey
  return ({ scan with keys := none :: scan.keys }.take 1 token).allowKey true

/-- A closing bracket. -/
def takeClosing (scan : Scan) (token : Token) : Option Scan := do
  let scan ← scan.dropKey
  let keys := if scan.inFlow then scan.keys.drop 1 else scan.keys
  return ({ scan with keys := keys }.take 1 token).allowKey false

/-- A comma. -/
def takeComma (scan : Scan) : Option Scan := do
  let scan ← scan.dropKey
  return (scan.take 1 .flowEntry).allowKey true

/-- The dash of an item. -/
def takeDash (scan : Scan) : Option Scan :=
  if !scan.inFlow && !scan.keyAllowed then none
  else do
    let scan ← (scan.roll .blockSequence).dropKey
    return (scan.take 1 .blockEntry).allowKey true

/-- The question mark of a key. -/
def takeQuestion (scan : Scan) : Option Scan :=
  if !scan.inFlow && !scan.keyAllowed then none
  else do
    let scan ← (scan.roll .blockMapping).dropKey
    return (scan.take 1 .key).allowKey (!scan.inFlow)

/-- The colon of a value. What stood at the place of the possible key becomes a key. -/
def takeColon (scan : Scan) : Option Scan :=
  match scan.keys with
  | some key :: others =>
    let opens := scan.opensAt key.column
    let tokens := if opens then [.blockMapping, .key] else [.key]
    let scan := scan.insertAt key.position tokens
    let indents := if opens then (key.column : Int) :: scan.indents else scan.indents
    some (({ scan with keys := none :: others, indents := indents }.take 1 .value).allowKey false)
  | _ =>
    if !scan.inFlow && !scan.keyAllowed then none
    else some (((scan.roll .blockMapping).take 1 .value).allowKey (!scan.inFlow))

/-- An alias or an anchor. -/
def takeAnchor (scan : Scan) (token : String → Token) : Option Scan := do
  let scan ← scan.noteKey
  let (name, cursor) ← readAnchor scan.cursor
  return ((scan.moveTo cursor).push (token name)).allowKey false

/-- A tag. -/
def takeTag (scan : Scan) : Option Scan := do
  let scan ← scan.noteKey
  let (tag, cursor) ← readTag scan.inFlow scan.cursor
  return ((scan.moveTo cursor).push (.tag tag)).allowKey false

/-- A block scalar. -/
def takeBlock (scan : Scan) (folded : Bool) : Option Scan := do
  let scan ← scan.dropKey
  let (text, cursor) ← readBlock folded scan.indent scan.cursor
  let style : Style := if folded then .folded else .literal
  return ((scan.moveTo cursor).push (.scalar style (String.ofList text))).allowKey true

/-- A quoted scalar. -/
def takeQuoted (scan : Scan) (double : Bool) : Option Scan := do
  let scan ← scan.noteKey
  let (text, cursor) ← readQuoted double scan.cursor
  return ((scan.moveTo cursor).push (.scalar .quoted (String.ofList text))).allowKey false

/-- A plain scalar. A line end behind it allows a key again. -/
def takePlain (scan : Scan) : Option Scan := do
  let scan ← scan.noteKey
  let (text, broken, cursor) ← readPlain scan.inFlow (scan.indent + 1).toNat scan.cursor
  return ((scan.moveTo cursor).push (.scalar .plain (String.ofList text))).allowKey broken

/-- Whether a plain scalar may start with a character before some others. -/
def startsPlain (inFlow : Bool) (first : Char) (rest : List Char) : Bool :=
  !(isSpacing first || isBreak first || "-?:,[]\x7b\x7d#&*!|>'\"%@`".toList.contains first) ||
    (first = '-' && !rest.head?.any isSpacing) ||
    (!inFlow && (first = '?' || first = ':') && !endsWord rest)

/-- Reads the token at the cursor, if the text goes on. -/
def takeToken (scan : Scan) : Option Scan :=
  let cursor := scan.cursor
  match cursor.rest with
  | [] => some scan
  | first :: rest =>
    if cursor.column = 0 && first = '%' then scan.takeDirective
    else if cursor.isAtMark '-' then scan.takeDocument .documentStart
    else if cursor.isAtMark '.' then scan.takeDocument .documentEnd
    else if first = '[' then scan.takeOpening .flowSequence
    else if first = '\x7b' then scan.takeOpening .flowMapping
    else if first = ']' then scan.takeClosing .flowSequenceEnd
    else if first = '\x7d' then scan.takeClosing .flowMappingEnd
    else if first = ',' then scan.takeComma
    else if first = '-' && endsWord rest then scan.takeDash
    else if first = '?' && (scan.inFlow || endsWord rest) then scan.takeQuestion
    else if first = ':' && (scan.inFlow || endsWord rest) then scan.takeColon
    else if first = '*' then scan.takeAnchor .alias
    else if first = '&' then scan.takeAnchor .anchor
    else if first = '!' then scan.takeTag
    else if first = '|' && !scan.inFlow then scan.takeBlock false
    else if first = '>' && !scan.inFlow then scan.takeBlock true
    else if first = '\'' then scan.takeQuoted false
    else if first = '"' then scan.takeQuoted true
    else if startsPlain scan.inFlow first rest then scan.takePlain
    else none

/-- Reads tokens to the end of the text. -/
def run : Nat → Scan → Option Scan
  | 0, _ => none
  | fuel + 1, scan => do
    let scan ← (skipToToken (scan.cursor.rest.length + 1) scan).dropStaleKeys
    if scan.cursor.rest.isEmpty then (scan.unroll (-1)).dropKey
    else
      let scan ← (scan.unroll scan.cursor.column).takeToken
      run fuel scan

end Scan

/-- All tokens of a text, if it has no lexical fault. -/
def Token.ofText? (text : String) : Option (List Token) :=
  let characters := text.toList
  if characters.all isAllowed then
    (Scan.run (characters.length + 1) { cursor := ⟨characters, 0, 0, 0⟩ }).map
      fun scan => scan.tokens.reverse
  else none

end HostNet.Yaml
