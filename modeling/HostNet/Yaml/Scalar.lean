/-
**Scalars of a YAML text.**

A scalar is written plainly, in quotes of two kinds, or as a block of indented lines. Whatever its
style, reading gives its characters: lines are folded, escapes are replaced and the indentation of a
block is left out.

* `readPlain`: a plain scalar goes on over lines that are indented deeper than its parent;
* `readQuoted`: a quoted scalar, with escapes if the quotes are double;
* `readBlock`: a block, folded or literal.
-/

import HostNet.Text.Digit
import HostNet.Yaml.Cursor

namespace HostNet.Yaml

open HostNet.Text

/-- How a scalar is written. -/
inductive Style where
  | plain
  | quoted
  | literal
  | folded
  deriving Repr, DecidableEq, Inhabited

/-! ### Plain scalars -/

/-- A bracket or comma, which ends a plain scalar inside brackets. -/
def isFlowMark (character : Char) : Bool := ",[]\x7b\x7d".toList.contains character

/-- Cuts off the front of a plain scalar up to the next blank. A colon before a blank ends it,
inside brackets a bracket or comma does too; there a colon before one of these is refused. -/
def cutPlainWord (inFlow : Bool) : List Char → Option (List Char × Bool)
  | [] => some ([], false)
  | character :: rest =>
    if isSpacing character || isBreak character then some ([], false)
    else if inFlow && character = ':' && rest.head?.any (fun next => isFlowMark next || next = '?')
    then none
    else if (character = ':' && endsWord rest) || (inFlow && isFlowMark character) then
      some ([], true)
    else (cutPlainWord inFlow rest).map fun (word, ended) => (character :: word, ended)

/-- Reads a plain scalar; answers its characters, whether a line end was passed behind it, and the
cursor. `gap` is what was passed before the next word. -/
def readPlainFrom (inFlow : Bool) (indent : Nat) : Nat → List Char → Gap → Cursor →
    Option (List Char × Bool × Cursor)
  | 0, text, gap, cursor => some (text, gap.broken, cursor)
  | fuel + 1, text, gap, cursor =>
    if cursor.isAtDocument || cursor.isAt '#' then some (text, gap.broken, cursor)
    else
      match cutPlainWord inFlow cursor.rest with
      | none => none
      | some (word, ended) =>
        let cursor := cursor.skip word.length
        let (text, gap) := if word.isEmpty then (text, gap) else (text ++ gap.text ++ word, {})
        if ended || !endsWord cursor.rest || cursor.rest.isEmpty then
          some (text, gap.broken, cursor)
        else
          match Gap.read indent (cursor.rest.length + 1) gap cursor with
          | none => none
          | some (gap, cursor) =>
            if !inFlow && cursor.column < indent then some (text, gap.broken, cursor)
            else readPlainFrom inFlow indent fuel text gap cursor

/-- Reads a plain scalar. -/
def readPlain (inFlow : Bool) (indent : Nat) (cursor : Cursor) :
    Option (List Char × Bool × Cursor) :=
  readPlainFrom inFlow indent (cursor.rest.length + 1) [] {} cursor

/-! ### Quoted scalars -/

/-- The character of an escape of one letter. -/
def escape? : Char → Option Char
  | '0' => some '\x00'
  | 'a' => some '\x07'
  | 'b' => some '\x08'
  | 't' => some '\t'
  | '\t' => some '\t'
  | 'n' => some '\n'
  | 'v' => some '\x0b'
  | 'f' => some '\x0c'
  | 'r' => some '\r'
  | 'e' => some '\x1b'
  | ' ' => some ' '
  | '"' => some '"'
  | '/' => some '/'
  | '\\' => some '\\'
  | 'N' => some '\u0085'
  | '_' => some '\u00a0'
  | 'L' => some '\u2028'
  | 'P' => some '\u2029'
  | _ => none

/-- How many digits an escape by number has. -/
def escapeDigits? : Char → Option Nat
  | 'x' => some 2
  | 'u' => some 4
  | 'U' => some 8
  | _ => none

/-- Reads an escape after its backslash; answers its character and how many it takes up. -/
def readEscape? : List Char → Option (Char × Nat)
  | [] => none
  | letter :: rest =>
    match escape? letter, escapeDigits? letter with
    | some character, _ => some (character, 1)
    | none, some count =>
      if (rest.take count).length < count then none
      else
        match readNat? 16 (rest.take count) with
        | some code => if code.isValidChar then some (Char.ofNat code, count + 1) else none
        | none => none
    | none, none => none

/-- Why the characters of a line inside quotes end. -/
inductive QuotedEnd where
  /-- A quote, a blank, a line end or the end of the text. -/
  | plain
  /-- A line end behind a backslash. -/
  | escapedBreak
  deriving Repr, DecidableEq

/-- Reads characters inside quotes up to the next blank, line end or closing quote. -/
def readQuotedWord (double : Bool) : Nat → List Char → Cursor →
    Option (List Char × QuotedEnd × Cursor)
  | 0, text, cursor => some (text, .plain, cursor)
  | fuel + 1, text, cursor =>
    match cursor.rest with
    | [] => some (text, .plain, cursor)
    | character :: rest =>
      if isSpacing character || isBreak character then some (text, .plain, cursor)
      else if !double && character = '\'' then
        if rest.head? = some '\'' then
          readQuotedWord double fuel (text ++ ['\'']) (cursor.skip 2)
        else some (text, .plain, cursor)
      else if double && character = '"' then some (text, .plain, cursor)
      else if double && character = '\\' then
        if rest.head?.any isBreak then
          some (text, .escapedBreak, (cursor.skip 1).skipBreak)
        else
          match readEscape? rest with
          | some (value, count) =>
            readQuotedWord double fuel (text ++ [value]) (cursor.skip (count + 1))
          | none => none
      else readQuotedWord double fuel (text ++ [character]) (cursor.skip 1)

/-- Reads a quoted scalar after its opening quote. -/
def readQuotedFrom (double : Bool) : Nat → List Char → Cursor → Option (List Char × Cursor)
  | 0, _, _ => none
  | fuel + 1, text, cursor =>
    if cursor.isAtDocument || cursor.rest.isEmpty then none
    else
      match readQuotedWord double (cursor.rest.length + 1) text cursor with
      | none => none
      | some (text, ending, cursor) =>
        if cursor.isAt (if double then '"' else '\'') then
          some (text, cursor.skip 1)
        else
          let opening : Gap := if ending = .escapedBreak then { broken := true } else {}
          match Gap.read 0 (cursor.rest.length + 1) opening cursor with
          | none => none
          | some (gap, cursor) => readQuotedFrom double fuel (text ++ gap.text) cursor

/-- Reads a quoted scalar. -/
def readQuoted (double : Bool) (cursor : Cursor) : Option (List Char × Cursor) :=
  readQuotedFrom double (cursor.rest.length + 1) [] (cursor.skip 1)

/-! ### Blocks -/

/-- What is done with the line ends behind a block. -/
inductive Chomping where
  | strip
  | clip
  | keep
  deriving Repr, DecidableEq

/-- The chomping of a mark. -/
def Chomping.ofMark? : Char → Option Chomping
  | '-' => some .strip
  | '+' => some .keep
  | _ => none

/-- Reads a chomping mark. -/
def readChomping (cursor : Cursor) : Option (Chomping × Cursor) :=
  match cursor.rest with
  | character :: _ => (Chomping.ofMark? character).map fun chomping => (chomping, cursor.skip 1)
  | [] => none

/-- Reads a depth of indentation from 1 to 9. -/
def readDepth (cursor : Cursor) : Option (Option Nat × Cursor) :=
  match cursor.rest with
  | character :: _ =>
    match radixDigit? 10 character with
    | some 0 => none
    | some depth => some (some depth, cursor.skip 1)
    | none => some (none, cursor)
  | [] => some (none, cursor)

/-- Reads the marks of a block, in either order. -/
def readBlockMarks (cursor : Cursor) : Option (Chomping × Option Nat × Cursor) :=
  match readChomping cursor with
  | some (chomping, cursor) => do
    let (depth, cursor) ← readDepth cursor
    return (chomping, depth, cursor)
  | none => do
    let (depth, cursor) ← readDepth cursor
    match depth, readChomping cursor with
    | some _, some (chomping, cursor) => return (chomping, depth, cursor)
    | _, _ => return (.clip, depth, cursor)

/-- Passes the indentation and the empty lines before a line of a block. The indentation is the
depth of the block, or any if that is not known yet; answers the line ends and the deepest column.
-/
def readBlockBreaks (depth : Option Nat) : Nat → List Char → Nat → Cursor →
    Option (List Char × Nat × Cursor)
  | 0, breaks, deepest, cursor => some (breaks, deepest, cursor)
  | fuel + 1, breaks, deepest, cursor =>
    let spaces := (cursor.rest.takeWhile (· = ' ')).length
    let taken := match depth with
      | some depth => min spaces (depth - cursor.column)
      | none => spaces
    let cursor := cursor.skip taken
    let deepest := max deepest cursor.column
    let shallow := match depth with
      | some depth => decide (cursor.column < depth)
      | none => true
    if shallow && cursor.isAt '\t' then none
    else if cursor.rest.head?.any isBreak then
      let (taken, cursor) := cursor.readBreak
      readBlockBreaks depth fuel (breaks ++ taken) deepest cursor
    else some (breaks, deepest, cursor)

/-- What has been read of a block. -/
structure Block where
  text : List Char := []
  /-- The end of the last line. -/
  lineEnd : List Char := []
  /-- The ends of the empty lines after it. -/
  emptyLines : List Char := []
  /-- Whether the last line started with a blank. -/
  indented : Bool := false
  deriving Repr

/-- The text of a block before a further line; the end of a line is folded between two lines that
do not start with blanks. -/
def Block.joined (folded : Bool) (block : Block) (indented : Bool) : List Char :=
  if folded && block.lineEnd = ['\n'] && !block.indented && !indented then
    block.text ++ (if block.emptyLines.isEmpty then [' '] else []) ++ block.emptyLines
  else block.text ++ block.lineEnd ++ block.emptyLines

/-- Reads the lines of a block at its depth. -/
def readBlockLines (folded : Bool) (depth : Nat) : Nat → Block → Cursor →
    Option (Block × Cursor)
  | 0, block, cursor => some (block, cursor)
  | fuel + 1, block, cursor =>
    if cursor.column = depth && !cursor.rest.isEmpty then
      let indented := cursor.rest.head?.any isSpacing
      let line := cursor.rest.takeWhile (!isBreak ·)
      let text := block.joined folded indented ++ line
      let (lineEnd, cursor) := (cursor.skip line.length).readBreak
      match readBlockBreaks (some depth) (cursor.rest.length + 1) [] 0 cursor with
      | none => none
      | some (emptyLines, _, cursor) =>
        readBlockLines folded depth fuel ⟨text, lineEnd, emptyLines, indented⟩ cursor
    else some (block, cursor)

/-- Reads a block, whose parent has the given indentation. -/
def readBlock (folded : Bool) (parent : Int) (cursor : Cursor) : Option (List Char × Cursor) := do
  let (chomping, increment, cursor) ← readBlockMarks (cursor.skip 1)
  let cursor := (cursor.skipWhile isSpacing).skipComment
  if !endsLine cursor.rest then none
  else
    let cursor := cursor.skipBreak
    let given := increment.map fun increment =>
      if 0 ≤ parent then parent.toNat + increment else increment
    let (emptyLines, deepest, cursor) ←
      readBlockBreaks given (cursor.rest.length + 1) [] 0 cursor
    let depth := given.getD (max (max deepest (parent + 1).toNat) 1)
    let (block, cursor) ←
      readBlockLines folded depth (cursor.rest.length + 1) { emptyLines := emptyLines } cursor
    match chomping with
    | .strip => return (block.text, cursor)
    | .clip => return (block.text ++ block.lineEnd, cursor)
    | .keep => return (block.text ++ block.lineEnd ++ block.emptyLines, cursor)

end HostNet.Yaml
