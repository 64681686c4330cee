/-
**A place in a YAML text.**

A cursor is what is left of a text, with the place it was reached at: how many characters, lines
and columns lie before. A line ends with a line feed, a carriage return, both, or one of three
separators of Unicode.

* `Cursor.skip_rest`: a step leaves the rest of the text;
* `Gap`: the blanks and line ends between two words, and what they become when lines are folded.
-/

namespace HostNet.Yaml

/-- A space or a tab. -/
def isSpacing (character : Char) : Bool := character = ' ' || character = '\t'

/-- A character that ends a line. -/
def isBreak (character : Char) : Bool :=
  character = '\n' || character = '\r' || character = '\u0085' || character = '\u2028' ||
    character = '\u2029'

/-- A letter, a digit, an underscore or a hyphen. -/
def isWordCharacter (character : Char) : Bool :=
  character.isAlphanum || character = '_' || character = '-'

/-- Whether a word cannot go on: the text ends, or a blank or line end follows. -/
def endsWord : List Char → Bool
  | [] => true
  | character :: _ => isSpacing character || isBreak character

/-- Whether a line cannot go on. -/
def endsLine : List Char → Bool
  | [] => true
  | character :: _ => isBreak character

/-- A character that a text may hold. -/
def isAllowed (character : Char) : Bool :=
  let code := character.toNat
  code = 0x09 || code = 0x0A || code = 0x0D || (0x20 ≤ code && code ≤ 0x7E) || code = 0x85 ||
    (0xA0 ≤ code && code ≤ 0xD7FF) || (0xE000 ≤ code && code ≤ 0xFFFD) || 0x10000 ≤ code

/-- What is left of a text, and the place it was reached at. -/
structure Cursor where
  rest : List Char
  index : Nat := 0
  line : Nat := 0
  column : Nat := 0
  deriving Repr, DecidableEq, Inhabited

namespace Cursor

/-- Passes characters of the same line. -/
def skip (cursor : Cursor) (count : Nat) : Cursor :=
  { cursor with
    rest := cursor.rest.drop count, index := cursor.index + count,
    column := cursor.column + count }

/-- A step leaves the rest of the text. -/
@[simp] theorem skip_rest (cursor : Cursor) (count : Nat) :
    (cursor.skip count).rest = cursor.rest.drop count := rfl

/-- Passes characters of the same line as long as they are of a kind. -/
def skipWhile (cursor : Cursor) (kind : Char → Bool) : Cursor :=
  cursor.skip (cursor.rest.takeWhile kind).length

/-- The next character. -/
def next? (cursor : Cursor) : Option Char := cursor.rest.head?

/-- Whether the next character is the given one. -/
def isAt (cursor : Cursor) (character : Char) : Bool := cursor.next? = some character

/-- Passes the end of a line, whose line feed may follow a carriage return. -/
def skipBreak (cursor : Cursor) : Cursor :=
  match cursor.rest with
  | '\r' :: '\n' :: rest => ⟨rest, cursor.index + 2, cursor.line + 1, 0⟩
  | _ :: rest => ⟨rest, cursor.index + 1, cursor.line + 1, 0⟩
  | [] => cursor

/-- What the end of a line is read as: the separators of lines and paragraphs as themselves, and all
others as a line feed. -/
def readBreak (cursor : Cursor) : List Char × Cursor :=
  match cursor.rest with
  | [] => ([], cursor)
  | character :: _ =>
    if !isBreak character then ([], cursor)
    else if character = '\u2028' || character = '\u2029' then ([character], cursor.skipBreak)
    else (['\n'], cursor.skipBreak)

/-- Whether the line starts with the mark of a document and nothing that continues it. -/
def isAtMark (cursor : Cursor) (mark : Char) : Bool :=
  cursor.column = 0 &&
    match cursor.rest with
    | first :: second :: third :: rest =>
      first = mark && second = mark && third = mark && endsWord rest
    | _ => false

/-- Whether a document starts or ends here. -/
def isAtDocument (cursor : Cursor) : Bool := cursor.isAtMark '-' || cursor.isAtMark '.'

/-- Passes a comment. -/
def skipComment (cursor : Cursor) : Cursor :=
  if cursor.isAt '#' then cursor.skipWhile (!isBreak ·) else cursor

end Cursor

/-! ### Folding -/

/-- Blanks and line ends between two words. -/
structure Gap where
  /-- The blanks before the first line end. -/
  blanks : List Char := []
  /-- Whether a line end was passed. -/
  broken : Bool := false
  /-- The first line end, unless it was escaped. -/
  first : List Char := []
  /-- The further line ends. -/
  later : List Char := []
  deriving Repr, DecidableEq

/-- What a gap becomes: a single line feed is folded into a space, and is dropped before others. -/
def Gap.text (gap : Gap) : List Char :=
  if !gap.broken then gap.blanks
  else if gap.first = ['\n'] then if gap.later.isEmpty then [' '] else gap.later
  else gap.first ++ gap.later

/-- Reads a gap. A tab before the column `indent` of a later line is refused. -/
def Gap.read (indent : Nat) : Nat → Gap → Cursor → Option (Gap × Cursor)
  | 0, gap, cursor => some (gap, cursor)
  | fuel + 1, gap, cursor =>
    match cursor.rest with
    | [] => some (gap, cursor)
    | character :: _ =>
      if isSpacing character then
        if gap.broken then
          if character = '\t' && cursor.column < indent then none
          else Gap.read indent fuel gap (cursor.skip 1)
        else
          Gap.read indent fuel { gap with blanks := gap.blanks ++ [character] } (cursor.skip 1)
      else if isBreak character then
        let (taken, after) := cursor.readBreak
        if gap.broken then Gap.read indent fuel { gap with later := gap.later ++ taken } after
        else Gap.read indent fuel ⟨[], true, taken, []⟩ after
      else some (gap, cursor)

/-- A gap within a line is kept as it is. -/
theorem Gap.text_of_unbroken (gap : Gap) (unbroken : gap.broken = false) :
    gap.text = gap.blanks := by
  simp [Gap.text, unbroken]

end HostNet.Yaml
