/-
**Texts of TOML in quotes.**

A text stands in double quotes, with escapes, or in single quotes, as it is. Three quotes instead
of one let it go over several lines: a line break right after them does not count, and up to two
quotes may stand right before the last three.

* `readSingle` and `readSeveral`: a text on one line and on several lines, after its opening
  quotes;
* `readQuotedValue`: a text in any of the four ways.
-/

import HostNet.Text.Digit

namespace HostNet.Toml

open HostNet.Text

/-- A space or a tab. -/
def isSpacing (character : Char) : Bool := character = ' ' || character = '\t'

/-- A character that may stand on a line. -/
def isLineCharacter (character : Char) : Bool :=
  character = '\t' || (0x20 ≤ character.toNat && character.toNat ≠ 0x7f)

/-- Reads a line break: a line feed, with or without a carriage return before it. -/
def readBreak : List Char → Option (List Char)
  | '\n' :: rest => some rest
  | '\r' :: '\n' :: rest => some rest
  | _ => none

/-- Reads a character given by this many hexadecimal digits. -/
def readCode (digits : Nat) (characters : List Char) : Option (Char × List Char) := do
  let numeral := characters.take digits
  if numeral.length < digits then none
  let code ← readNat? 16 numeral
  if code.isValidChar then some (Char.ofNat code, characters.drop digits) else none

/-- Reads what follows the backslash of an escape. -/
def readEscape : List Char → Option (Char × List Char)
  | 'b' :: rest => some ('\x08', rest)
  | 't' :: rest => some ('\t', rest)
  | 'n' :: rest => some ('\n', rest)
  | 'f' :: rest => some ('\x0c', rest)
  | 'r' :: rest => some ('\r', rest)
  | 'e' :: rest => some ('\x1b', rest)
  | '"' :: rest => some ('"', rest)
  | '\\' :: rest => some ('\\', rest)
  | 'x' :: rest => readCode 2 rest
  | 'u' :: rest => readCode 4 rest
  | 'U' :: rest => readCode 8 rest
  | _ => none

/-- Leaves out spaces, tabs and line breaks. -/
def skipSpace : Nat → List Char → List Char
  | 0, characters => characters
  | fuel + 1, characters =>
    let rest := characters.dropWhile isSpacing
    match readBreak rest with
    | some others => skipSpace fuel others
    | none => rest

/-- Reads a backslash at the end of a line: the line break and the space after it do not count. -/
def readContinued (characters : List Char) : Option (List Char) :=
  (readBreak (characters.dropWhile isSpacing)).map fun rest => skipSpace (rest.length + 1) rest

/-- Reads a text on one line up to its closing quote; what was taken is in reverse. -/
def readSingle (quote : Char) : Nat → List Char → List Char → Option (List Char × List Char)
  | 0, _, _ => none
  | _ + 1, _, [] => none
  | fuel + 1, taken, character :: rest =>
    if character = quote then some (taken.reverse, rest)
    else if character = '\\' && quote = '"' then
      match readEscape rest with
      | some (value, others) => readSingle quote fuel (value :: taken) others
      | none => none
    else if isLineCharacter character then readSingle quote fuel (character :: taken) rest
    else none

/-- Reads a text on several lines up to its three closing quotes; what was taken is in reverse. -/
def readSeveral (quote : Char) : Nat → List Char → List Char → Option (List Char × List Char)
  | 0, _, _ => none
  | _ + 1, _, [] => none
  | fuel + 1, taken, character :: rest =>
    if character = quote then
      let further := (rest.takeWhile (· = quote)).length
      if 2 ≤ further then
        let kept := min 2 (further - 2)
        some ((List.replicate kept quote ++ taken).reverse, rest.drop (kept + 2))
      else readSeveral quote fuel (character :: taken) rest
    else if character = '\\' && quote = '"' then
      match readEscape rest with
      | some (value, others) => readSeveral quote fuel (value :: taken) others
      | none =>
        match readContinued rest with
        | some others => readSeveral quote fuel taken others
        | none => none
    else if character = '\r' then
      match rest with
      | '\n' :: others => readSeveral quote fuel ('\n' :: '\r' :: taken) others
      | _ => none
    else if character = '\n' || isLineCharacter character then
      readSeveral quote fuel (character :: taken) rest
    else none

/-- Reads a text on one line after its opening quote. -/
def readName (quote : Char) (characters : List Char) : Option (List Char × List Char) :=
  readSingle quote (characters.length + 1) [] characters

/-- Reads a text after the first of its opening quotes. -/
def readQuotedValue (quote : Char) (characters : List Char) : Option (List Char × List Char) :=
  match characters with
  | second :: third :: rest =>
    if second = quote && third = quote then
      let lines := (readBreak rest).getD rest
      readSeveral quote (lines.length + 1) [] lines
    else readName quote characters
  | other => readName quote other

/-- Nothing is lost of a text without escapes. -/
theorem readSingle_plain {quote : Char} {text : List Char} (taken rest : List Char) {fuel : Nat}
    (plain : ∀ character ∈ text, character ≠ quote ∧ character ≠ '\\' ∧
      isLineCharacter character = true) (enough : text.length < fuel) :
    readSingle quote fuel taken (text ++ quote :: rest) = some (taken.reverse ++ text, rest) := by
  induction text generalizing taken fuel with
  | nil =>
    cases fuel with
    | zero => cases enough
    | succ fuel => simp [readSingle]
  | cons character text ih =>
    cases fuel with
    | zero => cases enough
    | succ fuel =>
      obtain ⟨other, unescaped, shown⟩ := plain character (List.mem_cons_self ..)
      have next := ih (character :: taken) 
        (fun inner member => plain inner (List.mem_cons_of_mem _ member))
        (Nat.lt_of_succ_lt_succ enough)
      simp [readSingle, other, unescaped, shown, next]

end HostNet.Toml
