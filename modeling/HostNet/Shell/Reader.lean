/-
**Reading a shell script.**

A script is read into a tree. Quotes and backslashes take away the meaning of characters; a dollar
sign and a pair of backquotes begin a piece that stands for a value.

* `readScript?`: the tree of a whole script.
-/

import HostNet.Text.Pieces
import HostNet.Shell.Tree

namespace HostNet.Shell

open HostNet.Text

/-! ### Characters -/

/-- The backquote. -/
def backquote : Char := '\x60'

/-- A space or a tab. -/
def isSpacing (character : Char) : Bool := character = ' ' || character = '\t'

/-- A character that ends a word. -/
def endsWord (character : Char) : Bool :=
  isSpacing character || "\n;&|<>()".toList.contains character

/-- The start of a name. -/
def startsName (character : Char) : Bool := character.isAlpha || character = '_'

/-- A character of a name. -/
def isNameCharacter (character : Char) : Bool := character.isAlphanum || character = '_'

/-- Parameters whose name is no letter. -/
def isSpecial (character : Char) : Bool := "@*#?-$!0123456789".toList.contains character

/-- A character with a meaning outside of quotes. -/
def isMark (character : Char) : Bool :=
  character = '\'' || character = '"' || character = '\\' || character = '$' ||
    character = backquote

/-- A character that a backslash frees of its meaning in double quotes. -/
def isEscapable (character : Char) : Bool :=
  character = '$' || character = '"' || character = '\\' || character = backquote

/-- Leaves out spaces, and line breaks after a backslash. -/
def skipSpacing : List Char → List Char
  | '\\' :: '\n' :: rest => skipSpacing rest
  | ' ' :: rest => skipSpacing rest
  | '\t' :: rest => skipSpacing rest
  | '#' :: rest => rest.dropWhile (· ≠ '\n')
  | other => other

/-- Leaves out spaces, line breaks and comments. -/
def skipLines : Nat → List Char → List Char
  | 0, characters => characters
  | fuel + 1, characters =>
    match skipSpacing characters with
    | '\n' :: rest => skipLines fuel rest
    | rest => rest

/-- Leaves out all spaces, line breaks and comments. -/
def skipGap (characters : List Char) : List Char := skipLines (characters.length + 1) characters

/-- What follows a word of the grammar, if it stands at the front. -/
def afterWord? (word : String) (characters : List Char) : Option (List Char) :=
  if startsWith characters word.toList then
    let rest := characters.drop word.length
    if rest.head?.all endsWord then some rest else none
  else none

/-- Whether a list of commands ends here. -/
def isListEnd (ends : List String) (characters : List Char) : Bool :=
  characters.isEmpty || characters.head? = some ')' ||
    ends.any fun word => (afterWord? word characters).isSome

/-- Reads up to the closing backquote; a backslash frees the backquote, the dollar sign and
itself. -/
def readBackquoted : List Char → List Char → Option (List Char × List Char)
  | _, [] => none
  | taken, '\\' :: character :: rest =>
    if character = backquote || character = '$' || character = '\\' then
      readBackquoted (character :: taken) rest
    else readBackquoted (character :: '\\' :: taken) rest
  | taken, character :: rest =>
    if character = backquote then some (taken.reverse, rest)
    else readBackquoted (character :: taken) rest

/-- The front of a redirection: the descriptor, the kind and what follows. -/
def readRedirectMark? (characters : List Char) : Option (Nat × RedirectKind × List Char) :=
  let digits := characters.takeWhile Char.isDigit
  let descriptor (default : Nat) : Nat :=
    if digits.isEmpty then default
    else digits.foldl (fun value digit => 10 * value + (digit.toNat - 48)) 0
  match characters.dropWhile Char.isDigit with
  | '>' :: '&' :: rest => some (descriptor 1, .copy, rest)
  | '<' :: '&' :: rest => some (descriptor 0, .copy, rest)
  | '>' :: '>' :: rest => some (descriptor 1, .output, rest)
  | '>' :: '|' :: rest => some (descriptor 1, .output, rest)
  | '>' :: rest => some (descriptor 1, .output, rest)
  | '<' :: '<' :: _ => none
  | '<' :: rest => some (descriptor 0, .input, rest)
  | _ => none

/-- The name and the start of the value of an assignment. -/
def assignment? : List Piece → Option (Octets × List Piece)
  | .plain text :: pieces =>
    match splitOnce? '=' text with
    | some (name, value) =>
      if name.head?.any startsName && name.all isNameCharacter then
        some (name, if value.isEmpty then pieces else .plain value :: pieces)
      else none
    | none => none
  | _ => none

/-! ### Words and commands -/

mutual

/-- Reads the pieces inside of double quotes and the closing quote. -/
def readQuoted (lines : Nat) : Nat → List Char → Option (List Piece × List Char)
  | 0, _ => none
  | fuel + 1, characters =>
    match characters with
    | [] => none
    | '"' :: rest => some ([], rest)
    | '\\' :: '\n' :: rest => readQuoted lines fuel rest
    | '\\' :: character :: rest => do
      let (pieces, others) ← readQuoted lines fuel rest
      let text := if isEscapable character then [character] else ['\\', character]
      return (.quoted text :: pieces, others)
    | first :: rest => do
      if first = '$' || first = backquote then
        let (piece, others) ← readValue lines true fuel (first :: rest)
        let (pieces, others) ← readQuoted lines fuel others
        return (piece :: pieces, others)
      let isText (character : Char) : Bool := !isEscapable character
      let (pieces, others) ← readQuoted lines fuel (rest.dropWhile isText)
      return (.quoted (first :: rest.takeWhile isText) :: pieces, others)

/-- Reads the pieces of a word up to a character that ends it. -/
def readWord (lines : Nat) (ends : Char → Bool) : Nat → List Char →
    Option (List Piece × List Char)
  | 0, _ => none
  | fuel + 1, characters =>
    match characters with
    | [] => some ([], [])
    | '\\' :: '\n' :: rest => readWord lines ends fuel rest
    | '\\' :: character :: rest => do
      let (pieces, others) ← readWord lines ends fuel rest
      return (.quoted [character] :: pieces, others)
    | '\'' :: rest => do
      let text := rest.takeWhile (· ≠ '\'')
      let others ← (rest.dropWhile (· ≠ '\'')).tail?
      let (pieces, others) ← readWord lines ends fuel others
      return (.quoted text :: pieces, others)
    | '"' :: rest => do
      let (inner, others) ← readQuoted lines fuel rest
      let (pieces, others) ← readWord lines ends fuel others
      return ((if inner.isEmpty then [.quoted []] else inner) ++ pieces, others)
    | first :: rest => do
      if ends first then return ([], first :: rest)
      if first = '$' || first = backquote then
        let (piece, others) ← readValue lines false fuel (first :: rest)
        let (pieces, others) ← readWord lines ends fuel others
        return (piece :: pieces, others)
      let isText (character : Char) : Bool := !ends character && !isMark character
      let (pieces, others) ← readWord lines ends fuel (rest.dropWhile isText)
      return (.plain (first :: rest.takeWhile isText) :: pieces, others)

/-- Reads a piece that begins with a dollar sign or a backquote. -/
def readValue (lines : Nat) (inQuotes : Bool) : Nat → List Char → Option (Piece × List Char)
  | 0, _ => none
  | fuel + 1, characters =>
    match characters with
    | '$' :: '(' :: '(' :: rest => do
      let (expression, others) ← readExpression lines 0 fuel rest
      return (.number inQuotes expression, others)
    | '$' :: '(' :: rest => do
      let (trees, others) ← readList lines [] fuel rest
      match others with
      | ')' :: others => return (.output inQuotes (.sequence trees), others)
      | _ => none
    | '$' :: '\x7b' :: '#' :: first :: rest =>
      if first = '\x7d' then some (.parameter inQuotes ['#'], rest)
      else
        let name := (first :: rest).takeWhile (· ≠ '\x7d')
        ((first :: rest).dropWhile (· ≠ '\x7d')).tail?.map fun others => (.length name, others)
    | '$' :: '\x7b' :: first :: rest => do
      let name := if first.isDigit then first :: rest.takeWhile Char.isDigit
        else if isSpecial first then [first]
        else first :: rest.takeWhile isNameCharacter
      match (first :: rest).drop name.length with
      | '\x7d' :: others => return (.parameter inQuotes name, others)
      | mark :: others =>
        let emptyToo := mark = ':'
        let (kindMark, others) ← if emptyToo then others.head?.map (·, others.tail)
          else some (mark, others)
        let kind ← if kindMark = '-' then some Substitute.missing
          else if kindMark = '+' then some .present
          else if kindMark = '=' then some .assign
          else none
        let (word, others) ← readWord lines (· = '\x7d') fuel others
        return (.substitute inQuotes name kind emptyToo word, ← others.tail?)
      | [] => none
    | '$' :: first :: rest =>
      if startsName first then
        let name := first :: rest.takeWhile isNameCharacter
        some (.parameter inQuotes name, rest.dropWhile isNameCharacter)
      else if isSpecial first then some (.parameter inQuotes [first], rest)
      else some (.quoted ['$'], first :: rest)
    | '$' :: [] => some (.quoted ['$'], [])
    | _ :: rest => do
      let (script, others) ← readBackquoted [] rest
      let (trees, left) ← readList lines [] fuel script
      if left.isEmpty then return (.output inQuotes (.sequence trees), others) else none
    | [] => none

/-- Reads the pieces of a numeric expression inside of `depth` parentheses, and its end. -/
def readExpression (lines depth : Nat) : Nat → List Char → Option (List Piece × List Char)
  | 0, _ => none
  | fuel + 1, characters =>
    match characters with
    | [] => none
    | ')' :: rest =>
      match depth, rest with
      | 0, ')' :: others => some ([], others)
      | 0, _ => none
      | depth + 1, _ => do
        let (pieces, others) ← readExpression lines depth fuel rest
        return (.quoted [')'] :: pieces, others)
    | '(' :: rest => do
      let (pieces, others) ← readExpression lines (depth + 1) fuel rest
      return (.quoted ['('] :: pieces, others)
    | first :: rest => do
      if first = '$' || first = backquote then
        let (piece, others) ← readValue lines true fuel (first :: rest)
        let (pieces, others) ← readExpression lines depth fuel others
        return (piece :: pieces, others)
      let (pieces, others) ← readExpression lines depth fuel rest
      return (.quoted [first] :: pieces, others)

/-- Reads commands one after the other up to the end of their list. -/
def readList (lines : Nat) (ends : List String) : Nat → List Char → Option (List Tree × List Char)
  | 0, _ => none
  | fuel + 1, characters => do
    let start := skipGap characters
    if isListEnd ends start then return ([], start)
    let (first, rest) ← readPipeline lines fuel start
    let (tree, rest) ← readChain lines first fuel rest
    match skipSpacing rest with
    | ';' :: others | '\n' :: others =>
      let (trees, others) ← readList lines ends fuel others
      return (tree :: trees, others)
    | '&' :: others =>
      let (trees, others) ← readList lines ends fuel others
      return (.enclosed tree :: trees, others)
    | others => if isListEnd ends others then return ([tree], others) else none

/-- Reads what depends on whether a command succeeds. -/
def readChain (lines : Nat) (tree : Tree) : Nat → List Char → Option (Tree × List Char)
  | 0, _ => none
  | fuel + 1, characters =>
    match skipSpacing characters with
    | '&' :: '&' :: rest => do
      let (second, others) ← readPipeline lines fuel (skipGap rest)
      readChain lines (.both tree second) fuel others
    | '|' :: '|' :: rest => do
      let (second, others) ← readPipeline lines fuel (skipGap rest)
      readChain lines (.either tree second) fuel others
    | rest => some (tree, rest)

/-- Reads commands joined by pipes. -/
def readPipeline (lines : Nat) : Nat → List Char → Option (Tree × List Char)
  | 0, _ => none
  | fuel + 1, characters =>
    match afterWord? "!" characters with
    | some rest => do
      let (tree, others) ← readPipeline lines fuel (skipSpacing rest)
      return (.negated tree, others)
    | none => do
      let (stages, rest) ← readStages lines fuel characters
      match stages with
      | [stage] => return (stage, rest)
      | _ => return (.pipeline stages, rest)

/-- Reads the commands of a pipeline. -/
def readStages (lines : Nat) : Nat → List Char → Option (List Tree × List Char)
  | 0, _ => none
  | fuel + 1, characters => do
    let (stage, rest) ← readStage lines fuel characters
    match skipSpacing rest with
    | '|' :: '|' :: _ => return ([stage], rest)
    | '|' :: others =>
      let (stages, others) ← readStages lines fuel (skipGap others)
      return (stage :: stages, others)
    | others => return ([stage], others)

/-- Reads one command with its redirections. -/
def readStage (lines : Nat) : Nat → List Char → Option (Tree × List Char)
  | 0, _ => none
  | fuel + 1, characters => do
    let compound ← readCompound lines fuel characters
    match compound with
    | some (tree, rest) =>
      let (redirections, others) ← readRedirections lines fuel rest
      return (if redirections.isEmpty then tree else .redirected tree redirections, others)
    | none =>
      let line := lines + 1 - characters.count '\n'
      readSimple line lines [] [] [] fuel characters

/-- Reads a command that is made of other commands; none inside if there is no such command. -/
def readCompound (lines : Nat) : Nat → List Char → Option (Option (Tree × List Char))
  | 0, _ => none
  | fuel + 1, characters => do
    if let some rest := afterWord? "if" characters then
      return some (← readChoice lines fuel rest)
    if let some rest := afterWord? "while" characters then
      return some (← readLoop lines true fuel rest)
    if let some rest := afterWord? "until" characters then
      return some (← readLoop lines false fuel rest)
    if let some rest := afterWord? "for" characters then
      return some (← readEach lines fuel (skipSpacing rest))
    if let some rest := afterWord? "\x7b" characters then
      let (trees, others) ← readList lines ["\x7d"] fuel rest
      return some (.sequence trees, ← afterWord? "\x7d" others)
    match characters with
    | '(' :: rest =>
      let (trees, others) ← readList lines [] fuel rest
      match others with
      | ')' :: others => return some (.enclosed (.sequence trees), others)
      | _ => none
    | _ => return none

/-- Reads a choice after its first word. -/
def readChoice (lines : Nat) : Nat → List Char → Option (Tree × List Char)
  | 0, _ => none
  | fuel + 1, characters => do
    let (condition, rest) ← readList lines ["then"] fuel characters
    let (body, rest) ← readList lines ["elif", "else", "fi"] fuel (← afterWord? "then" rest)
    if let some others := afterWord? "elif" rest then
      let (otherwise, others) ← readChoice lines fuel others
      return (.choice (.sequence condition) (.sequence body) otherwise, others)
    if let some others := afterWord? "else" rest then
      let (otherwise, others) ← readList lines ["fi"] fuel others
      return (.choice (.sequence condition) (.sequence body) (.sequence otherwise),
        ← afterWord? "fi" others)
    return (.choice (.sequence condition) (.sequence body) (.sequence []), ← afterWord? "fi" rest)

/-- Reads a loop after its first word. -/
def readLoop (lines : Nat) (whileTrue : Bool) : Nat → List Char → Option (Tree × List Char)
  | 0, _ => none
  | fuel + 1, characters => do
    let (condition, rest) ← readList lines ["do"] fuel characters
    let (body, rest) ← readList lines ["done"] fuel (← afterWord? "do" rest)
    return (.loop whileTrue (.sequence condition) (.sequence body), ← afterWord? "done" rest)

/-- Reads a loop over words from the name of its variable on. -/
def readEach (lines : Nat) : Nat → List Char → Option (Tree × List Char)
  | 0, _ => none
  | fuel + 1, characters => do
    let name := characters.takeWhile isNameCharacter
    let rest := skipGap (characters.dropWhile isNameCharacter)
    let (words, rest) ← match afterWord? "in" rest with
      | some others => do
        let (words, others) ← readWords lines fuel (skipSpacing others)
        pure (some words, others)
      | none => pure (none, rest)
    let rest := match skipSpacing rest with
      | ';' :: others => skipGap others
      | others => skipGap others
    let (body, rest) ← readList lines ["done"] fuel (← afterWord? "do" rest)
    return (.each name words (.sequence body), ← afterWord? "done" rest)

/-- Reads words up to the end of a line or a command. -/
def readWords (lines : Nat) : Nat → List Char → Option (List (List Piece) × List Char)
  | 0, _ => none
  | fuel + 1, characters =>
    match characters with
    | [] => some ([], [])
    | first :: rest =>
      if endsWord first then some ([], first :: rest)
      else do
        let (word, others) ← readWord lines endsWord fuel (first :: rest)
        let (words, others) ← readWords lines fuel (skipSpacing others)
        return (word :: words, others)

/-- Reads the redirections after a command. -/
def readRedirections (lines : Nat) : Nat → List Char →
    Option (List (Nat × RedirectKind × List Piece) × List Char)
  | 0, _ => none
  | fuel + 1, characters =>
    let start := skipSpacing characters
    match readRedirectMark? start with
    | some (descriptor, kind, rest) => do
      let (target, others) ← readWord lines endsWord fuel (skipSpacing rest)
      let (redirections, others) ← readRedirections lines fuel others
      return ((descriptor, kind, target) :: redirections, others)
    | none => some ([], start)

/-- Reads the rest of a simple command; what has been read is in reverse. -/
def readSimple (line lines : Nat) (assignments : List (Octets × List Piece))
    (words : List (List Piece)) (redirections : List (Nat × RedirectKind × List Piece)) :
    Nat → List Char → Option (Tree × List Char)
  | 0, _ => none
  | fuel + 1, characters =>
    let start := skipSpacing characters
    match readRedirectMark? start with
    | some (descriptor, kind, rest) => do
      let (target, others) ← readWord lines endsWord fuel (skipSpacing rest)
      readSimple line lines assignments words ((descriptor, kind, target) :: redirections) fuel
        others
    | none => do
      if start.head?.all endsWord then
        if assignments.isEmpty && words.isEmpty && redirections.isEmpty then none
        return (.simple line assignments.reverse words.reverse redirections.reverse, start)
      let (word, others) ← readWord lines endsWord fuel start
      match assignment? word with
      | some assignment =>
        if words.isEmpty then
          readSimple line lines (assignment :: assignments) words redirections fuel others
        else readSimple line lines assignments (word :: words) redirections fuel others
      | none => readSimple line lines assignments (word :: words) redirections fuel others

end

/-- The tree of a whole script. -/
def readScript? (script : Octets) : Option Tree := do
  let (trees, rest) ← readList (script.count '\n') [] (4 * script.length + 16) script
  if rest.isEmpty then return .sequence trees else none

end HostNet.Shell
