/-
**Commands and their lines.**

A command is a program with its arguments. Its line, in logs and messages, shows an argument as it
is unless a shell would read it as something else; then it stands in double quotes, with a
backslash before each character that has a meaning there.

* `Command.line_append`: a further argument only adds its own word to a line;
* `shellWord_eq_self`: an argument without special characters is shown as it is.
-/

import HostNet.Text.Blank

namespace HostNet

open HostNet.Text

/-- A character that a shell reads as something other than itself. -/
def needsQuotes (character : Char) : Bool :=
  isBlank character || "$`\"\\'*?[]\x7b\x7d|&;<>()".toList.contains character

/-- A character inside double quotes. -/
def quotedWordCharacter (character : Char) : List Char :=
  if "$`\"\\\n".toList.contains character then ['\\', character] else [character]

/-- A text as one word in double quotes. -/
def shellQuoted (text : String) : String :=
  String.ofList ('"' :: (text.toList.flatMap quotedWordCharacter ++ ['"']))

/-- A text as one word, in quotes where it has to be. -/
def shellWord (text : String) : String :=
  if text.isEmpty || text.toList.any needsQuotes then shellQuoted text else text

/-- An argument without special characters is shown as it is. -/
theorem shellWord_eq_self {text : String} (filled : text.isEmpty = false)
    (plain : text.toList.any needsQuotes = false) : shellWord text = text := by
  simp [shellWord, filled, plain]

/-- A program with its arguments. -/
structure Command where
  program : String
  arguments : List String
  deriving Repr, DecidableEq, Inhabited

namespace Command

/-- The words of arguments, each after a space. -/
def words : List String → String
  | [] => ""
  | argument :: arguments => " " ++ shellWord argument ++ words arguments

/-- A command in one line. -/
def line (command : Command) : String := command.program ++ words command.arguments

/-- The words of two lists of arguments follow each other. -/
theorem words_append (front back : List String) :
    words (front ++ back) = words front ++ words back := by
  induction front with
  | nil => simp [words]
  | cons argument arguments ih => simp [words, ih, String.append_assoc]

/-- A further argument only adds its own word to a line. -/
theorem line_append (program : String) (arguments : List String) (argument : String) :
    line ⟨program, arguments ++ [argument]⟩ =
      line ⟨program, arguments⟩ ++ " " ++ shellWord argument := by
  simp [line, words_append, words, String.append_assoc]

end Command

end HostNet
