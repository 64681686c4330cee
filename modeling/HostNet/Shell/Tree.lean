/-
**The parts of a shell script.**

A script is a tree of commands. A word is made of pieces, some of which stand for a value that is
only known when the script runs. Texts are octets, each written as the character of its number.

* `Piece`: a piece of a word;
* `Tree`: a command, from a simple one to a whole script.
-/

namespace HostNet.Shell

/-- A text of octets, each as the character of its number. -/
abbrev Octets := List Char

/-- The octets of a text in UTF-8. -/
def Octets.ofText (text : String) : Octets :=
  text.toUTF8.toList.map fun octet => Char.ofNat octet.toNat

/-- The octets as numbers. -/
def Octets.toNumbers (octets : Octets) : List UInt8 :=
  octets.map fun octet => UInt8.ofNat octet.toNat

/-- What a word does for a parameter. -/
inductive Substitute where
  /-- It stands for a parameter without a value. -/
  | missing
  /-- It stands for a parameter with a value. -/
  | present
  /-- It becomes the value of a parameter without one. -/
  | assign
  deriving Repr, DecidableEq, Inhabited

/-- What a redirection does with a descriptor. -/
inductive RedirectKind where
  | input
  | output
  /-- The descriptor becomes the same as another. -/
  | copy
  deriving Repr, DecidableEq, Inhabited

mutual

/-- A piece of a word. -/
inductive Piece where
  | plain (text : Octets)
  | quoted (text : Octets)
  | parameter (inQuotes : Bool) (name : Octets)
  /-- A parameter with a word to go with it, which may count an empty value as none. -/
  | substitute (inQuotes : Bool) (name : Octets) (kind : Substitute) (emptyToo : Bool)
      (word : List Piece)
  /-- The length of a parameter. -/
  | length (name : Octets)
  /-- The value of a numeric expression. -/
  | number (inQuotes : Bool) (expression : List Piece)
  /-- The output of commands. -/
  | output (inQuotes : Bool) (tree : Tree)

/-- A command. -/
inductive Tree where
  /-- A command on a line of the script: assignments, words and redirections of descriptors. -/
  | simple (line : Nat) (assignments : List (Octets × List Piece)) (words : List (List Piece))
      (redirections : List (Nat × RedirectKind × List Piece))
  | sequence (trees : List Tree)
  /-- Commands of which each one reads what the one before writes. -/
  | pipeline (stages : List Tree)
  | negated (tree : Tree)
  /-- The second one only if the first one succeeds. -/
  | both (first second : Tree)
  /-- The second one only if the first one fails. -/
  | either (first second : Tree)
  /-- Commands that leave the variables outside alone. -/
  | enclosed (tree : Tree)
  | redirected (tree : Tree) (redirections : List (Nat × RedirectKind × List Piece))
  | choice (condition body otherwise : Tree)
  /-- Repeats the body as long as the status of the condition says so. -/
  | loop (whileTrue : Bool) (condition body : Tree)
  /-- Repeats the body for each word; without words for each argument. -/
  | each (name : Octets) (words : Option (List (List Piece))) (body : Tree)

end

instance : Inhabited Tree := ⟨.sequence []⟩

end HostNet.Shell
