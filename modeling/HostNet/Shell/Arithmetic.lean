/-
**Numeric expressions of a shell.**

Expressions are those of C on whole numbers of 64 bits, without assignments. A name stands for the
number that its variable holds, or zero.

* `evaluate?`: the value of an expression;
* the examples at the end show how strongly operators bind.
-/

import HostNet.Text.Digit
import HostNet.Text.Pieces
import HostNet.Shell.Tree

namespace HostNet.Shell

open HostNet.Text

/-- A whole number of 64 bits with a sign, in place of one that may be too large. -/
def wrap (value : Int) : Int := Int.bmod value (Nat.pow 2 64)

/-- The number of a numeral: with a zero in front it is octal, with `0x` hexadecimal. -/
def numeral? : Octets → Option Int
  | '0' :: 'x' :: digits => (readNat? 16 digits).map Int.ofNat
  | '0' :: 'X' :: digits => (readNat? 16 digits).map Int.ofNat
  | '0' :: digit :: digits => (readNat? 8 (digit :: digits)).map Int.ofNat
  | digits => (readNat? 10 digits).map Int.ofNat

/-- The number of a text with an optional sign. -/
def signedNumber? : Octets → Option Int
  | '-' :: digits => (numeral? digits).map (- ·)
  | '+' :: digits => numeral? digits
  | digits => numeral? digits

/-- One for what holds and zero for what does not. -/
def ofTruth (holds : Bool) : Int := if holds then 1 else 0

/-- Applies a function of words of 64 bits. -/
def onWords (change : BitVec 64 → BitVec 64 → BitVec 64) (first second : Int) : Int :=
  (change (BitVec.ofInt 64 first) (BitVec.ofInt 64 second)).toInt

/-- Applies an operator between two numbers; a division by zero has no value. -/
def operate? (operator : String) (first second : Int) : Option Int :=
  match operator with
  | "||" => some (ofTruth (first ≠ 0 || second ≠ 0))
  | "&&" => some (ofTruth (first ≠ 0 && second ≠ 0))
  | "==" => some (ofTruth (first = second))
  | "!=" => some (ofTruth (first ≠ second))
  | "<=" => some (ofTruth (first ≤ second))
  | ">=" => some (ofTruth (second ≤ first))
  | "<" => some (ofTruth (first < second))
  | ">" => some (ofTruth (second < first))
  | "|" => some (onWords (· ||| ·) first second)
  | "^" => some (onWords (· ^^^ ·) first second)
  | "&" => some (onWords (· &&& ·) first second)
  | "<<" => some (onWords (fun word count => word <<< (count.toNat % 64)) first second)
  | ">>" => some (onWords (fun word count => word.sshiftRight (count.toNat % 64)) first second)
  | "+" => some (wrap (first + second))
  | "-" => some (wrap (first - second))
  | "*" => some (wrap (first * second))
  | "/" => if second = 0 then none else some (wrap (Int.tdiv first second))
  | "%" => if second = 0 then none else some (Int.tmod first second)
  | _ => none

/-- The operators by how strongly they bind, the weakest first. -/
def operatorLevels : List (List String) :=
  [["||"], ["&&"], ["|"], ["^"], ["&"], ["==", "!="], ["<=", ">=", "<", ">"], ["<<", ">>"],
    ["+", "-"], ["*", "/", "%"]]

/-- The operators of more than one character; a shorter one is not read where one of them stands. -/
def longOperators : List String := ["||", "&&", "==", "!=", "<=", ">=", "<<", ">>"]

/-- Leaves out spaces and line breaks. -/
def skipBlanks (characters : List Char) : List Char :=
  characters.dropWhile fun character => character = ' ' || character = '\t' || character = '\n'

/-- Reads one of some operators. -/
def readOperator (operators : List String) (characters : List Char) :
    Option (String × List Char) :=
  let stands (operator : String) : Bool := startsWith characters operator.toList
  let candidates := if longOperators.any stands then operators.filter longOperators.contains
    else operators
  (candidates.find? stands).map fun operator => (operator, characters.drop operator.length)

mutual

/-- Reads and evaluates operands of these operators and all that bind more strongly. -/
def readLevel (valueOf : Octets → Octets) : Nat → List (List String) → List Char →
    Option (Int × List Char)
  | 0, _, _ => none
  | fuel + 1, [], characters => readOperand valueOf fuel (skipBlanks characters)
  | fuel + 1, operators :: levels, characters => do
    let (first, rest) ← readLevel valueOf fuel levels characters
    readOperations valueOf fuel operators levels first rest

/-- Reads and evaluates the operations on a first operand, from left to right. -/
def readOperations (valueOf : Octets → Octets) : Nat → List String → List (List String) → Int →
    List Char → Option (Int × List Char)
  | 0, _, _, _, _ => none
  | fuel + 1, operators, levels, first, characters =>
    match readOperator operators (skipBlanks characters) with
    | some (operator, rest) => do
      let (second, others) ← readLevel valueOf fuel levels rest
      let value ← operate? operator first second
      readOperations valueOf fuel operators levels value others
    | none => some (first, skipBlanks characters)

/-- Reads and evaluates an operand. -/
def readOperand (valueOf : Octets → Octets) : Nat → List Char → Option (Int × List Char)
  | 0, _ => none
  | fuel + 1, characters =>
    match characters with
    | '-' :: rest => do
      let (value, others) ← readOperand valueOf fuel (skipBlanks rest)
      return (wrap (-value), others)
    | '+' :: rest => readOperand valueOf fuel (skipBlanks rest)
    | '!' :: rest => do
      let (value, others) ← readOperand valueOf fuel (skipBlanks rest)
      return (ofTruth (value = 0), others)
    | '~' :: rest => do
      let (value, others) ← readOperand valueOf fuel (skipBlanks rest)
      return (-value - 1, others)
    | '(' :: rest => do
      let (value, others) ← readLevel valueOf fuel operatorLevels rest
      match skipBlanks others with
      | ')' :: others => return (value, others)
      | _ => none
    | other => do
      let isWord (character : Char) : Bool := character.isAlphanum || character = '_'
      let word := other.takeWhile isWord
      let rest := other.dropWhile isWord
      if word.head?.any Char.isDigit then return (wrap (← numeral? word), rest)
      if word.isEmpty then none
      let value := valueOf word
      if value.isEmpty then return (0, rest) else return (wrap (← signedNumber? value), rest)

end

/-- The value of an expression. -/
def evaluate? (valueOf : Octets → Octets) (expression : Octets) : Option Int := do
  if (skipBlanks expression).isEmpty then return 0
  let (value, rest) ←
    readLevel valueOf (16 * expression.length + 16) operatorLevels expression
  if rest.isEmpty then return value else none

example : evaluate? (fun _ => ['7']) "1 + 2 * i".toList = some 15 := by decide +kernel
example : evaluate? (fun _ => []) "(1+2)*3 == 9 && 010 < 9".toList = some 1 := by decide +kernel
example : evaluate? (fun _ => []) "5 & 3 | 1 << 4 ^ ~0 & 2".toList = some 19 := by decide +kernel
example : evaluate? (fun _ => []) "1/0".toList = none := by decide +kernel

end HostNet.Shell
