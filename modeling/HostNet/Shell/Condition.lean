/-
**Conditions of a shell.**

A condition compares texts or numbers or asks for a file, and may be put together from others. Its
number of words decides how it is read, so that an operator may also be an operand.

* `holds?`: whether a condition holds; none if it is no condition.
-/

import HostNet.Shell.Arithmetic

namespace HostNet.Shell

/-- Directories that every host has. -/
def knownDirectories : List Octets :=
  ["/", ".", "..", "/bin", "/dev", "/etc", "/home", "/proc", "/root", "/tmp", "/usr", "/usr/bin",
    "/var"].map String.toList

/-- Files that every host has and that are no programs. -/
def knownFiles : List Octets := ["/dev/null", "/dev/zero", "/etc/passwd"].map String.toList

/-- Whether a condition on one operand holds. -/
def holdsOne? (operator : String) (operand : Octets) : Option Bool :=
  match operator with
  | "-n" => some (!operand.isEmpty)
  | "-z" => some operand.isEmpty
  | "-e" => some (knownDirectories.contains operand || knownFiles.contains operand)
  | "-d" => some (knownDirectories.contains operand)
  | "-r" => some (knownDirectories.contains operand || knownFiles.contains operand)
  | "-f" => some (operand = "/etc/passwd".toList)
  | "-s" | "-w" | "-x" | "-L" | "-h" | "-t" | "-c" | "-p" => some false
  | _ => none

/-- Whether a condition on two operands holds. -/
def holdsTwo? (operator : String) (first second : Octets) : Option Bool :=
  match operator with
  | "=" | "==" => some (first = second)
  | "!=" => some (first ≠ second)
  | "<" => some (first < second)
  | ">" => some (second < first)
  | _ => do
    let compare ← match operator with
      | "-eq" => some fun (first second : Int) => decide (first = second)
      | "-ne" => some fun first second => decide (first ≠ second)
      | "-lt" => some fun first second => decide (first < second)
      | "-le" => some fun first second => decide (first ≤ second)
      | "-gt" => some fun first second => decide (second < first)
      | "-ge" => some fun first second => decide (second ≤ first)
      | _ => none
    return compare (← signedNumber? first) (← signedNumber? second)

/-- Cuts words at the first one that is this operator. -/
def cutAt? (operator : String) : List Octets → Option (List Octets × List Octets)
  | [] => none
  | word :: words =>
    if word = operator.toList then some ([], words)
    else (cutAt? operator words).map fun (front, back) => (word :: front, back)

/-- Whether a condition of few words holds. -/
def holdsShort? : List Octets → Option Bool
  | [] => some false
  | [word] => some (!word.isEmpty)
  | [operator, operand] =>
    if operator = ['!'] then some operand.isEmpty else holdsOne? (String.ofList operator) operand
  | [first, operator, second] =>
    match holdsTwo? (String.ofList operator) first second with
    | some result => some result
    | none =>
      if first = ['!'] then (holdsOne? (String.ofList operator) second).map (!·) else none
  | ['!'] :: [first, operator, second] =>
    (holdsTwo? (String.ofList operator) first second).map (!·)
  | _ => none

/-- Whether a condition holds; parts are joined by `-o`, which binds less than `-a`. -/
def holds? : Nat → List Octets → Option Bool
  | 0, _ => none
  | fuel + 1, words =>
    match holdsShort? words with
    | some result => some result
    | none =>
      match cutAt? "-o" words with
      | some (front, back) => do return (← holds? fuel front) || (← holds? fuel back)
      | none =>
        match cutAt? "-a" words with
        | some (front, back) => do return (← holds? fuel front) && (← holds? fuel back)
        | none =>
          match words with
          | ['!'] :: rest => (holds? fuel rest).map (!·)
          | _ => none

example : holds? 9 (["1", "-lt", "2", "-a", "x", "=", "x"].map String.toList) = some true := by
  decide +kernel

end HostNet.Shell
