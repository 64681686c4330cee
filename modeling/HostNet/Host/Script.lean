/-
**A scripted runner.**

A script answers commands by rules. A rule is for the commands whose line begins in a certain way
and gives its answers one after the other, the last one again and again. Of several rules the one
with the longest beginning counts; without a rule a command succeeds and writes nothing.

* `Script.add_openings`: a beginning has one rule, however often it is given;
* `Script.respond`: what the script does with a command.
-/

import HostNet.Host.Running

namespace HostNet

open HostNet.Text

/-- A rule for the commands whose line begins with `opening`. -/
structure ScriptRule where
  opening : String
  /-- The answer to the next of these commands; none if it hangs. -/
  next : Option Answer
  /-- The answers after that. -/
  later : List (Option Answer) := []
  deriving Repr, DecidableEq, Inhabited

/-- A rule after an answer: the last one stays. -/
def ScriptRule.advance (rule : ScriptRule) : ScriptRule :=
  match rule.later with
  | [] => rule
  | next :: later => { rule with next := next, later := later }

/-- A script. -/
structure Script where
  rules : List ScriptRule := []
  /-- The time in nanoseconds that commands take, by the beginning of their lines. -/
  delays : List (String × Nat) := []
  /-- Cancellation is requested after this many further answers. -/
  cancelAfter : Option Nat := none
  deriving Repr, DecidableEq, Inhabited

/-- A command that the script refuses to start. -/
def Answer.scriptedRefusal : Answer := .notStarted (.because "scripted spawn failure")

/-- Of two texts the longer one, of texts of the same length the first. -/
def longerOf (first : String) : Option String → String
  | some second => if first.utf8ByteSize < second.utf8ByteSize then second else first
  | none => first

/-- The longest of the texts with which a line begins. -/
def longestOpening? (line : String) : List String → Option String
  | [] => none
  | opening :: openings =>
    let others := longestOpening? line openings
    if startsWith line.toList opening.toList then some (longerOf opening others) else others

namespace Script

/-- Adds an answer to the rule of a beginning. -/
def add (script : Script) (opening : String) (answer : Option Answer) : Script :=
  if script.rules.any (·.opening = opening) then
    { script with rules := script.rules.map fun rule =>
        if rule.opening = opening then { rule with later := rule.later ++ [answer] } else rule }
  else { script with rules := script.rules ++ [{ opening := opening, next := answer }] }

/-- Sets the time that the commands of a beginning take. -/
def setDelay (script : Script) (opening : String) (delay : Nat) : Script :=
  { script with delays := (opening, delay) :: script.delays.filter (·.1 ≠ opening) }

/-- The rule for a line. -/
def rule? (script : Script) (line : String) : Option ScriptRule :=
  (longestOpening? line (script.rules.map (·.opening))).bind fun opening =>
    script.rules.find? (·.opening = opening)

/-- The time that a line takes. -/
def delay (script : Script) (line : String) : Nat :=
  ((longestOpening? line (script.delays.map (·.1))).bind fun opening =>
    script.delays.lookup opening).getD 0

/-- The script after the rule of a beginning gave an answer. -/
def advance (script : Script) (opening : String) : Script :=
  { script with rules := script.rules.map fun rule =>
      if rule.opening = opening then rule.advance else rule }

/-- Counts an answer: whether cancellation follows it, and how many are left. -/
def countdown : Option Nat → Bool × Option Nat
  | some 1 => (true, none)
  | some (count + 2) => (false, some (count + 1))
  | other => (false, other)

/-- What the script does with a command. -/
def respond : Runner Script := fun script command =>
  let line := command.line
  let (answer, after) := match script.rule? line with
    | some rule => (rule.next, script.advance rule.opening)
    | none => (some (.finished {}), script)
  let (cancels, left) := countdown script.cancelAfter
  ({ answer := answer, delay := script.delay line, cancels := cancels },
    { after with cancelAfter := left })

/-- A beginning has one rule, however often it is given. -/
theorem add_openings (script : Script) (opening : String) (answer : Option Answer) :
    (script.add opening answer).rules.map (·.opening) =
      if opening ∈ script.rules.map (·.opening) then script.rules.map (·.opening)
      else script.rules.map (·.opening) ++ [opening] := by
  by_cases known : ∃ rule ∈ script.rules, rule.opening = opening
  · have listed : opening ∈ script.rules.map (·.opening) := by simpa using known
    have found : script.rules.any (·.opening = opening) = true := by simpa using known
    simp only [add, found, listed, if_true, List.map_map]
    congr 1
    funext rule
    simp only [Function.comp_apply]
    split <;> rfl
  · have unlisted : opening ∉ script.rules.map (·.opening) := by simpa using known
    have unknown : script.rules.any (·.opening = opening) = false := by simpa using known
    simp [add, unknown, unlisted]

end Script

end HostNet
