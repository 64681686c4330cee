/-
**The state of a shell.**

A shell has arguments, variables and a status; it reads an input and writes to outlets. What a
command writes is kept with the last octet first, so that writing is quick.

* `State.emit_output`: what is written to a outlet comes after what was written before;
* `fieldsOf`: the words that the pieces of a word become.
-/

import HostNet.Shell.Tool

namespace HostNet.Shell

/-- Where a command writes. -/
inductive Outlet where
  | output
  | complaint
  /-- To the command that reads from this one. -/
  | pipe
  | nowhere
  deriving Repr, DecidableEq, Inhabited

/-- Where the two outputs of a command go. -/
structure Outlets where
  output : Outlet := .output
  complaint : Outlet := .complaint
  deriving Repr, DecidableEq, Inhabited

/-- Why a shell does not go on with the next command. -/
inductive Ending where
  | left
  | killed
  /-- This many loops are ended. -/
  | broken (loops : Nat)
  /-- The outermost of this many loops goes on with its next round. -/
  | continued (loops : Nat)
  deriving Repr, DecidableEq, Inhabited

/-- The state of a shell. -/
structure State where
  /-- What the shell calls itself. -/
  name : Octets := "sh".toList
  arguments : List Octets := []
  bindings : List (Octets × Octets) := []
  status : Nat := 0
  /-- The status of the commands whose output a word stands for. -/
  innerStatus : Nat := 0
  input : Octets := []
  /-- What was written to the outlets, the last octet first. -/
  output : Octets := []
  complaint : Octets := []
  piped : Octets := []
  /-- The nanoseconds that have passed. -/
  clock : Nat := 0
  /-- The number by which the process of the shell is known. -/
  number : Nat := 4096
  ending : Option Ending := none
  deriving Inhabited

namespace State

/-- Writes to a outlet. -/
def emit (state : State) (outlet : Outlet) (text : Octets) : State :=
  match outlet with
  | .output => { state with output := text.reverse ++ state.output }
  | .complaint => { state with complaint := text.reverse ++ state.complaint }
  | .pipe => { state with piped := text.reverse ++ state.piped }
  | .nowhere => state

/-- What is written to a outlet comes after what was written before. -/
theorem emit_output (state : State) (text : Octets) :
    (state.emit .output text).output.reverse = state.output.reverse ++ text := by
  simp [emit]

/-- Sets a variable. -/
def assign (state : State) (name value : Octets) : State :=
  { state with bindings := (name, value) :: state.bindings.filter (·.1 ≠ name) }

/-- The value of a parameter, if it has one. -/
def value? (state : State) (name : Octets) : Option Octets :=
  match name with
  | ['@'] | ['*'] =>
    if state.arguments.isEmpty then none else some (joinArguments state.arguments)
  | ['#'] => some (decimal state.arguments.length)
  | ['?'] => some (decimal state.status)
  | ['$'] => some (decimal state.number)
  | ['!'] | ['-'] => none
  | ['0'] => some state.name
  | other =>
    match Text.readNat? 10 other with
    | some place => state.arguments[place - 1]?
    | none => state.bindings.lookup other

/-- The value of a parameter; without one it is empty. -/
def value (state : State) (name : Octets) : Octets := (state.value? name).getD []

/-- Goes on outside after commands that may not change anything but what was written. -/
def leave (outer inner : State) : State :=
  { inner with
    name := outer.name, arguments := outer.arguments, bindings := outer.bindings,
    number := outer.number,
    ending := if inner.ending = some .killed then some .killed else outer.ending }

/-- Complains about a command on a line. -/
def complain (state : State) (outlets : Outlets) (line : Nat) (message : Octets) (status : Nat) :
    State :=
  { state.emit outlets.complaint
      (state.name ++ ": ".toList ++ decimal line ++ ": ".toList ++ message ++ ['\n']) with
    status := status }

end State

/-! ### Words -/

/-- A part of a word once its value is known. -/
inductive Segment where
  /-- Octets that belong to one word. -/
  | fixed (text : Octets)
  /-- Octets that are cut into words at spaces. -/
  | loose (text : Octets)
  /-- The end of a word. -/
  | cut
  deriving Repr, DecidableEq, Inhabited

/-- The words read so far, the last one first, and the open one in reverse. -/
structure Fields where
  closed : List Octets := []
  unfinished : Option Octets := none
  deriving Inhabited

/-- Ends the open word. -/
def Fields.close (fields : Fields) : Fields :=
  match fields.unfinished with
  | some text => { closed := text.reverse :: fields.closed }
  | none => fields

/-- Adds octets to the open word, or opens one. -/
def Fields.extend (fields : Fields) (text : Octets) : Fields :=
  { fields with unfinished := some (text.reverse ++ fields.unfinished.getD []) }

/-- Adds a segment. -/
def Fields.add (fields : Fields) : Segment → Fields
  | .fixed text => fields.extend text
  | .cut => fields.close
  | .loose text => text.foldl (fun fields octet =>
      if octet = ' ' || octet = '\t' || octet = '\n' then fields.close
      else fields.extend [octet]) fields

/-- The words that segments become. -/
def fieldsOf (segments : List Segment) : List Octets :=
  ((segments.foldl Fields.add {}).close).closed.reverse

/-- The text that segments become where there is only one word. -/
def textOf (segments : List Segment) : Octets :=
  segments.flatMap fun segment =>
    match segment with
    | .fixed text => text
    | .loose text => text
    | .cut => [' ']

/-- The segments of a value in or outside of quotes. -/
def segment (inQuotes : Bool) (text : Octets) : Segment :=
  if inQuotes then .fixed text else .loose text

/-- The segments of all arguments, each one a word. -/
def argumentSegments (inQuotes : Bool) (arguments : List Octets) : List Segment :=
  match arguments with
  | [] => []
  | [argument] => [segment inQuotes argument]
  | argument :: arguments =>
    segment inQuotes argument :: .cut :: argumentSegments inQuotes arguments

example : fieldsOf [.fixed "a".toList, .loose " b c".toList, .fixed []] =
    ["a".toList, "b".toList, "c".toList] := by decide +kernel

end HostNet.Shell
