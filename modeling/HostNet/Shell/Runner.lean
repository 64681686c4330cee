/-
**A runner of programs.**

The programs that every host has: the shell and some small tools. A program is found by its name,
or by its path in one of the directories for programs. Its outputs are read as UTF-8 and trimmed.

* `Shell.respond`: what the runner does with a command;
* `locate`: the program of a name, or why it cannot be started.
-/

import HostNet.Host.Running
import HostNet.Shell.Evaluation

namespace HostNet.Shell

open HostNet.Text

/-- The number of octets that one argument may have. -/
def argumentLimit : Nat := 131071

/-- The names of the tools that are programs of their own. -/
def programs : List String :=
  ["sh", "dash", "true", "false", "echo", "printf", "test", "[", "cat", "head", "tail", "wc", "seq",
    "sleep", "tr", "yes"]

/-- The program of a name, or why it cannot be started. -/
def locate (name : String) : Except Refusal String :=
  let names := split '/' name.toList
  let last := String.ofList (names.getLast?.getD [])
  let directory := names.dropLast
  if name.isEmpty then .error .notFound
  else if directory.isEmpty then
    if name = "." || name = ".." then .error .denied
    else if FileTree.longestName < name.utf8ByteSize then .error .nameTooLong
    else if programs.contains name then .ok name
    else .error .notFound
  else if knownDirectories.contains name.toList || knownFiles.contains name.toList then
    .error .denied
  else if directory = [[], "bin".toList] || directory = [[], "usr".toList, "bin".toList] then
    if programs.contains last then .ok last else .error .notFound
  else if names.any fun part => FileTree.longestName < (String.ofList part).utf8ByteSize then
    .error .nameTooLong
  else .error .notFound

/-- A text as a program prints it: read as UTF-8, without blanks at its ends. -/
def printed (octets : Octets) : String := trim (Utf8.lossy octets.toNumbers)

/-- How a shell ended. -/
def ofState (state : State) : Response :=
  let exitCode : Int := if state.ending = some .killed then -1 else state.status
  { answer := some (.finished ⟨exitCode, printed state.output.reverse,
      printed state.complaint.reverse⟩)
    delay := state.clock }

/-- How a tool ended. -/
def ofToolResult (result : ToolResult) : Response :=
  { answer := some (.finished ⟨result.status, printed result.output, printed result.complaint⟩)
    delay := result.delay }

/-- Prints the arguments in a line, where escapes count only if an option says so. -/
def echoProgram : List Octets → ToolResult
  | ['-', 'e'] :: arguments => { output := echoText true arguments }
  | ['-', 'E'] :: arguments => { output := echoText false arguments }
  | arguments => { output := echoText false arguments }

/-- What a program does that is called by a name. -/
def perform (name program : String) (arguments : List Octets) : Response :=
  match program, arguments with
  | "yes", _ => { answer := none }
  | "echo", _ => ofToolResult (echoProgram arguments)
  | _, ['-', 'c'] :: script :: others =>
    if program = "sh" || program = "dash" then
      match runScript? (others.head?.getD (.ofText name)) (others.drop 1) script with
      | some state => ofState state
      | none => { answer := none }
    else ofToolResult ((tool? program arguments []).getD {})
  | _, _ => ofToolResult ((tool? program arguments []).getD {})

/-- What the runner does with a command. -/
def respond : Runner Unit := fun state command =>
  let words := command.program :: command.arguments
  let refused (cause : Refusal) : Response := { answer := some (.notStarted cause) }
  let response :=
    if words.any (·.toList.contains '\x00') then refused .nulOctet
    else if words.any (argumentLimit < ·.utf8ByteSize) then refused .argumentsTooLong
    else
      match locate command.program with
      | .ok program => perform command.program program (command.arguments.map .ofText)
      | .error cause => refused cause
  (response, state)

end HostNet.Shell
