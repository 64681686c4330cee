/-
**Running a shell script.**

The tree of a script is run step by step on the state of a shell. A script that does not end
within a bound on the depth of its steps has no result.

* `runTree`: the state after a command;
* `runScript?`: the state after a whole script.
-/

import HostNet.Shell.Reader
import HostNet.Shell.State

namespace HostNet.Shell

open HostNet.Text

/-! ### Commands of the shell itself -/

/-- Signals that do not end a process. -/
def harmlessSignals : List String :=
  ["0", "CHLD", "17", "CONT", "18", "URG", "23", "WINCH", "28"]

/-- The signal that a command sends and the processes to which it goes. -/
def readSignal : List Octets → String × List Octets
  | ['-', 's'] :: name :: targets => (String.ofList name, targets)
  | ['-', '-'] :: targets => ("TERM", targets)
  | ('-' :: name) :: targets => (String.ofList name, targets)
  | targets => ("TERM", targets)

/-- Sends a signal. -/
def sendSignal (state : State) (outlets : Outlets) (line : Nat) (arguments : List Octets) : State :=
  let (signal, targets) := readSignal arguments
  if targets.contains (decimal state.number) || targets.contains ['0'] then
    if harmlessSignals.contains signal then { state with status := 0 }
    else { state with ending := some .killed }
  else state.complain outlets line "kill: No such process".toList 1

/-- Reads a line of the input into variables; the last one takes what is left. -/
def readInto (state : State) (names : List Octets) : State :=
  let line := state.input.takeWhile (· ≠ '\n')
  let rest := state.input.dropWhile (· ≠ '\n')
  let names := names.filter (·.head? ≠ some '-')
  let words := fieldsOf [.loose line]
  let assigned := (names.zipIdx).foldl (fun (draft : State) (name, place) =>
    let value := if place + 1 < names.length then (words[place]?).getD []
      else joinArguments (words.drop place)
    draft.assign name value) state
  { assigned with input := rest.drop 1, status := if rest.isEmpty then 1 else 0 }

/-- Sets the variables of words with an equals sign. -/
def assignWords (state : State) (words : List Octets) : State :=
  words.foldl (fun draft word =>
    match splitOnce? '=' word with
    | some (name, value) => draft.assign name value
    | none => draft) { state with status := 0 }

/-- The count of loops that a command names. -/
def loopCount (arguments : List Octets) : Nat :=
  max 1 ((arguments.head?.bind (readNat? 10)).getD 1)

/-- Leaves the shell with a status. -/
def leaveWith (state : State) (outlets : Outlets) (line : Nat) (arguments : List Octets) : State :=
  match arguments with
  | [] => { state with ending := some .left }
  | argument :: _ =>
    match readNat? 10 argument with
    | some status => { state with status := status % 256, ending := some .left }
    | none =>
      { state.complain outlets line ("exit: Illegal number: ".toList ++ argument) 2 with
        ending := some .left }

/-- What a command of the shell itself does; none if there is no such command. -/
def builtin? (state : State) (outlets : Outlets) (line : Nat) (name : String)
    (arguments : List Octets) : Option State :=
  match name with
  | "exit" | "return" => some (leaveWith state outlets line arguments)
  | "break" => some { state with ending := some (.broken (loopCount arguments)), status := 0 }
  | "continue" =>
    some { state with ending := some (.continued (loopCount arguments)), status := 0 }
  | "export" | "readonly" | "local" => some (assignWords state arguments)
  | "unset" =>
    some { state with
      bindings := state.bindings.filter (!arguments.contains ·.1), status := 0 }
  | "shift" =>
    let count := (arguments.head?.bind (readNat? 10)).getD 1
    some (if state.arguments.length < count then
        { state.complain outlets line "shift: can't shift that many".toList 2 with
          ending := some .left }
      else { state with arguments := state.arguments.drop count, status := 0 })
  | "set" =>
    some (match arguments with
      | ['-', '-'] :: words => { state with arguments := words, status := 0 }
      | _ => { state with status := 0 })
  | "read" => some (readInto state arguments)
  | "kill" => some (sendSignal state outlets line arguments)
  | "cd" =>
    let place := arguments.head?.getD ['/']
    some (if knownDirectories.contains place then
        { state.assign "PWD".toList place with status := 0 }
      else state.complain outlets line ("cd: can't cd to ".toList ++ place) 2)
  | "pwd" =>
    let place := state.value "PWD".toList
    some { state.emit outlets.output ((if place.isEmpty then ['/'] else place) ++ ['\n']) with
      status := 0 }
  | "wait" | "trap" | "umask" => some { state with status := 0 }
  | _ => none

/-- Programs that read their standard input to its end. -/
def readers : List String := ["cat", "head", "tail", "wc", "tr"]

/-- Runs a tool, or complains that there is none of this name. -/
def runTool (state : State) (outlets : Outlets) (line : Nat) (name : Octets)
    (arguments : List Octets) : State :=
  let word := String.ofList name
  match tool? word arguments state.input with
  | some result =>
    let written := (state.emit outlets.output result.output).emit outlets.complaint result.complaint
    { written with
      status := result.status, clock := state.clock + result.delay,
      input := if readers.contains word then [] else state.input }
  | none =>
    if knownDirectories.contains name && name.contains '/' then
      state.complain outlets line (name ++ ": Permission denied".toList) 126
    else state.complain outlets line (name ++ ": not found".toList) 127

/-- The number of lines that a command without an end writes before the one that reads them has had
enough. -/
def linesIntoPipe : Nat := 100000

/-- Repeats words in lines for ever, which ends only if another command reads them. -/
def repeatWords? (state : State) (outlets : Outlets) (words : List Octets) : Option State :=
  let line := (if words.isEmpty then ['y'] else joinArguments words) ++ ['\n']
  if outlets.output = .pipe then
    some { state.emit .pipe (List.replicate linesIntoPipe line).flatten with status := 0 }
  else none

/-- Applies a redirection whose target is known. -/
def redirect (state : State) (outlets : Outlets) (descriptor : Nat) (kind : RedirectKind)
    (target : Octets) : State × Outlets :=
  let outlet : Outlet := match kind with
    | .copy =>
      if target = ['1'] then outlets.output
      else if target = ['2'] then outlets.complaint
      else .nowhere
    | _ =>
      if target = "/dev/stdout".toList then outlets.output
      else if target = "/dev/stderr".toList then outlets.complaint
      else .nowhere
  match descriptor with
  | 0 => ({ state with input := [] }, outlets)
  | 1 => (state, { outlets with output := outlet })
  | 2 => (state, { outlets with complaint := outlet })
  | _ => (state, outlets)

/-- Drops line breaks from the end of an output. -/
def dropBreaks (text : Octets) : Octets := (text.reverse.dropWhile (· = '\n')).reverse

/-! ### Running trees -/

mutual

/-- The segments of the pieces of a word. -/
def expand (outlets : Outlets) : Nat → List Piece → State → Option (List Segment × State)
  | 0, _, _ => none
  | _ + 1, [], state => some ([], state)
  | fuel + 1, piece :: pieces, state => do
    let (first, state) ← expandPiece outlets fuel piece state
    let (others, state) ← expand outlets fuel pieces state
    return (first ++ others, state)

/-- The segments of a piece of a word. -/
def expandPiece (outlets : Outlets) : Nat → Piece → State → Option (List Segment × State)
  | 0, _, _ => none
  | fuel + 1, piece, state =>
    match piece with
    | .plain text => some ([.fixed text], state)
    | .quoted text => some ([.fixed text], state)
    | .parameter inQuotes name =>
      if name = ['@'] || (name = ['*'] && !inQuotes) then
        some (argumentSegments inQuotes state.arguments, state)
      else some ([segment inQuotes (state.value name)], state)
    | .length name => some ([.fixed (decimal (state.value name).length)], state)
    | .substitute inQuotes name kind emptyToo word => do
      let value := (state.value? name).filter fun value => !(emptyToo && value.isEmpty)
      match kind, value with
      | .missing, some value => return ([segment inQuotes value], state)
      | .assign, some value => return ([segment inQuotes value], state)
      | .present, none => return ([segment inQuotes []], state)
      | .assign, none =>
        let (segments, state) ← expand outlets fuel word state
        let text := textOf segments
        return ([segment inQuotes text], state.assign name text)
      | _, _ =>
        let (segments, state) ← expand outlets fuel word state
        return ([segment inQuotes (textOf segments)], state)
    | .number inQuotes expression => do
      let (segments, state) ← expand outlets fuel expression state
      match evaluate? state.value (textOf segments) with
      | some value => return ([segment inQuotes (decimal value)], state)
      | none =>
        let message := "arithmetic expression: expecting primary".toList
        return ([], { state.complain outlets 1 message 2 with ending := some .left })
    | .output inQuotes tree => do
      let (text, state) ← capture outlets fuel tree state
      return ([segment inQuotes (dropBreaks text)], { state with innerStatus := state.status })

/-- Runs commands for what they write. -/
def capture (outlets : Outlets) : Nat → Tree → State → Option (Octets × State)
  | 0, _, _ => none
  | fuel + 1, tree, state => do
    let inner ← runTree { outlets with output := .pipe } fuel tree { state with piped := [] }
    return (inner.piped.reverse, state.leave { inner with piped := state.piped })

/-- The words that words become. -/
def expandWords (outlets : Outlets) : Nat → List (List Piece) → State →
    Option (List Octets × State)
  | 0, _, _ => none
  | _ + 1, [], state => some ([], state)
  | fuel + 1, word :: words, state => do
    let (segments, state) ← expand outlets fuel word state
    let (others, state) ← expandWords outlets fuel words state
    return (fieldsOf segments ++ others, state)

/-- Carries out assignments. -/
def runAssignments (outlets : Outlets) : Nat → List (Octets × List Piece) → State → Option State
  | 0, _, _ => none
  | _ + 1, [], state => some state
  | fuel + 1, (name, word) :: assignments, state => do
    let (segments, state) ← expand outlets fuel word state
    runAssignments outlets fuel assignments (state.assign name (textOf segments))

/-- Applies redirections from left to right. -/
def runRedirections : Nat → List (Nat × RedirectKind × List Piece) → State × Outlets →
    Option (State × Outlets)
  | 0, _, _ => none
  | _ + 1, [], reached => some reached
  | fuel + 1, (descriptor, kind, target) :: redirections, (state, outlets) => do
    let (segments, state) ← expand outlets fuel target state
    runRedirections fuel redirections (redirect state outlets descriptor kind (textOf segments))

/-- Runs a command that consists of words. -/
def runWords (outlets : Outlets) (line : Nat) : Nat → Octets → List Octets → State → Option State
  | 0, _, _, _ => none
  | fuel + 1, name, arguments, state =>
    match builtin? state outlets line (String.ofList name) arguments with
    | some after => some after
    | none =>
      match String.ofList name, arguments with
      | "eval", words =>
        match readScript? (joinArguments words) with
        | some tree => runTree outlets fuel tree state
        | none => some { state with status := 2, ending := some .left }
      | "yes", words => repeatWords? state outlets words
      | "exec", first :: others => do
        let after ← runWords outlets line fuel first others state
        return { after with ending := after.ending <|> some .left }
      | "sh", ['-', 'c'] :: script :: others => do
        let tree ← readScript? script
        let inner ← runTree outlets fuel tree
          { state with
            name := others.head?.getD "sh".toList, arguments := others.drop 1,
            number := state.number + 1 }
        if inner.ending = some .killed then
          return { state.leave inner with status := 137, ending := none }
        return state.leave inner
      | _, _ => some (runTool state outlets line name arguments)

/-- The state after a command. -/
def runTree (outlets : Outlets) : Nat → Tree → State → Option State
  | 0, _, _ => none
  | fuel + 1, tree, state =>
    if state.ending.isSome then some state
    else
      match tree with
      | .simple line assignments words redirections => do
        let (fields, state) ← expandWords outlets fuel words { state with innerStatus := 0 }
        let (reached, target) ← runRedirections fuel redirections (state, outlets)
        if state.ending.isSome then return state
        match fields with
        | [] =>
          let after ← runAssignments target fuel assignments reached
          return { after with status := after.innerStatus, input := state.input }
        | name :: arguments =>
          let assigned ← runAssignments target fuel assignments reached
          let after ← runWords target line fuel name arguments assigned
          let kept := if assignments.isEmpty then after.bindings else state.bindings
          return { after with
            bindings := kept,
            input := if redirections.any (·.1 = 0) then state.input else after.input }
      | .sequence trees => runAll outlets fuel trees { state with status := state.status }
      | .pipeline stages => runStages outlets fuel stages state
      | .negated inner => do
        let after ← runTree outlets fuel inner state
        return { after with status := if after.status = 0 then 1 else 0 }
      | .both first second => do
        let after ← runTree outlets fuel first state
        if after.status = 0 then runTree outlets fuel second after else return after
      | .either first second => do
        let after ← runTree outlets fuel first state
        if after.status = 0 then return after else runTree outlets fuel second after
      | .enclosed inner => do
        let after ← runTree outlets fuel inner state
        return state.leave after
      | .redirected inner redirections => do
        let (reached, target) ← runRedirections fuel redirections (state, outlets)
        let after ← runTree target fuel inner reached
        return { after with
          input := if redirections.any (·.1 = 0) then state.input else after.input }
      | .choice condition body otherwise => do
        let after ← runTree outlets fuel condition state
        if after.ending.isSome then return after
        if after.status = 0 then runTree outlets fuel body { after with status := 0 }
        else runTree outlets fuel otherwise { after with status := 0 }
      | .loop whileTrue condition body => runLoop outlets whileTrue condition body 0 fuel state
      | .each name words body => do
        let (fields, state) ← match words with
          | some words => expandWords outlets fuel words state
          | none => some (state.arguments, state)
        runEach outlets name body fuel fields { state with status := 0 }

/-- The state after commands in their order. -/
def runAll (outlets : Outlets) : Nat → List Tree → State → Option State
  | 0, _, _ => none
  | _ + 1, [], state => some state
  | fuel + 1, tree :: trees, state =>
    match runTree outlets fuel tree state with
    | some after => runAll outlets fuel trees after
    | none => none

/-- The state after commands each of which reads what the one before writes. -/
def runStages (outlets : Outlets) : Nat → List Tree → State → Option State
  | 0, _, _ => none
  | _ + 1, [], state => some state
  | fuel + 1, [stage], state => do
    let after ← runTree outlets fuel stage state
    return state.leave after
  | fuel + 1, stage :: stages, state => do
    let (text, after) ← capture outlets fuel stage state
    if after.ending.isSome then return after
    let last ← runStages outlets fuel stages { after with input := text }
    return { last with input := state.input }

/-- The state after a loop; `status` is that of its last round. -/
def runLoop (outlets : Outlets) (whileTrue : Bool) (condition body : Tree) (status : Nat) :
    Nat → State → Option State
  | 0, _ => none
  | fuel + 1, state =>
    match runTree outlets fuel condition state with
    | none => none
    | some tested =>
      if tested.ending.isSome then some tested
      else if (tested.status = 0) ≠ whileTrue then some { tested with status := status }
      else
        match runTree outlets fuel body tested with
        | none => none
        | some after =>
          match after.ending with
          | none => runLoop outlets whileTrue condition body after.status fuel after
          | some (.continued 1) =>
            runLoop outlets whileTrue condition body 0 fuel { after with ending := none }
          | some (.broken 1) => some { after with ending := none }
          | some (.broken (count + 1)) => some { after with ending := some (.broken count) }
          | some (.continued (count + 1)) =>
            some { after with ending := some (.continued count) }
          | some _ => some after

/-- The state after a loop over words. -/
def runEach (outlets : Outlets) (name : Octets) (body : Tree) : Nat → List Octets → State →
    Option State
  | 0, _, _ => none
  | _ + 1, [], state => some state
  | fuel + 1, word :: words, state =>
    match runTree outlets fuel body (state.assign name word) with
    | none => none
    | some after =>
      match after.ending with
      | none => runEach outlets name body fuel words after
      | some (.continued 1) => runEach outlets name body fuel words { after with ending := none }
      | some (.broken 1) => some { after with ending := none }
      | some (.broken (count + 1)) => some { after with ending := some (.broken count) }
      | some (.continued (count + 1)) => some { after with ending := some (.continued count) }
      | some _ => some after

end

/-- The bound on the depth of steps. -/
def depthBound : Nat := 200000

/-- The state after a script, from an empty input. -/
def runScript? (name : Octets) (arguments : List Octets) (script : Octets) : Option State :=
  let start : State := { name := name, arguments := arguments }
  match readScript? script with
  | some tree => runTree {} depthBound tree start
  | none =>
    some (start.complain {} 1 "Syntax error: end of file unexpected".toList 2)

end HostNet.Shell
