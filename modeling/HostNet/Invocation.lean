/-
**How the daemon is invoked.**

The arguments are an option for the settings file, a request, and the file of a configuration. The
option stands before the request and at most once. After two dashes an argument is a file whatever
it looks like.

* `Invocation.ofArguments?`: reads the arguments;
* the examples at the end show which arguments are refused.
-/

namespace HostNet

/-- What the daemon is asked to do with a configuration. -/
inductive Request where
  /-- Check it without touching the host. -/
  | validate
  /-- Print its units. -/
  | render
  /-- Apply it. -/
  | apply
  /-- Apply it, start the applications and stay until the end. -/
  | run
  deriving Repr, DecidableEq, Inhabited

/-- The request of a word. -/
def Request.ofText? (word : String) : Option Request :=
  if word = "validate" then some .validate
  else if word = "render" then some .render
  else if word = "apply" then some .apply
  else if word = "run" then some .run
  else none

/-- How the daemon is invoked. -/
structure Invocation where
  settingsPath : String := "/etc/osd/netcfgd.toml"
  request : Request
  /-- The file of the configuration. -/
  file : String
  deriving Repr, DecidableEq, Inhabited

namespace Invocation

/-- Whether an argument looks like an option. -/
def isOption (argument : String) : Bool := argument.startsWith "-" && argument ≠ "-"

/-- A path may not be empty. -/
def path? (value : String) : Option String := if value.isEmpty then none else some value

/-- The path that an argument of its own gives to an option. -/
def ownPath? (value : String) : Option String := if isOption value then none else path? value

/-- What follows the front of an argument. -/
def after? (front argument : String) : Option String :=
  if argument.startsWith front then some (String.ofList (argument.toList.drop front.length))
  else none

/-- The path in the same argument as its option. -/
def attachedPath? (argument : String) : Option String :=
  match after? "--config=" argument, after? "-c=" argument, after? "-c" argument with
  | some value, _, _ => path? value
  | _, some value, _ => path? value
  | _, _, some value => path? value
  | _, _, _ => none

/-- Reads the options: the settings file, if it is given, and the arguments from the request on. -/
def readOptions (given : Option String) : List String → Option (Option String × List String)
  | [] => none
  | [argument] => if isOption argument then none else some (given, [argument])
  | argument :: value :: rest =>
    if !isOption argument then some (given, argument :: value :: rest)
    else if given.isSome then none
    else if argument = "-c" || argument = "--config" then do
      readOptions (some (← ownPath? value)) rest
    else do
      readOptions (some (← attachedPath? argument)) (value :: rest)

/-- The files among the arguments after the request. -/
def readFiles : List String → Option (List String)
  | [] => some []
  | "--" :: rest => some rest
  | argument :: rest =>
    if isOption argument then none else (readFiles rest).map (argument :: ·)

/-- Reads the arguments. -/
def ofArguments? (arguments : List String) : Option Invocation := do
  let (given, rest) ← readOptions none arguments
  match rest with
  | word :: others =>
    let request ← Request.ofText? word
    match ← readFiles others with
    | [file] =>
      let file ← path? file
      match given with
      | some settings => return { settingsPath := settings, request := request, file := file }
      | none => return { request := request, file := file }
    | _ => none
  | [] => none

example : ofArguments? ["-cs.toml", "apply", "n.json"] = some ⟨"s.toml", .apply, "n.json"⟩ := by
  decide +kernel
example : ofArguments? ["validate", "--", "-n"] = some { request := .validate, file := "-n" } := by
  decide +kernel
example : ofArguments? ["apply", "-c", "s.toml", "n.json"] = none := by decide +kernel
example : ofArguments? ["-c", "a", "-c", "b", "apply", "n.json"] = none := by decide +kernel
example : ofArguments? ["apply", "a", "b"] = none := by decide +kernel

end Invocation

end HostNet
