/-
**Failures of the host.**

A command may not start, may fail, or may be stopped by cancellation; a file operation may fail;
and a request to the host may have an unknown name.

* `HostFailure.message`: the sentence for each;
* `HostFailure.cause?`: the failure beneath it, which a full report prints once more.
-/

import HostNet.Text.Quoted

namespace HostNet

open HostNet.Text

/-- Why the operating system refused an operation. -/
inductive Refusal where
  | notFound
  | argumentsTooLong
  | notExecutable
  | denied
  | busy
  | alreadyExists
  | notDirectory
  | isDirectory
  | invalid
  | nameTooLong
  | notEmpty
  /-- What is given to a command may not hold the octet zero. -/
  | nulOctet
  /-- A reason in words. -/
  | because (reason : String)
  deriving Repr, DecidableEq, Inhabited

/-- A reason of the operating system with its number. -/
def Refusal.numbered (reason : String) (number : Nat) : String :=
  reason ++ " (os error " ++ toString number ++ ")"

/-- The sentence for a refusal. -/
def Refusal.message : Refusal → String
  | .notFound => numbered "No such file or directory" 2
  | .argumentsTooLong => numbered "Argument list too long" 7
  | .notExecutable => numbered "Exec format error" 8
  | .denied => numbered "Permission denied" 13
  | .busy => numbered "Device or resource busy" 16
  | .alreadyExists => numbered "File exists" 17
  | .notDirectory => numbered "Not a directory" 20
  | .isDirectory => numbered "Is a directory" 21
  | .invalid => numbered "Invalid argument" 22
  | .nameTooLong => numbered "File name too long" 36
  | .notEmpty => numbered "Directory not empty" 39
  | .nulOctet => "nul byte found in provided data"
  | .because reason => reason

/-- A failure of the host. -/
inductive HostFailure where
  /-- A command could not be started. -/
  | notStarted (command : String) (cause : Refusal)
  | commandFailed (command : String) (exitCode : Int) (output : String)
  | cancelled (command : String)
  | fileFailed (path : String) (cause : Refusal)
  | unknownAction (action : String)
  deriving Repr, DecidableEq, Inhabited

namespace HostFailure

/-- The sentence for a failure. -/
def message : HostFailure → String
  | notStarted command cause =>
    "Failed to execute command '" ++ command ++ "': " ++ cause.message
  | commandFailed command exitCode output =>
    "Command failed: '" ++ command ++ "' (exit code " ++ toString exitCode ++ "): " ++ output
  | cancelled command => "Command cancelled: '" ++ command ++ "'"
  | fileFailed path cause => "IO error on " ++ path ++ ": " ++ cause.message
  | unknownAction action => "Invalid action " ++ quoted action

/-- Whether cancellation is the reason. -/
def isCancelled : HostFailure → Bool
  | cancelled _ => true
  | _ => false

/-- The refusal beneath a failure. -/
def cause? : HostFailure → Option Refusal
  | notStarted _ cause => some cause
  | fileFailed _ cause => some cause
  | _ => none

end HostFailure

end HostNet
