/-
**The command line.**

Reads the arguments and the two files that they name, does what is asked for, prints the outcome
and ends with its exit code. The host itself is left as it is: what is asked for is done on a tree
that holds the two files, with the programs that every host has.
-/

import HostNet.Session
import HostNet.Shell.Runner

namespace HostNet

/-- A tree with a file of the host in it, if that can be read. -/
def withHostFile (tree : FileTree) (path : String) : IO FileTree := do
  match ← (IO.FS.readBinFile path).toBaseIO with
  | .ok contents =>
    let steps := do
      FileTree.createParent path
      FileTree.write path contents
    return (steps.run.run tree).2
  | .error _ => return tree

/-- Does what is asked for, prints the outcome and gives the exit code. -/
def Invocation.perform (invocation : Invocation) : IO UInt32 := do
  let withSettings ← withHostFile {} invocation.settingsPath
  let files ← withHostFile withSettings invocation.file
  match (invocation.carryOut Shell.respond { runner := (), files := files }).1 with
  | .ok output =>
    IO.print output
    return 0
  | .error (.failed failure) =>
    failure.complaint?.forM fun line => IO.println line
    return failure.exitCode.toUInt32
  | .error _ => return 1

end HostNet

/-- Runs the daemon with the arguments of a command line. -/
def main (arguments : List String) : IO UInt32 := do
  match HostNet.Invocation.ofArguments? arguments with
  | some invocation => invocation.perform
  | none =>
    IO.eprintln "usage: netcfgd [-c FILE] (validate | render | apply | run) FILE"
    return 2
