/-
**The steps of an apply that change the host.**

The name of the host is set by a command; the proxy environment, the units and the time servers
are files. A file without contents to hold is removed. The directory of the units is made anew, so
that it holds nothing else.

* `writeUnits`: replaces the directory of the units;
* `updateFile_none`: without contents nothing but the file itself is touched.
-/

import HostNet.Command.Tools
import HostNet.Config.ProxyEnvironment
import HostNet.Host.Running
import HostNet.Unit.Basic

namespace HostNet.HostAction

variable {σ : Type}

/-- Works on the file or directory of a path. -/
def onPath {α : Type} (path : String) (action : FileAction α) : HostAction σ HostFailure α :=
  onFiles action (.fileFailed path)

/-- Sets the name of the host, or resets it. -/
def setHostname (runner : Runner σ) (name : Option String) : HostAction σ HostFailure Unit := do
  let _ ← runChecked runner none (.setHostname (name.getD ""))

/-- Makes the directory of a file. -/
def createParent (path : String) : HostAction σ HostFailure Unit :=
  match parentPath? path with
  | some parent => onPath parent (FileTree.createTree parent)
  | none => return ()

/-- Writes a text into a file whose directory is there. -/
def writeText (path text : String) : HostAction σ HostFailure Unit :=
  onPath path (FileTree.write path text.toUTF8)

/-- Writes a text into a file, or removes the file. -/
def updateFile (path : String) (text : Option String) : HostAction σ HostFailure Unit :=
  match text with
  | some text => do
    createParent path
    writeText path text
  | none => onPath path (FileTree.ifThere (FileTree.removeFile path))

/-- Writes or removes the environment file of the proxies. -/
def updateProxies (path : String) (proxy : Option Proxy) : HostAction σ HostFailure Unit :=
  updateFile path (proxyEnvironment? proxy)

/-- The permission bits of the files that the service manager reads. -/
def sharedFileMode : Nat := 0o644

/-- The permission bits of the directory of the units. -/
def sharedDirectoryMode : Nat := 0o755

/-- Writes one unit into a directory. -/
def writeUnit (directory : String) (file : UnitFile) : HostAction σ HostFailure Unit := do
  let path := joinPath directory file.name
  writeText path file.contents
  onPath path (FileTree.setMode path sharedFileMode)

/-- Makes a directory anew. -/
def renewDirectory (directory : String) : HostAction σ HostFailure Unit := do
  onPath directory (FileTree.ifThere (FileTree.removeTree directory))
  onPath directory (FileTree.createTree directory)
  onPath directory (FileTree.setMode directory sharedDirectoryMode)

/-- Replaces a directory by one with just these units. -/
def writeUnits (directory : String) (files : List UnitFile) : HostAction σ HostFailure Unit := do
  renewDirectory directory
  files.forM (writeUnit directory)

/-- Writes or removes the file of the time servers. -/
def updateTimesync (path : String) (ntp : Option Ntp) : HostAction σ HostFailure Unit := do
  let text := timesyncText? ntp
  updateFile path text
  if text.isSome then onPath path (FileTree.setMode path sharedFileMode)

/-- Restarts a service. -/
def restart (runner : Runner σ) (service : String) : HostAction σ HostFailure Unit := do
  let _ ← runChecked runner none (.restart service)

/-- Without contents nothing but the file itself is touched. -/
theorem updateFile_none (path : String) :
    (updateFile path none : HostAction σ HostFailure Unit) =
      onPath path (FileTree.ifThere (FileTree.removeFile path)) := rfl

end HostNet.HostAction
