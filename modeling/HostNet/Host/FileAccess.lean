/-
**Access to files.**

The operations on a tree of files that the host offers. Each answers a refusal or a result, and
leaves the tree as it is then: an operation of several steps may be refused halfway.

* `write`: a new file is readable by all and writable by its owner;
* `createTree` and `removeTree`: a directory with all above it, or with all below it;
* `read_pure`: reading leaves the tree alone.
-/

import HostNet.Host.FileTree
import HostNet.Text.Utf8

namespace HostNet

/-- An operation on a tree of files. -/
abbrev FileAction (α : Type) := ExceptT Refusal (StateM FileTree) α

namespace FileTree

/-- The permission bits of a new directory. -/
def directoryMode : Nat := 0o755

/-- The permission bits of a new file. -/
def fileMode : Nat := 0o644

/-- Makes an answer about the tree an operation that leaves it alone. -/
def ask {α : Type} (question : FileTree → Except Refusal α) : FileAction α := do
  match question (← get) with
  | .ok answer => return answer
  | .error refusal => throw refusal

/-- The contents of a file. -/
def contents (tree : FileTree) (path : String) : Except Refusal ByteArray := do
  match tree.at? (← tree.locate path) with
  | some (.file _ contents) => return contents
  | some (.directory _) => throw .isDirectory
  | none => throw .notFound

/-- The text of a file in UTF-8. -/
def text (tree : FileTree) (path : String) : Except Refusal String := do
  match Text.Utf8.decode? (← tree.contents path) with
  | some text => return text
  | none => throw (.because "stream did not contain valid UTF-8")

/-- Reads a file. -/
def read (path : String) : FileAction ByteArray := ask fun tree => tree.contents path

/-- Reading leaves the tree alone. -/
theorem read_pure (path : String) (tree : FileTree) :
    ((read path).run.run tree).2 = tree := by
  simp only [read, ask, ExceptT.run, bind, ExceptT.bind, ExceptT.mk,
    ExceptT.bindCont, StateT.bind, StateT.run, get, getThe, MonadStateOf.get, StateT.get,
    liftM, monadLift, MonadLift.monadLift, ExceptT.lift, Functor.map, StateT.map, pure]
  cases tree.contents path <;> rfl

/-- Whether a path leads to a directory. -/
def isDirectoryAt (tree : FileTree) (path : String) : Bool :=
  match tree.locate path with
  | .ok place => tree.isDirectory place
  | .error _ => false

/-- Makes a directory. -/
def makeDirectory (path : String) : FileAction Unit := do
  let aim ← ask (·.aim path)
  let tree ← get
  if aim.isDots || (tree.at? aim.place).isSome then throw .alreadyExists
  set (tree.put aim.place (.directory directoryMode))

/-- Makes a directory again after those above it; one that is there by now is as good. -/
def makeDirectoryAgain (path : String) : FileAction Unit :=
  tryCatch (makeDirectory path) fun refusal => do
    if !(← get).isDirectoryAt path then throw refusal

/-- Makes a directory and those above it, as far as they are missing. -/
def createTreeFrom : Nat → String → FileAction Unit
  | 0, _ => throw .notFound
  | fuel + 1, path =>
    if path = "" then return ()
    else
      tryCatch (makeDirectory path) fun refusal => do
        if refusal = .notFound then
          match parentPath? path with
          | some parent => createTreeFrom fuel parent
          | none => throw (.because "failed to create whole tree")
          makeDirectoryAgain path
        else if !(← get).isDirectoryAt path then throw refusal

/-- Makes a directory and those above it, as far as they are missing. -/
def createTree (path : String) : FileAction Unit := createTreeFrom (path.length + 1) path

/-- Makes the directory above a path. -/
def createParent (path : String) : FileAction Unit := do
  match parentPath? path with
  | some parent => createTree parent
  | none => return ()

/-- Writes a file, in place of one that is there. -/
def write (path : String) (contents : ByteArray) : FileAction Unit := do
  let aim ← ask (·.aim path)
  let tree ← get
  if aim.isDots || aim.slash then throw .isDirectory
  match tree.at? aim.place with
  | some (.directory _) => throw .isDirectory
  | some (.file mode _) => set (tree.put aim.place (.file mode contents))
  | none => set (tree.put aim.place (.file fileMode contents))

/-- Removes a file. -/
def removeFile (path : String) : FileAction Unit := do
  let place ← ask (·.locate path)
  let tree ← get
  if tree.isDirectory place then throw .isDirectory
  set (tree.erase place)

/-- Why a directory is not removed under its last name. -/
def lastNameRefusal (path : String) : Option Refusal :=
  match (pathNames path).reverse.dropWhile (· = "") with
  | [] => some .busy
  | last :: _ =>
    if last = "." then some .invalid else if last = ".." then some .notEmpty else none

/-- Removes a directory and all below it. -/
def removeTree (path : String) : FileAction Unit := do
  let place ← ask (·.locate path)
  if !(← get).isDirectory place then throw .notDirectory
  modify fun tree => tree.eraseBelow place
  match lastNameRefusal path with
  | some refusal => throw refusal
  | none => modify fun tree => tree.erase place

/-- Sets the permission bits of a file or a directory. -/
def setMode (path : String) (mode : Nat) : FileAction Unit := do
  let place ← ask (·.locate path)
  let tree ← get
  match tree.at? place with
  | some (.file _ contents) => set (tree.put place (.file mode contents))
  | some (.directory _) => set (tree.put place (.directory mode))
  | none => throw .notFound

/-- Tolerates that something is not there. -/
def ifThere (action : FileAction Unit) : FileAction Unit :=
  tryCatch action fun refusal => if refusal = .notFound then return () else throw refusal

/-- The permission bits at a path. -/
def mode? (tree : FileTree) (path : String) : Option Nat :=
  match tree.locate path with
  | .ok place =>
    match tree.at? place with
    | some (.file mode _) => some mode
    | some (.directory mode) => some mode
    | none => none
  | .error _ => none

end FileTree

end HostNet
