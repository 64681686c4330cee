/-
**A tree of files.**

A place is the names on the way from the top. What stands at a place is a directory or a file, each
with its permission bits; the top is always a directory.

The tree leaves out symbolic and hard links, so each place is one file or directory of its own and a
path leads where its names say. It also leaves out permissions that refuse an operation (the bits are
kept, and never looked at) and faults of the device below: an operation is refused for what stands in
the tree and for the spelling of its path, and for nothing else.

* `at?_put_self` and `at?_put_of_ne`: putting an entry changes one place only;
* `walk`: follows names from a place, through directories only.
-/

import HostNet.Host.Failure
import HostNet.Host.Path

namespace HostNet

/-- The names on the way from the top. -/
abbrev Place := List String

/-- What stands at a place. -/
inductive Entry where
  | directory (mode : Nat)
  | file (mode : Nat) (contents : ByteArray)
  deriving Inhabited

/-- A tree of files, and the directory from which relative paths start. -/
structure FileTree where
  entries : List (Place × Entry) := []
  home : Place := []
  deriving Inhabited

namespace FileTree

/-- What stands at a place. -/
def at? (tree : FileTree) (place : Place) : Option Entry :=
  if place = [] then some (.directory 0o755) else tree.entries.lookup place

/-- Puts an entry at a place. -/
def put (tree : FileTree) (place : Place) (entry : Entry) : FileTree :=
  { tree with entries := (place, entry) :: tree.entries.filter (·.1 ≠ place) }

/-- Removes what stands at a place. -/
def erase (tree : FileTree) (place : Place) : FileTree :=
  { tree with entries := tree.entries.filter (·.1 ≠ place) }

/-- Whether a place lies below another. -/
def isBelow (place upper : Place) : Bool := upper.isPrefixOf place && place ≠ upper

/-- Removes what stands below a place. -/
def eraseBelow (tree : FileTree) (place : Place) : FileTree :=
  { tree with entries := tree.entries.filter (!isBelow ·.1 place) }

/-- Whether a directory stands at a place. -/
def isDirectory (tree : FileTree) (place : Place) : Bool :=
  match tree.at? place with
  | some (.directory _) => true
  | _ => false

/-! ### One change at a time -/

/-- What is kept of a list by a test on its keys is found as before. -/
theorem lookup_filter {entries : List (Place × Entry)} (kept : Place → Bool) {place : Place}
    (keeps : kept place = true) :
    (entries.filter fun entry => kept entry.1).lookup place = entries.lookup place := by
  induction entries with
  | nil => rfl
  | cons entry entries ih =>
    obtain ⟨other, value⟩ := entry
    by_cases same : place = other
    · subst same
      simp [keeps]
    · have different : (place == other) = false := by simpa using same
      by_cases keep : kept other = true
      · simp [keep, List.lookup_cons, different, ih]
      · simp [keep, List.lookup_cons, different, ih]

/-- What is dropped from a list by a test on its keys is no longer found. -/
theorem lookup_filter_none {entries : List (Place × Entry)} (kept : Place → Bool) {place : Place}
    (drops : kept place = false) :
    (entries.filter fun entry => kept entry.1).lookup place = none := by
  induction entries with
  | nil => rfl
  | cons entry entries ih =>
    obtain ⟨other, value⟩ := entry
    by_cases keep : kept other = true
    · have different : (place == other) = false := by
        simp only [beq_eq_false_iff_ne, ne_eq]
        rintro rfl
        rw [drops] at keep
        cases keep
      simp [keep, List.lookup_cons, different, ih]
    · simp [keep, ih]

/-- What was put at a place stands there. -/
theorem at?_put_self (tree : FileTree) {place : Place} (entry : Entry) (lower : place ≠ []) :
    (tree.put place entry).at? place = some entry := by
  simp [at?, put, lower]

/-- Other places are left alone by putting an entry. -/
theorem at?_put_of_ne (tree : FileTree) {place other : Place} (entry : Entry)
    (different : other ≠ place) : (tree.put place entry).at? other = tree.at? other := by
  by_cases top : other = []
  · simp [at?, top]
  · have unequal : (other == place) = false := by simpa using different
    have kept : (decide (other ≠ place)) = true := by simpa using different
    simp only [at?, put, top, if_false, List.lookup_cons, unequal]
    exact lookup_filter (fun key => decide (key ≠ place)) kept

/-- Other places are left alone by removing an entry. -/
theorem at?_erase_of_ne (tree : FileTree) {place other : Place} (different : other ≠ place) :
    (tree.erase place).at? other = tree.at? other := by
  by_cases top : other = []
  · simp [at?, top]
  · have kept : (decide (other ≠ place)) = true := by simpa using different
    simp only [at?, erase, top, if_false]
    exact lookup_filter (fun key => decide (key ≠ place)) kept

/-- Places elsewhere are left alone by removing what stands below a place. -/
theorem at?_eraseBelow (tree : FileTree) {place other : Place}
    (elsewhere : isBelow other place = false) :
    (tree.eraseBelow place).at? other = tree.at? other := by
  by_cases top : other = []
  · simp [at?, top]
  · simp only [at?, eraseBelow, top, if_false]
    exact lookup_filter (fun key => !isBelow key place) (by simp [elsewhere])

/-! ### Finding places -/

/-- The longest name in octets. -/
def longestName : Nat := 255

/-- The number of octets that a path must stay below. -/
def pathLimit : Nat := 4096

/-- Follows names from a place, through directories only. -/
def walk (tree : FileTree) (place : Place) : List String → Except Refusal Place
  | [] => .ok place
  | name :: names =>
    if !tree.isDirectory place then .error .notDirectory
    else if name = "" || name = "." then walk tree place names
    else if name = ".." then walk tree place.dropLast names
    else if longestName < name.utf8ByteSize then .error .nameTooLong
    else
      match tree.at? (place ++ [name]) with
      | some _ => walk tree (place ++ [name]) names
      | none => .error .notFound

/-- The place at which a path starts. -/
def start (tree : FileTree) (path : String) : Place := if isAbsolute path then [] else tree.home

/-- Refuses what is no path. -/
def checkPath (path : String) : Except Refusal Unit :=
  if path.toList.contains '\x00' then
    .error (.because "file name contained an unexpected NUL byte")
  else if path = "" then .error .notFound
  else if pathLimit ≤ path.utf8ByteSize then .error .nameTooLong
  else .ok ()

/-- The place of a path that leads to something. -/
def locate (tree : FileTree) (path : String) : Except Refusal Place := do
  checkPath path
  tree.walk (tree.start path) (pathNames path)

/-- The place where a path would make something: the directory, the last name, and whether a slash
follows it. -/
structure Aim where
  directory : Place
  name : String
  slash : Bool
  deriving Repr, DecidableEq

/-- Whether the last name of an aim stands for a directory that is there already. -/
def Aim.isDots (aim : Aim) : Bool := aim.name = "." || aim.name = ".."

/-- The place of what a path would make. -/
def Aim.place (aim : Aim) : Place := aim.directory ++ [aim.name]

/-- The place where a path would make something, in a directory that is there. -/
def aim (tree : FileTree) (path : String) : Except Refusal Aim := do
  checkPath path
  let names := (pathNames path).reverse
  let slash := names.head? = some ""
  match names.dropWhile (· = "") with
  | [] => return ⟨[], ".", slash⟩
  | last :: before =>
    let directory ← tree.walk (tree.start path) before.reverse
    if !tree.isDirectory directory then throw .notDirectory
    if last ≠ "." && last ≠ ".." && longestName < last.utf8ByteSize then throw .nameTooLong
    return ⟨directory, last, slash⟩

end FileTree

end HostNet
