/-
**Paths.**

A path is names with slashes between them; one that starts with a slash starts at the top of the
file tree. Slashes at the end and names that are a lone dot at the end do not count.

* `joinPath`: a path below another;
* `parentPath?`: the path without its last name;
* `extension?`: what follows the last dot of the last name.
-/

import HostNet.Text.Pieces

namespace HostNet

open HostNet.Text

/-- The names of a path; slashes next to each other have empty names between them. -/
def pathNames (path : String) : List String :=
  (split '/' path.toList).map String.ofList

/-- Whether a path starts at the top of the file tree. -/
def isAbsolute (path : String) : Bool := path.toList.head? = some '/'

/-- The path of a name below a directory. A name that is an absolute path stands for itself. -/
def joinPath (directory name : String) : String :=
  if isAbsolute name || directory.isEmpty then name
  else if directory.toList.getLast? = some '/' then directory ++ name
  else directory ++ "/" ++ name

/-- Drops slashes and names that are a lone dot from the end of a path; the path is given and
returned with its last character first. -/
def dropPathEnd : List Char → List Char
  | [] => []
  | ['/'] => ['/']
  | '/' :: rest => dropPathEnd rest
  | '.' :: '/' :: rest => if rest.isEmpty then ['/'] else dropPathEnd rest
  | other => other

/-- The path without its last name. -/
def parentPath? (path : String) : Option String :=
  let reversed := dropPathEnd path.toList.reverse
  if reversed.isEmpty || reversed = ['/'] then none
  else some (String.ofList (dropPathEnd (reversed.dropWhile (· ≠ '/'))).reverse)

/-- The last name of a path, unless it is two dots. -/
def fileName? (path : String) : Option String :=
  let name := (dropPathEnd path.toList.reverse).takeWhile (· ≠ '/')
  if name.isEmpty || name = ['.'] || name = ['.', '.'] then none
  else some (String.ofList name.reverse)

/-- What follows the last dot of the last name, unless the name starts with that dot. -/
def extension? (path : String) : Option String :=
  (fileName? path).bind fun name =>
    let reversed := name.toList.reverse
    let after := reversed.takeWhile (· ≠ '.')
    if name.length ≤ after.length + 1 then none else some (String.ofList after.reverse)

/-- The names of a path make up the path. -/
theorem join_pathNames (path : String) :
    String.ofList (join '/' ((pathNames path).map String.toList)) = path := by
  have back : (pathNames path).map String.toList = split '/' path.toList := by
    simp [pathNames, Function.comp_def]
  rw [back, join_split, String.ofList_toList]

example : parentPath? "a/../b" = some "a/.." := by decide +kernel
example : parentPath? "a//b/" = some "a" := by decide +kernel
example : parentPath? "a" = some "" := by decide +kernel
example : parentPath? "/a" = some "/" := by decide +kernel
example : parentPath? "/" = none := by decide +kernel
example : extension? "d/n.JSON" = some "JSON" := by decide +kernel
example : extension? ".json" = none := by decide +kernel
example : extension? "n." = some "" := by decide +kernel

end HostNet
