/-
**Where a path leads, whatever the tree holds.**

Following a path through a tree of files either fails or ends at a place that the names of the path
fix by themselves: there are no links. So a path has a target and a list of places that it passes,
and both depend on nothing but its text and the directory from which relative paths start.

* `target` and `passed`: where a path leads, and the places on the way with both ends;
* `passed_parent`: the path without its last name passes no other places;
* `prefix_target_of_plain`: a path without double dots only goes down;
* `target_joinPath`: a name below a directory leads to a place below the place of the directory.
-/

import HostNet.Host.FileTree
import HostNet.Proofs.Text.Pieces
import Mathlib.Data.List.Infix
import Mathlib.Data.List.TakeWhile

namespace HostNet

open HostNet.Text

/-! ### Places of a path -/

/-- The place to which a name leads from a place. -/
def enter (place : Place) (name : String) : Place :=
  if name = "" ∨ name = "." then place
  else if name = ".." then place.dropLast
  else place ++ [name]

/-- The place to which names lead from a place. -/
def resolve (place : Place) (names : List String) : Place := names.foldl enter place

/-- The place at which a path starts, for a directory from which relative paths start. -/
def startOf (home : Place) (path : String) : Place := if isAbsolute path then [] else home

/-- The place to which a path leads. -/
def target (home : Place) (path : String) : Place := resolve (startOf home path) (pathNames path)

/-- The places that names pass from a place, with both ends. -/
def passedFrom (place : Place) (names : List String) : List Place :=
  names.inits.map (resolve place)

/-- The places that a path passes, its start and its target among them. -/
def passed (home : Place) (path : String) : List Place :=
  passedFrom (startOf home path) (pathNames path)

variable {home place : Place} {path : String}

theorem enter_empty (place : Place) : enter place "" = place := rfl

theorem enter_of_ordinary {name : String} (named : name ≠ "") (noDot : name ≠ ".")
    (noDots : name ≠ "..") : enter place name = place ++ [name] := by
  rw [enter, if_neg (by simp [named, noDot]), if_neg noDots]

@[simp] theorem resolve_nil (place : Place) : resolve place [] = place := rfl

@[simp] theorem resolve_cons (place : Place) (name : String) (names : List String) :
    resolve place (name :: names) = resolve (enter place name) names := rfl

theorem resolve_append (place : Place) (front back : List String) :
    resolve place (front ++ back) = resolve (resolve place front) back :=
  List.foldl_append

theorem passedFrom_cons (place : Place) (name : String) (names : List String) :
    passedFrom place (name :: names) = place :: passedFrom (enter place name) names := by
  simp [passedFrom, Function.comp_def]

theorem mem_passedFrom_iff {goal : Place} {names : List String} :
    goal ∈ passedFrom place names ↔ ∃ front, front <+: names ∧ resolve place front = goal := by
  simp [passedFrom]

theorem mem_passed_iff :
    place ∈ passed home path ↔
      ∃ front, front <+: pathNames path ∧ resolve (startOf home path) front = place :=
  mem_passedFrom_iff

theorem start_mem_passed (home : Place) (path : String) : startOf home path ∈ passed home path :=
  mem_passed_iff.mpr ⟨[], List.nil_prefix, rfl⟩

theorem target_mem_passed (home : Place) (path : String) : target home path ∈ passed home path :=
  mem_passed_iff.mpr ⟨pathNames path, List.prefix_refl _, rfl⟩

/-! ### Paths without double dots -/

theorem prefix_enter {name : String} (noDots : name ≠ "..") : place <+: enter place name := by
  unfold enter
  split
  · exact List.prefix_refl place
  · exact List.prefix_append _ _

theorem prefix_resolve {names : List String} (plain : ".." ∉ names) : place <+: resolve place names := by
  induction names generalizing place with
  | nil => exact List.prefix_refl place
  | cons name names ih =>
    simp only [List.mem_cons, not_or] at plain
    exact (prefix_enter (Ne.symm plain.1)).trans (ih plain.2)

/-- A path without double dots only goes down. -/
theorem prefix_target_of_plain (plain : ".." ∉ pathNames path) (through : place ∈ passed home path) :
    place <+: target home path := by
  obtain ⟨front, ⟨back, whole⟩, rfl⟩ := mem_passed_iff.mp through
  rw [← whole] at plain
  rw [target, ← whole, resolve_append]
  exact prefix_resolve fun dots => plain (List.mem_append_right front dots)

/-! ### The path without its last name -/

theorem dropPathEnd_ne_nil {characters : List Char} (some : characters ≠ []) :
    dropPathEnd characters ≠ [] := by
  induction characters using dropPathEnd.induct with
  | case1 => exact absurd rfl some
  | case2 => simp [dropPathEnd]
  | case3 rest more ih =>
    rw [dropPathEnd]
    · exact ih (by simpa using more)
    · exact more
  | case4 rest ended => simp [dropPathEnd, ended]
  | case5 rest more ih =>
    rw [dropPathEnd, if_neg more]
    exact ih (by simpa using more)
  | case6 other _ _ _ _ =>
    rw [dropPathEnd] <;> assumption

/-- What is dropped from the end of a path goes back to a slash. The characters stand in reverse. -/
theorem dropPathEnd_cases (characters : List Char) :
    dropPathEnd characters = characters ∨
      (dropPathEnd characters = ['/'] ∧ ∃ front, characters = front ++ ['/']) ∨
      ∃ front, characters = front ++ '/' :: dropPathEnd characters := by
  induction characters using dropPathEnd.induct with
  | case1 => exact .inl rfl
  | case2 => exact .inl rfl
  | case3 rest more ih =>
    have step : dropPathEnd ('/' :: rest) = dropPathEnd rest := by rw [dropPathEnd]; exact more
    rw [step]
    obtain same | ⟨slash, front, equal⟩ | ⟨front, equal⟩ := ih
    · exact .inr (.inr ⟨[], by rw [same]; rfl⟩)
    · exact .inr (.inl ⟨slash, '/' :: front, by rw [equal]; rfl⟩)
    · exact .inr (.inr ⟨'/' :: front, congrArg ('/' :: ·) equal⟩)
  | case4 rest ended =>
    rw [List.isEmpty_iff] at ended
    subst ended
    exact .inr (.inl ⟨rfl, ['.'], rfl⟩)
  | case5 rest more ih =>
    rw [dropPathEnd, if_neg more]
    obtain same | ⟨slash, front, equal⟩ | ⟨front, equal⟩ := ih
    · exact .inr (.inr ⟨['.'], by rw [same]; rfl⟩)
    · exact .inr (.inl ⟨slash, '.' :: '/' :: front, by rw [equal]; rfl⟩)
    · exact .inr (.inr ⟨'.' :: '/' :: front, congrArg ('.' :: '/' :: ·) equal⟩)
  | case6 other _ _ _ _ =>
    left
    rw [dropPathEnd] <;> assumption

theorem dropPathEnd_slash (rest : List Char) :
    (dropPathEnd ('/' :: rest) = ['/'] ∧ ∃ front, '/' :: rest = front ++ ['/']) ∨
      ∃ front, '/' :: rest = front ++ '/' :: dropPathEnd ('/' :: rest) := by
  cases rest with
  | nil => exact .inl ⟨rfl, [], rfl⟩
  | cons first others =>
    have step : dropPathEnd ('/' :: first :: others) = dropPathEnd (first :: others) := by
      rw [dropPathEnd]
      simp
    rw [step]
    obtain same | ⟨top, front, equal⟩ | ⟨front, equal⟩ := dropPathEnd_cases (first :: others)
    · exact .inr ⟨[], by rw [same]; rfl⟩
    · exact .inl ⟨top, '/' :: front, congrArg ('/' :: ·) equal⟩
    · exact .inr ⟨'/' :: front, congrArg ('/' :: ·) equal⟩

/-- The beginning of a path, read backwards, is the end of what remains of it. -/
theorem isAbsolute_of_reverse {front : List Char} (equal : path.toList.reverse = front ++ ['/']) :
    isAbsolute path = true := by
  have whole : path.toList = '/' :: front.reverse := by
    rw [← List.reverse_reverse path.toList, equal]
    simp
  simp [isAbsolute, whole]

/-- A path does not start with a slash if the end of it, read backwards, holds none. -/
theorem isRelative_of_reverse {dropped kept : List Char} (some : kept ≠ []) (noSlash : '/' ∉ kept)
    (whole : path.toList.reverse = dropped ++ kept) : isAbsolute path = false := by
  have lead : path.toList = kept.reverse ++ dropped.reverse := by
    rw [← List.reverse_reverse path.toList, whole, List.reverse_append]
  cases turned : kept.reverse with
  | nil => exact absurd (List.reverse_eq_nil_iff.mp turned) some
  | cons first others =>
    have inside : first ∈ kept := by
      rw [← List.mem_reverse, turned]
      exact List.mem_cons_self
    have other : first ≠ '/' := fun same => noSlash (same ▸ inside)
    simp [isAbsolute, lead, turned, other]

/-- What stands before a slash in a path, read backwards. -/
theorem parent_of_reverse {parent : String} {front back : List Char} (some : back ≠ [])
    (parentIs : parent = String.ofList back.reverse)
    (whole : path.toList.reverse = front ++ '/' :: back) :
    parent ≠ "" ∧ ∃ rest, path.toList = parent.toList ++ '/' :: rest := by
  subst parentIs
  constructor
  · intro empty
    have nothing := congrArg String.toList empty
    exact some (by simpa using nothing)
  · refine ⟨front.reverse, ?_⟩
    rw [← List.reverse_reverse path.toList, whole]
    simp

/-- The path without its last name is empty, the top, or what stands before a slash. -/
theorem parentPath?_cases {parent : String} (found : parentPath? path = some parent) :
    (parent = "" ∧ isAbsolute path = false) ∨ (parent = "/" ∧ isAbsolute path = true) ∨
      (parent ≠ "" ∧ ∃ rest, path.toList = parent.toList ++ '/' :: rest) := by
  simp only [parentPath?] at found
  split at found
  · cases found
  rename_i proper
  simp only [Bool.or_eq_true, List.isEmpty_iff, decide_eq_true_eq, not_or] at proper
  obtain ⟨some, low⟩ := proper
  -- `kept` is the path read backwards without what is dropped from its end
  generalize keptIs : dropPathEnd path.toList.reverse = kept at found some low
  have whole : ∃ dropped, path.toList.reverse = dropped ++ kept := by
    obtain same | ⟨slash, _⟩ | ⟨front, equal⟩ := dropPathEnd_cases path.toList.reverse
    · exact ⟨[], by rw [← keptIs, same]; rfl⟩
    · exact absurd (keptIs ▸ slash) low
    · exact ⟨front ++ ['/'], by rw [← keptIs]; simpa using equal⟩
  obtain ⟨dropped, whole⟩ := whole
  have cut := List.takeWhile_append_dropWhile (p := (· ≠ '/')) (l := kept)
  rw [← cut, ← List.append_assoc] at whole
  generalize beforeIs : kept.dropWhile (· ≠ '/') = before at found cut whole
  cases before with
  | nil =>
    left
    refine ⟨(Option.some.inj found).symm, ?_⟩
    rw [List.append_nil] at cut whole
    rw [cut] at whole
    refine isRelative_of_reverse some (fun inside => ?_) whole
    rw [← cut] at inside
    simpa using List.mem_takeWhile_imp inside
  | cons slash rest =>
    right
    have isSlash : slash = '/' := by
      have stops := List.head?_dropWhile_not (· ≠ '/') kept
      rw [beforeIs] at stops
      simpa using stops
    subst isSlash
    have parentIs := (Option.some.inj found).symm
    obtain ⟨top, front, equal⟩ | ⟨front, equal⟩ := dropPathEnd_slash rest
    · rw [top] at parentIs
      rw [equal, ← List.append_assoc] at whole
      exact .inl ⟨parentIs, isAbsolute_of_reverse whole⟩
    · rw [equal, ← List.append_assoc] at whole
      exact .inr (parent_of_reverse (dropPathEnd_ne_nil (by simp)) parentIs whole)

theorem startOf_of_append {front : String} {rest : List Char} (some : front ≠ "")
    (whole : path.toList = front.toList ++ rest) : startOf home path = startOf home front := by
  cases spelled : front.toList with
  | nil => exact absurd (String.toList_eq_nil_iff.mp spelled) some
  | cons first others =>
    rw [spelled] at whole
    simp [startOf, isAbsolute, whole, spelled]

/-- The names of a path with a slash in it are those before the slash and those after it. -/
theorem pathNames_of_append {front : String} {rest : List Char}
    (whole : path.toList = front.toList ++ '/' :: rest) :
    pathNames path = pathNames front ++ pathNames (String.ofList rest) := by
  simp only [pathNames, whole, split_append_separator, List.map_append, String.toList_ofList]

theorem pathNames_empty : pathNames "" = [""] := by
  rfl

theorem pathNames_top : pathNames "/" = ["", ""] := by
  rfl

theorem resolve_of_empty {names : List String} (empty : ∀ name ∈ names, name = "") :
    resolve place names = place := by
  induction names with
  | nil => rfl
  | cons name names ih =>
    rw [resolve_cons, empty name List.mem_cons_self, enter_empty]
    exact ih fun other later => empty other (List.mem_cons_of_mem name later)

/-- The path without its last name passes no other places. -/
theorem passed_parent {parent : String} (found : parentPath? path = some parent)
    (through : place ∈ passed home parent) : place ∈ passed home path := by
  obtain ⟨front, within, led⟩ := mem_passed_iff.mp through
  obtain ⟨empty, relative⟩ | ⟨top, absolute⟩ | ⟨some, rest, whole⟩ := parentPath?_cases found
  · subst empty
    rw [pathNames_empty] at within
    have still : resolve (startOf home "") front = startOf home "" :=
      resolve_of_empty fun name member => by simpa using within.subset member
    have start : startOf home path = startOf home "" := by rw [startOf, relative]; rfl
    rw [← led, still, ← start]
    exact start_mem_passed home path
  · subst top
    rw [pathNames_top] at within
    have still : resolve (startOf home "/") front = startOf home "/" :=
      resolve_of_empty fun name member => by simpa using within.subset member
    have start : startOf home path = startOf home "/" := by rw [startOf, absolute]; rfl
    rw [← led, still, ← start]
    exact start_mem_passed home path
  · rw [← startOf_of_append some whole] at led
    refine mem_passed_iff.mpr ⟨front, ?_, led⟩
    rw [pathNames_of_append whole]
    exact within.trans (List.prefix_append _ _)

/-! ### A name below a directory -/

/-- The path of a name below a directory is the directory and the name, with a slash between them or
at the end of the directory. -/
theorem joinPath_eq {directory name : String} (filled : directory ≠ "")
    (relative : isAbsolute name = false) : ∃ slash, (slash = "" ∨ slash = "/") ∧
      joinPath directory name = directory ++ slash ++ name := by
  unfold joinPath
  rw [if_neg (by simp [filled, relative])]
  split
  · exact ⟨"", .inl rfl, by simp⟩
  · exact ⟨"/", .inr rfl, rfl⟩

/-- The names of a path below a directory are those of the directory, but for empty ones at its end,
and those of the name. -/
theorem joinPath_pieces {directory name : String} (filled : directory ≠ "")
    (relative : isAbsolute name = false) :
    ∃ names ends, pathNames (joinPath directory name) = names ++ pathNames name ∧
      pathNames directory = names ++ ends ∧ ∀ ending ∈ ends, ending = "" := by
  by_cases ended : directory.toList.getLast? = some '/'
  · obtain ⟨front, equal⟩ := List.getLast?_eq_some_iff.mp ended
    have named : joinPath directory name = directory ++ name := by
      simp [joinPath, relative, filled, ended]
    have slashed : directory.toList = (String.ofList front).toList ++ '/' :: [] := by
      simpa using equal
    have whole : (directory ++ name).toList = (String.ofList front).toList ++ '/' :: name.toList := by
      rw [String.toList_append, slashed]
      simp
    refine ⟨pathNames (String.ofList front), [""], ?_, ?_, by simp⟩
    · rw [named, pathNames_of_append whole, String.ofList_toList]
    · rw [pathNames_of_append slashed]
      rw [show pathNames (String.ofList []) = [""] from pathNames_empty]
  · have named : joinPath directory name = directory ++ "/" ++ name := by
      simp [joinPath, relative, filled, ended]
    have whole : (directory ++ "/" ++ name).toList = directory.toList ++ '/' :: name.toList := by
      simp
    refine ⟨pathNames directory, [], ?_, by simp, nofun⟩
    rw [named, pathNames_of_append whole, String.ofList_toList]

/-- The names of a path below a directory: names that lead where the directory is, and those of the
name. -/
theorem joinPath_names (home : Place) {directory name : String} (filled : directory ≠ "")
    (relative : isAbsolute name = false) :
    ∃ names, pathNames (joinPath directory name) = names ++ pathNames name ∧
      resolve (startOf home directory) names = target home directory := by
  obtain ⟨names, ends, together, whole, empty⟩ := joinPath_pieces filled relative
  refine ⟨names, together, ?_⟩
  rw [target, whole, resolve_append, resolve_of_empty empty]

theorem startOf_joinPath {directory name : String} (filled : directory ≠ "")
    (relative : isAbsolute name = false) :
    startOf home (joinPath directory name) = startOf home directory := by
  have begins : ∃ rest, (joinPath directory name).toList = directory.toList ++ rest := by
    rw [joinPath, relative]
    split
    · rename_i empty
      simp [filled] at empty
    · split
      · exact ⟨name.toList, by simp⟩
      · exact ⟨'/' :: name.toList, by simp⟩
  obtain ⟨rest, whole⟩ := begins
  exact startOf_of_append filled whole

/-- **A name below a directory leads to a place below the place of the directory.** -/
theorem target_joinPath {directory name : String} (filled : directory ≠ "")
    (relative : isAbsolute name = false) :
    target home (joinPath directory name) = resolve (target home directory) (pathNames name) := by
  obtain ⟨names, together, led⟩ := joinPath_names home filled relative
  rw [target, startOf_joinPath filled relative, together, resolve_append, led]

/-- A name that leads down: whatever else it holds, it first leads to something below. -/
def LeadsDown (name : String) : Prop :=
  isAbsolute name = false ∧ ∃ first rest, pathNames name = first :: rest ∧
    first ≠ "" ∧ first ≠ "." ∧ first ≠ ".."

/-- A name that starts with neither a slash nor a dot leads down. -/
theorem leadsDown_of_head {name : String} {head : Char} {tail : List Char}
    (whole : name.toList = head :: tail) (noSlash : head ≠ '/') (noDot : head ≠ '.') :
    LeadsDown name := by
  refine ⟨by simp [isAbsolute, whole, noSlash], ?_⟩
  obtain ⟨piece, pieces, cut⟩ := List.exists_cons_of_ne_nil (split_ne_nil '/' tail)
  refine ⟨String.ofList (head :: piece), pieces.map String.ofList, ?_, ?_, ?_, ?_⟩
  · rw [pathNames, whole, split_cons_of_ne noSlash cut, List.map_cons]
  all_goals
    intro same
    have characters := congrArg String.toList same
    simp [noDot] at characters

/-- A text without slashes is a path of one name. -/
theorem pathNames_of_noSlash (noSlash : '/' ∉ path.toList) : pathNames path = [path] := by
  rw [pathNames, split_of_free noSlash, List.map_singleton, String.ofList_toList]

/-- A path of one name is that name. -/
theorem eq_of_pathNames {name : String} (single : pathNames path = [name]) : path = name := by
  have whole := join_pathNames path
  rw [single] at whole
  simpa [join] using whole.symm

end HostNet
