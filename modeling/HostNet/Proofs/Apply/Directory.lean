/-
**The directory of the units.**

The directory is made anew and the units are written into it one after the other. While it holds
files only, a unit can be written only under a name without slashes, straight into the directory;
so it holds files only after that as well, and in the end just the units, the last one of each name.

The directory is not always new. What stood at its place is not removed if its path led nowhere;
then making the directories on the way may lead the path to what still stands there. And a path that
goes below its own target makes the directories that it passes there. `writeUnits_holds_iff` says
that these are the only ways to end up with something besides the units.

* `Flat`: a directory holds files only;
* `writeUnit_flat` and `writeAll_flat`: what one unit, and all units, do to such a directory;
* `UnitsWritten`: units stand where their paths lead, whatever the directory holds;
* `Replaceable`: making a directory anew leaves nothing behind that stays;
* `Renewable`: it leaves no directory behind;
* `writeUnits_holds_iff`: the directory holds just the units exactly if it was replaceable;
* `Replaced`: what writing units does to the tree, in one statement.
-/

import HostNet.Proofs.Apply.Written

namespace HostNet

open FileTree HostNet.Action

/-! ### The units of a directory -/

/-- The last unit with a name. -/
def lastNamed? (files : List UnitFile) (name : String) : Option UnitFile :=
  files.reverse.find? (·.name = name)

/-- What stands at a place inside a directory that holds just some units. -/
def unitAt? (files : List UnitFile) : Place → Option Entry
  | [name] => (lastNamed? files name).map fun file => .file HostAction.sharedFileMode file.contents.toUTF8
  | _ => none

theorem unitAt?_cons (file : UnitFile) (files : List UnitFile) (inside : Place) :
    unitAt? (file :: files) inside = (unitAt? files inside).or
      (if inside = [file.name] then some (.file HostAction.sharedFileMode file.contents.toUTF8) else none) := by
  match inside with
  | [] => rfl
  | [name] =>
    simp only [unitAt?, lastNamed?, List.reverse_cons, List.find?_append]
    by_cases same : file.name = name
    · cases files.reverse.find? (·.name = name) <;> simp [same]
    · cases files.reverse.find? (·.name = name) <;> simp [same, Ne.symm same]
  | _ :: _ :: _ => simp [unitAt?]

/-- The last unit whose path leads to a place. -/
def lastAt? (home : Place) (directory : String) (files : List UnitFile) (place : Place) :
    Option UnitFile :=
  files.reverse.find? fun file => target home (joinPath directory file.name) = place

theorem lastAt?_cons (home : Place) (directory : String) (file : UnitFile) (files : List UnitFile)
    (place : Place) :
    lastAt? home directory (file :: files) place = (lastAt? home directory files place).or
      (if target home (joinPath directory file.name) = place then some file else none) := by
  simp only [lastAt?, List.reverse_cons, List.find?_append, List.find?_singleton, decide_eq_true_eq]

theorem unitAt?_isSome_iff {files : List UnitFile} {inside : Place} :
    (unitAt? files inside).isSome = true ↔ ∃ file ∈ files, inside = [file.name] := by
  match inside with
  | [] => simp [unitAt?]
  | [name] =>
    simp only [unitAt?, lastNamed?, Option.isSome_map, List.find?_isSome, List.mem_reverse,
      decide_eq_true_eq, List.cons.injEq, and_true]
    exact exists_congr fun file => and_congr_right fun _ => eq_comm
  | _ :: _ :: _ => simp [unitAt?]

namespace FileTree

variable {tree after : FileTree} {directory : String} {place : Place}

/-- A directory holds just some units. -/
structure HoldsUnits (tree : FileTree) (directory : String) (files : List UnitFile) : Prop where
  located : tree.locate directory = .ok (target tree.home directory)
  stands : tree.at? (target tree.home directory) = some (.directory HostAction.sharedDirectoryMode)
  units : ∀ inside, inside ≠ [] →
    tree.at? (target tree.home directory ++ inside) = unitAt? files inside

/-- A directory that is spared holds some units exactly if it held them. -/
theorem Spared.holdsUnits_iff {files : List UnitFile} (spared : Spared directory tree after)
    (located : tree.locate directory = .ok (target tree.home directory)) :
    after.HoldsUnits directory files ↔ tree.HoldsUnits directory files := by
  constructor
  · rintro ⟨_, stands, units⟩
    rw [spared.home] at stands units
    refine ⟨located, ?_, fun inside some => ?_⟩
    · rw [← spared.at?_target, stands]
    · rw [← spared.same, units inside some]
  · rintro ⟨_, stands, units⟩
    refine ⟨?_, ?_, fun inside some => ?_⟩
    · rw [spared.home, spared.locate located]
    · rw [spared.home, spared.at?_target, stands]
    · rw [spared.home, spared.same, units inside some]

/-- A directory holds files only. -/
structure Flat (tree : FileTree) (directory : String) : Prop where
  located : tree.locate directory = .ok (target tree.home directory)
  stands : tree.at? (target tree.home directory) = some (.directory HostAction.sharedDirectoryMode)
  files : ∀ inside, inside ≠ [] →
    tree.isDirectory (target tree.home directory ++ inside) = false

theorem ne_empty_of_locate {path : String} (found : tree.locate path = .ok place) : path ≠ "" := by
  rintro rfl
  have checked := (locate_ok_iff.mp found).1
  simp [checkPath] at checked

/-- **Into a directory that holds files only, a path leads straight.** A further name would lead
through a directory inside the directory. -/
theorem Flat.straight {name : String} (flat : tree.Flat directory) (down : LeadsDown name)
    (through : ∀ front back, pathNames (joinPath directory name) = front ++ back → back ≠ [] →
      tree.isDirectory (resolve (startOf tree.home (joinPath directory name)) front) = true) :
    target tree.home (joinPath directory name) = target tree.home directory ++ [name] := by
  have filled := ne_empty_of_locate flat.located
  obtain ⟨relative, first, rest, names, named, noDot, noDots⟩ := down
  obtain ⟨front, whole, led⟩ := joinPath_names tree.home filled relative
  have below : target tree.home (joinPath directory name) =
      resolve (target tree.home directory) (pathNames name) := target_joinPath filled relative
  have next : enter (target tree.home directory) first = target tree.home directory ++ [first] :=
    enter_of_ordinary named noDot noDots
  have single : rest = [] := by
    apply Classical.byContradiction
    intro more
    rw [names, List.append_cons] at whole
    have inner := through _ _ whole more
    rw [startOf_joinPath filled relative, resolve_append, led, resolve_cons, next] at inner
    have file := flat.files [first] (by simp)
    rw [resolve_nil, file] at inner
    cases inner
  subst single
  have same : name = first := eq_of_pathNames names
  subst same
  rw [names, resolve_cons, next, resolve_nil] at below
  exact below

/-- A path that leads into a directory of files leads straight into it. -/
theorem Flat.locate {name : String} (flat : tree.Flat directory) (down : LeadsDown name)
    (found : tree.locate (joinPath directory name) = .ok place) :
    place = target tree.home directory ++ [name] := by
  rw [locate_eq_target found]
  refine flat.straight down fun front back whole more => ?_
  obtain ⟨_, walked⟩ := locate_ok_iff.mp found
  rw [whole] at walked
  cases back with
  | nil => exact absurd rfl more
  | cons next back => exact isDirectory_of_walk walked

/-- **Into a directory that holds files only, a file is written straight or not at all.** -/
theorem Flat.write {name : String} {contents : ByteArray} (flat : tree.Flat directory)
    (down : LeadsDown name)
    (run : FileTree.write (joinPath directory name) contents tree = (.ok (), after)) :
    target tree.home (joinPath directory name) = target tree.home directory ++ [name] ∧
      ∃ mode, after = tree.put (target tree.home directory ++ [name]) (.file mode contents) := by
  obtain ⟨_, refused, _⟩ | ⟨_, aim, mode, aims, noSlash, _, rfl⟩ := write_cases run
  · cases refused
  have below := flat.straight down fun front back => aims.isDirectory noSlash
  refine ⟨below, mode, ?_⟩
  rw [← below, aims.place_eq]

/-- A file that is put straight into a directory leaves it with files only. -/
theorem Flat.put {name : String} {mode : Nat} {contents : ByteArray} (flat : tree.Flat directory) :
    (tree.put (target tree.home directory ++ [name]) (.file mode contents)).Flat directory := by
  have lower : target tree.home directory ++ [name] ≠ [] := by simp
  have file := flat.files [name] (by simp)
  refine ⟨?_, ?_, fun inside some => ?_⟩
  · exact locate_mono (home_put tree _ _) (fun between _ => Kept.put lower (.inr file)) flat.located
  · rw [home_put, at?_put_of_ne _ _ (by simp)]
    exact flat.stands
  · rw [home_put]
    by_cases same : inside = [name]
    · rw [same]
      exact isDirectory_of_file (at?_put_self tree _ lower)
    · rw [isDirectory_congr (at?_put_of_ne tree _ (by simpa using same))]
      exact flat.files inside some

end FileTree

namespace HostAction

variable {σ : Type} {before after : Host σ} {directory : String} {files : List UnitFile}

/-- **A unit that is written stands where its path leads, and nothing else changes.** -/
theorem writeUnit_stands {file : UnitFile} (run : writeUnit directory file before = (.ok (), after)) :
    Written (joinPath directory file.name) file.contents.toUTF8 before.files after.files ∧
      ∀ place, after.files.at? place =
        if place = target before.files.home (joinPath directory file.name) then
          some (.file sharedFileMode file.contents.toUTF8)
        else before.files.at? place := by
  obtain ⟨_, middle, wrote, shared⟩ := bind_ok_iff.mp run
  have written := Written.of_write (onPath_ok wrote)
  refine ⟨written.setMode (onPath_ok shared), fun place => ?_⟩
  obtain ⟨_, refused, _⟩ | ⟨_, aimed, entry, found, stands, set⟩ := setMode_cases (onPath_ok shared)
  · cases refused
  have led := locate_eq_target found
  rw [written.home] at led
  subst led
  obtain ⟨mode, unshared⟩ := written.stands
  rw [unshared] at stands
  cases stands
  rw [set]
  by_cases same : place = target before.files.home (joinPath directory file.name)
  · have lower : target before.files.home (joinPath directory file.name) ≠ [] := by
      intro top
      rw [top, at?_top] at unshared
      cases unshared
    rw [if_pos same, same]
    exact at?_put_self _ _ lower
  · rw [if_neg same, at?_put_of_ne _ _ same]
    exact (writeText_touches _ _ _ _ _ _ rfl wrote).2.1.2 place same

/-- **A unit that is written into a directory of files stands there, and nothing else changes.** -/
theorem writeUnit_flat {file : UnitFile} (flat : before.files.Flat directory)
    (down : LeadsDown file.name) (run : writeUnit directory file before = (.ok (), after)) :
    after.files.home = before.files.home ∧ after.files.Flat directory ∧
      ∀ place, after.files.at? place =
        if place = target before.files.home directory ++ [file.name] then
          some (.file sharedFileMode file.contents.toUTF8)
        else before.files.at? place := by
  obtain ⟨_, middle, wrote, _⟩ := bind_ok_iff.mp run
  obtain ⟨straight, _⟩ := flat.write down (onPath_ok wrote)
  obtain ⟨written, entry⟩ := writeUnit_stands run
  rw [straight] at entry
  refine ⟨written.home, ⟨?_, ?_, fun inside some => ?_⟩, entry⟩
  · rw [written.home]
    exact locate_mono written.home (fun between _ => written.kept between) flat.located
  · rw [written.home, entry, if_neg (by simp)]
    exact flat.stands
  · rw [written.home]
    by_cases same : inside = [file.name]
    · rw [same]
      exact isDirectory_of_file ((entry _).trans (if_pos rfl))
    · rw [isDirectory_congr ((entry _).trans (if_neg (by simpa using same)))]
      exact flat.files inside some

/-- **Units that are written into a directory of files stand there, the last one of each name.** -/
theorem writeAll_flat (flat : before.files.Flat directory)
    (down : ∀ file ∈ files, LeadsDown file.name)
    (run : files.forM (writeUnit directory) before = (.ok (), after)) :
    after.files.home = before.files.home ∧ after.files.Flat directory ∧
      (∀ inside, after.files.at? (target before.files.home directory ++ inside) =
        (unitAt? files inside).or
          (before.files.at? (target before.files.home directory ++ inside))) ∧
      ∀ place, ¬ target before.files.home directory <+: place →
        after.files.at? place = before.files.at? place := by
  induction files generalizing before with
  | nil =>
    cases run
    refine ⟨rfl, flat, fun inside => ?_, fun _ _ => rfl⟩
    have none : unitAt? [] inside = none := by
      match inside with
      | [] | [_] | _ :: _ :: _ => rfl
    rw [none, Option.none_or]
  | cons file files ih =>
    obtain ⟨middle, first, others⟩ := forM_cons_ok_iff.mp run
    rw [List.forall_mem_cons] at down
    obtain ⟨home, flatMiddle, entry⟩ := writeUnit_flat flat down.1 first
    obtain ⟨homeAfter, flatAfter, inner, outer⟩ := ih flatMiddle down.2 others
    rw [home] at homeAfter inner outer
    refine ⟨homeAfter, flatAfter, fun inside => ?_, fun place outside => ?_⟩
    · rw [inner, entry, unitAt?_cons, Option.or_assoc]
      congr 1
      by_cases same : inside = [file.name]
      · simp [same]
      · simp [same]
    · rw [outer place outside, entry, if_neg]
      rintro rfl
      exact outside (List.prefix_append _ _)

end HostAction

namespace FileTree

/-- Units are written into a directory, wherever their paths lead. Each path leads to a file then, and
where several paths lead, the last of the units stands. -/
structure UnitsWritten (directory : String) (files : List UnitFile) (tree after : FileTree) :
    Prop where
  home : after.home = tree.home
  located : ∀ file ∈ files, after.locate (joinPath directory file.name) =
    .ok (target tree.home (joinPath directory file.name))
  stands : ∀ place, after.at? place = ((lastAt? tree.home directory files place).map fun file =>
    .file HostAction.sharedFileMode file.contents.toUTF8).or (tree.at? place)
  kept : ∀ place, Kept tree after place

end FileTree

namespace HostAction

variable {σ : Type} {before after : Host σ} {directory : String} {files : List UnitFile}

/-- **Units that are written stand where their paths lead.** -/
theorem writeAll_written (run : files.forM (writeUnit directory) before = (.ok (), after)) :
    UnitsWritten directory files before.files after.files := by
  induction files generalizing before with
  | nil =>
    cases run
    exact ⟨rfl, nofun, fun _ => rfl, fun _ => Kept.of_at? rfl⟩
  | cons file files ih =>
    obtain ⟨middle, first, others⟩ := forM_cons_ok_iff.mp run
    obtain ⟨written, entry⟩ := writeUnit_stands first
    obtain ⟨home, located, stands, kept⟩ := ih others
    rw [written.home] at located stands
    refine ⟨home.trans written.home, ?_, fun place => ?_, fun place =>
      (written.kept place).trans (kept place)⟩
    · rw [List.forall_mem_cons]
      exact ⟨locate_mono home (fun between _ => kept between) written.located, located⟩
    · rw [stands, lastAt?_cons, Option.map_or, Option.or_assoc, entry]
      congr 1
      by_cases same : place = target before.files.home (joinPath directory file.name)
      · simp [same]
      · simp [same, Ne.symm same]

end HostAction

/-! ### Making the directory anew -/

namespace FileTree

variable {tree after : FileTree} {directory : String} {place : Place}

/-- A directory was made anew, unless its path led nowhere and it was there all the same. -/
structure Renewed (directory : String) (tree after : FileTree) : Prop where
  home : after.home = tree.home
  located : after.locate directory = .ok (target tree.home directory)
  stands : after.at? (target tree.home directory) = some (.directory HostAction.sharedDirectoryMode)
  found : (∃ place, tree.locate directory = .ok place) ∨ tree.locate directory = .error .notFound
  /-- Nothing lies in the directory but what its path passes and what could not be reached. -/
  below : ∀ inside, inside ≠ [] → (after.at? (target tree.home directory ++ inside)).isSome →
    target tree.home directory ++ inside ∈ passed tree.home directory ∨
      (tree.locate directory = .error .notFound ∧
        after.at? (target tree.home directory ++ inside) =
          tree.at? (target tree.home directory ++ inside))
  hidden : tree.locate directory = .error .notFound → ∀ place, Kept tree after place

/-- What stands is removed with all below it, or the path led nowhere and nothing is removed. -/
theorem removeTree_removed (run : ifThere (removeTree directory) tree = (.ok (), after)) :
    (tree.locate directory = .error .notFound ∧ after = tree) ∨
      (tree.locate directory = .ok (target tree.home directory) ∧
        target tree.home directory ≠ [] ∧
        after = (tree.eraseBelow (target tree.home directory)).erase
          (target tree.home directory)) := by
  obtain ⟨plain, _⟩ | ⟨plain, _⟩ := ifThere_cases run
  · obtain ⟨_, refused, _⟩ | ⟨_, _, refused, _⟩ | ⟨_, place, lower, found, _, rfl⟩ :=
      removeTree_cases plain
    · cases refused
    · cases refused
    · have same := locate_eq_target found
      subst same
      exact .inr ⟨found, lower, rfl⟩
  · obtain ⟨refusal, refused, rfl, absent⟩ | ⟨refusal, _, refused, other, _⟩ | ⟨refused, _⟩ :=
      removeTree_cases plain
    · cases refused
      exact .inl ⟨absent rfl, rfl⟩
    · exact absurd (Except.error.inj refused).symm other
    · cases refused

/-- A directory whose permission bits are set is there, and nothing else changes. -/
theorem setMode_directory {mode : Nat} (lower : target tree.home directory ≠ [])
    (made : directory = "" ∨ tree.isDirectoryAt directory = true)
    (run : setMode directory mode tree = (.ok (), after)) :
    tree.locate directory = .ok (target tree.home directory) ∧
      after = tree.put (target tree.home directory) (.directory mode) ∧
      ∀ place, Kept tree after place := by
  obtain ⟨_, refused, _⟩ | ⟨_, place, entry, found, stands, rfl⟩ := setMode_cases run
  · cases refused
  have same := locate_eq_target found
  subst same
  obtain ⟨place, again, isDirectory⟩ :=
    isDirectoryAt_iff.mp (made.resolve_left (ne_empty_of_locate found))
  rw [found] at again
  cases again
  obtain ⟨old, directoryThere⟩ := isDirectory_iff.mp isDirectory
  rw [directoryThere] at stands
  cases stands
  exact ⟨found, rfl, fun place => Kept.put lower (.inl ⟨mode, rfl⟩)⟩

end FileTree

namespace HostAction

variable {σ : Type} {before after : Host σ} {directory : String} {files : List UnitFile}

theorem renewDirectory_renewed (lower : target before.files.home directory ≠ [])
    (run : renewDirectory directory before = (.ok (), after)) :
    Renewed directory before.files after.files := by
  obtain ⟨_, cleared, removed, rest⟩ := bind_ok_iff.mp run
  obtain ⟨_, made, created, shared⟩ := bind_ok_iff.mp rest
  have removed := removeTree_removed (onPath_ok removed)
  obtain ⟨adds, there⟩ := createTreeFrom_cases (onPath_ok created)
  have home : cleared.files.home = before.files.home := by
    obtain ⟨_, same⟩ | ⟨_, _, same⟩ := removed
    · rw [same]
    · rw [same]
      rfl
  rw [home] at adds
  have homeMade : made.files.home = before.files.home := adds.home.trans home
  rw [← homeMade] at lower
  obtain ⟨located, set, keptMade⟩ := setMode_directory lower (there rfl) (onPath_ok shared)
  rw [homeMade] at lower located set
  have keptAfter := fun place => (adds.kept place).trans (keptMade place)
  refine ⟨?_, ?_, ?_, ?_, fun inside some stands => ?_, fun nowhere => ?_⟩
  · rw [set]
    exact homeMade
  · refine locate_mono ?_ (fun between _ => keptMade between) located
    rw [set]
    rfl
  · rw [set]
    exact at?_put_self _ _ lower
  · exact removed.symm.imp (fun led => ⟨_, led.1⟩) fun nowhere => nowhere.1
  · have other : target before.files.home directory ++ inside ≠
        target before.files.home directory := by simpa using some
    rw [set, at?_put_of_ne _ _ other] at stands ⊢
    obtain same | ⟨through, _⟩ := adds.entries (target before.files.home directory ++ inside)
    · obtain ⟨nowhere, unchanged⟩ | ⟨_, _, erased⟩ := removed
      · exact .inr ⟨nowhere, by rw [same, unchanged]⟩
      · rw [same, erased, at?_eraseAll _ lower, if_pos (List.prefix_append _ _)] at stands
        cases stands
    · exact .inl through
  · obtain ⟨_, unchanged⟩ | ⟨found, _⟩ := removed
    · exact unchanged ▸ keptAfter
    · rw [found] at nowhere
      cases nowhere

end HostAction

/-! ### The directory with its units -/

/-- Making a directory anew for some units leaves nothing else in it. Its path does not go below its
own target; and it leads somewhere, unless what stands there anyway are files that the units
overwrite. -/
structure Replaceable (tree : FileTree) (directory : String) (files : List UnitFile) : Prop where
  straight : ∀ place ∈ passed tree.home directory, target tree.home directory <+: place →
    place = target tree.home directory
  reached : (∃ place, tree.locate directory = .ok place) ∨ ∀ inside, inside ≠ [] →
    (tree.at? (target tree.home directory ++ inside)).isSome →
      tree.isDirectory (target tree.home directory ++ inside) = false ∧
        ∃ file ∈ files, inside = [file.name]

/-- Making a directory anew leaves no directory in it. Its path does not go below its own target, and
it leads somewhere, unless no directory stands there anyway. -/
structure Renewable (tree : FileTree) (directory : String) : Prop where
  straight : ∀ place ∈ passed tree.home directory, target tree.home directory <+: place →
    place = target tree.home directory
  shown : checkPath directory = .ok () → tree.locate directory = .error .notFound →
    ∀ inside, inside ≠ [] → tree.isDirectory (target tree.home directory ++ inside) = false

/-- A directory is renewable if nothing but the units stays in it. -/
theorem Replaceable.renewable {tree : FileTree} {directory : String} {files : List UnitFile}
    (replaceable : Replaceable tree directory files) : Renewable tree directory := by
  refine ⟨replaceable.straight, fun _ nowhere inside some => ?_⟩
  obtain ⟨place, found⟩ | hidden := replaceable.reached
  · rw [found] at nowhere
    cases nowhere
  · rw [Bool.eq_false_iff]
    intro directory
    have file := (hidden inside some (isSome_of_isDirectory directory)).1
    rw [directory] at file
    cases file

/-- A path without double dots does not go below its target. -/
theorem straight_of_plain {home place : Place} {path : String} (plain : ".." ∉ pathNames path)
    (through : place ∈ passed home path) (below : target home path <+: place) :
    place = target home path :=
  (prefix_target_of_plain plain through).eq_of_length_le below.length_le

/-- A path without double dots is renewable in a tree without loose ends. -/
theorem renewable_of_plain {tree : FileTree} {directory : String} (rooted : tree.IsTree)
    (plain : ".." ∉ pathNames directory) : Renewable tree directory := by
  refine ⟨fun _ => straight_of_plain plain, fun proper missing inside _ => ?_⟩
  obtain ⟨between, through, absent⟩ := locate_notFound missing proper
  have above := (prefix_target_of_plain plain through).trans (List.prefix_append _ inside)
  rw [isDirectory, rooted.vacant absent above]

/-- A path without double dots is replaceable in a tree without loose ends, if it leads somewhere or
could. -/
theorem replaceable_of_plain {tree : FileTree} {directory : String} {files : List UnitFile}
    (rooted : tree.IsTree) (plain : ".." ∉ pathNames directory) (proper : checkPath directory = .ok ())
    (found : (∃ place, tree.locate directory = .ok place) ∨
      tree.locate directory = .error .notFound) : Replaceable tree directory files := by
  refine ⟨fun _ => straight_of_plain plain, found.imp_right fun missing inside _ stands => ?_⟩
  obtain ⟨between, through, absent⟩ := locate_notFound missing proper
  have above := (prefix_target_of_plain plain through).trans (List.prefix_append _ inside)
  rw [rooted.vacant absent above] at stands
  cases stands

/-- A directory is replaced by one with some units. The path of each unit leads to a file, and where
several paths lead, the last of the units stands. Unless the directory is the top, it holds just the
units exactly if it was replaceable. -/
structure FileTree.Replaced (directory : String) (files : List UnitFile) (tree after : FileTree) :
    Prop where
  located : ∀ file ∈ files, after.locate (joinPath directory file.name) =
    .ok (target tree.home (joinPath directory file.name))
  stands : ∀ place file, lastAt? tree.home directory files place = some file →
    after.at? place = some (.file HostAction.sharedFileMode file.contents.toUTF8)
  holds : target tree.home directory ≠ [] →
    (after.HoldsUnits directory files ↔ Replaceable tree directory files)

theorem isDirectory_of_unitAt {tree : FileTree} {place inside : Place} {files : List UnitFile}
    (same : tree.at? place = unitAt? files inside) : tree.isDirectory place = false := by
  cases stands : unitAt? files inside with
  | none => simp [FileTree.isDirectory, same, stands]
  | some entry =>
    cases inside with
    | nil => cases stands
    | cons name others =>
      cases others with
      | cons => cases stands
      | nil =>
        obtain ⟨file, _, rfl⟩ := Option.map_eq_some_iff.mp stands
        exact isDirectory_of_file (same.trans stands)

namespace HostAction

variable {σ : Type} {before middle after : Host σ} {directory : String} {files : List UnitFile}

/-- A directory that was made anew and was renewable holds files only. -/
theorem flat_of_renewable (renewed : Renewed directory before.files middle.files)
    (renewable : Renewable before.files directory) : middle.files.Flat directory := by
  refine ⟨?_, ?_, fun inside some => ?_⟩
  · rw [renewed.home]
    exact renewed.located
  · rw [renewed.home]
    exact renewed.stands
  · rw [renewed.home, Bool.eq_false_iff]
    intro isDirectory
    obtain through | ⟨nowhere, same⟩ := renewed.below inside some (isSome_of_isDirectory isDirectory)
    · have top := renewable.straight _ through (List.prefix_append _ _)
      exact some (by simpa using top)
    · have proper := (locate_ok_iff.mp renewed.located).1
      rw [isDirectory_congr same, renewable.shown proper nowhere inside some] at isDirectory
      cases isDirectory

/-- A directory that was made anew and was replaceable holds files only. -/
theorem flat_of_replaceable (renewed : Renewed directory before.files middle.files)
    (replaceable : Replaceable before.files directory files) : middle.files.Flat directory :=
  flat_of_renewable renewed replaceable.renewable

/-- The path of a directory that holds just some units does not go below it. -/
theorem straight_of_holdsUnits {tree : FileTree} {place : Place}
    (holds : tree.HoldsUnits directory files) (through : place ∈ passed tree.home directory)
    (below : target tree.home directory <+: place) : place = target tree.home directory := by
  obtain ⟨inside, rfl⟩ := below
  obtain top | isDirectory := isDirectory_of_locate holds.located through
  · exact top
  · apply Classical.byContradiction
    intro other
    have some : inside ≠ [] := by simpa using other
    rw [isDirectory_of_unitAt (holds.units inside some)] at isDirectory
    cases isDirectory

/-- A directory that holds just the units was replaceable before. -/
theorem replaceable_of_holdsUnits (lower : target before.files.home directory ≠ [])
    (run : writeUnits directory files before = (.ok (), after))
    (holds : after.files.HoldsUnits directory files) :
    Replaceable before.files directory files := by
  have home : after.files.home = before.files.home :=
    (writeUnits_touches _ directory files _ _ _ rfl run).2.1.1
  obtain ⟨_, middle, anew, wrote⟩ := bind_ok_iff.mp run
  have renewed := renewDirectory_renewed lower anew
  refine ⟨fun place through below => ?_, renewed.found.imp_right fun nowhere => ?_⟩
  · rw [← home] at through below ⊢
    exact straight_of_holdsUnits holds through below
  · -- what could not be reached is still there
    intro inside some stands
    have kept := (renewed.hidden nowhere _).trans ((writeAll_written wrote).kept
      (target before.files.home directory ++ inside))
    have units := holds.units inside some
    rw [home] at units
    refine ⟨Bool.eq_false_iff.mpr fun isDirectory => ?_, ?_⟩
    · have directoryAfter := kept.1 isDirectory
      rw [isDirectory_of_unitAt units] at directoryAfter
      cases directoryAfter
    · rw [← unitAt?_isSome_iff, ← units]
      exact kept.2 stands

/-- Whatever stands in a directory that was made anew and was replaceable, a unit overwrites. -/
theorem overwritten_of_replaceable {inside : Place}
    (renewed : Renewed directory before.files middle.files)
    (replaceable : Replaceable before.files directory files) (some : inside ≠ [])
    (stands : (middle.files.at? (target before.files.home directory ++ inside)).isSome = true) :
    (unitAt? files inside).isSome = true := by
  obtain through | ⟨nowhere, same⟩ := renewed.below inside some stands
  · have top := replaceable.straight _ through (List.prefix_append _ _)
    exact absurd (by simpa using top) some
  · obtain ⟨place, found⟩ | hidden := replaceable.reached
    · rw [found] at nowhere
      cases nowhere
    · rw [same] at stands
      rw [unitAt?_isSome_iff]
      exact (hidden inside some stands).2

/-- A directory that was replaceable holds just the units. -/
theorem holdsUnits_of_replaceable (lower : target before.files.home directory ≠ [])
    (down : ∀ file ∈ files, LeadsDown file.name)
    (run : writeUnits directory files before = (.ok (), after))
    (replaceable : Replaceable before.files directory files) :
    after.files.HoldsUnits directory files := by
  obtain ⟨_, middle, anew, wrote⟩ := bind_ok_iff.mp run
  have renewed := renewDirectory_renewed lower anew
  have flat := flat_of_replaceable renewed replaceable
  obtain ⟨home, flatAfter, inner, _⟩ := writeAll_flat flat down wrote
  refine ⟨flatAfter.located, flatAfter.stands, fun inside some => ?_⟩
  rw [home, inner]
  cases stands : middle.files.at? (target middle.files.home directory ++ inside) with
  | none => rw [Option.or_none]
  | some entry =>
    rw [renewed.home] at stands
    have overwritten := overwritten_of_replaceable renewed replaceable some (by rw [stands]; rfl)
    obtain ⟨unit, equal⟩ := Option.isSome_iff_exists.mp overwritten
    rw [equal, Option.some_or]

/-- **Once the units are written, the directory holds just the units exactly if it was
replaceable.** -/
theorem writeUnits_holds_iff (lower : target before.files.home directory ≠ [])
    (down : ∀ file ∈ files, LeadsDown file.name)
    (run : writeUnits directory files before = (.ok (), after)) :
    after.files.HoldsUnits directory files ↔ Replaceable before.files directory files :=
  ⟨replaceable_of_holdsUnits lower run, holdsUnits_of_replaceable lower down run⟩

/-- **Writing units replaces the directory.** -/
theorem writeUnits_replaced (down : ∀ file ∈ files, LeadsDown file.name)
    (run : writeUnits directory files before = (.ok (), after)) :
    Replaced directory files before.files after.files := by
  obtain ⟨_, middle, anew, wrote⟩ := bind_ok_iff.mp run
  have home := (renewDirectory_touches _ directory files _ _ _ rfl anew).2.1.1
  obtain ⟨_, located, stands, _⟩ := writeAll_written wrote
  rw [home] at located stands
  refine ⟨located, fun place file last => ?_, fun lower => writeUnits_holds_iff lower down run⟩
  rw [stands, last, Option.map_some, Option.some_or]

/-- Units that are written into a directory without double dots had a replaceable one. -/
theorem writeUnits_replaceable (lower : target before.files.home directory ≠ [])
    (run : writeUnits directory files before = (.ok (), after)) (rooted : before.files.IsTree)
    (plain : ".." ∉ pathNames directory) : Replaceable before.files directory files := by
  obtain ⟨_, middle, anew, _⟩ := bind_ok_iff.mp run
  have renewed := renewDirectory_renewed lower anew
  exact replaceable_of_plain rooted plain (locate_ok_iff.mp renewed.located).1 renewed.found

theorem writeUnits_located (lower : target before.files.home directory ≠ [])
    (run : writeUnits directory files before = (.ok (), after)) :
    after.files.locate directory = .ok (target before.files.home directory) := by
  obtain ⟨_, middle, anew, wrote⟩ := bind_ok_iff.mp run
  have renewed := renewDirectory_renewed lower anew
  have home : after.files.home = middle.files.home :=
    (writeUnits_touches _ directory files _ _ _ rfl run).2.1.1.trans renewed.home.symm
  exact locate_mono home (fun between _ => (writeAll_written wrote).kept between) renewed.located

end HostAction

end HostNet
