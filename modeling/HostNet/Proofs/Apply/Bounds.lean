/-
**What the steps of an apply may change.**

A step that works on files changes the places that it owns: a file, or the directory of the units with
all below it. Besides it makes directories on the way to these, where nothing stood. A unit has a rank
in front of its name, so it leads below the directory first; there it finds files only, and no way on.
This takes a directory that was made anew.

* `FileTree.Contained`: two trees differ at some places at most, and in new directories at others;
* `writeUnit_filled` and `writeUnits_within`: a unit in a directory of files, and all units in one
  that is made anew;
* `Stage.Owns` and `Stage.Passes`: the places that a stage may change, and those on the way there;
* `carryOut_contained`: no stage changes anything else, and `carryOut_isTree`: it leaves a tree a tree.
-/

import HostNet.Proofs.Apply.Directory
import HostNet.Proofs.Apply.Order
import HostNet.Proofs.Host.Rooted
import HostNet.Proofs.Unit.Names

namespace HostNet

open FileTree HostAction HostNet.Action

/-! ### Changes within bounds -/

namespace FileTree

/-- Two trees differ at most at owned places, and in new directories at places on the way, where
nothing stood. -/
structure Contained (owned way : Place → Prop) (tree after : FileTree) : Prop where
  home : after.home = tree.home
  places : ∀ place, after.at? place = tree.at? place ∨ owned place ∨
    (way place ∧ tree.at? place = none ∧ after.at? place = some (.directory directoryMode))

namespace Contained

variable {owned more way touched : Place → Prop} {start tree after : FileTree}

theorem refl (owned way : Place → Prop) (tree : FileTree) : Contained owned way tree tree :=
  ⟨rfl, fun _ => .inl rfl⟩

/-- Changes at owned places stay within the bounds. -/
theorem confined (contained : Contained owned way start tree) (step : Confined touched tree after)
    (within : ∀ place, touched place → owned place) : Contained owned way start after := by
  refine ⟨step.1.trans contained.home, fun place => ?_⟩
  by_cases inside : owned place
  · exact .inr (.inl inside)
  · rw [step.2 place fun touches => inside (within place touches)]
    exact contained.places place

/-- New directories on the way stay within the bounds. -/
theorem adds {places : List Place} (contained : Contained owned way start tree)
    (step : Adds places tree after) (within : ∀ place ∈ places, way place) :
    Contained owned way start after := by
  refine ⟨step.home.trans contained.home, fun place => ?_⟩
  obtain same | ⟨inside, absent, made⟩ := step.entries place
  · rw [same]
    exact contained.places place
  · obtain same | owns | ⟨_, _, stands⟩ := contained.places place
    · exact .inr (.inr ⟨within place inside, same ▸ absent, made⟩)
    · exact .inr (.inl owns)
    · rw [stands] at absent
      cases absent

/-- Elsewhere nothing changes. -/
theorem at?_eq {place : Place} (contained : Contained owned way tree after)
    (outside : ¬ owned place) (aside : ¬ way place) : after.at? place = tree.at? place :=
  (contained.places place).resolve_right fun inside =>
    inside.elim outside fun passed => aside passed.1

/-- Nothing is lost but at owned places. -/
theorem kept {place : Place} (contained : Contained owned way tree after)
    (outside : ¬ owned place) : Kept tree after place := by
  obtain same | owns | ⟨_, _, made⟩ := contained.places place
  · exact Kept.of_at? same
  · exact absurd owns outside
  · have directory := isDirectory_iff.mpr ⟨_, made⟩
    exact ⟨fun _ => directory, fun _ => isSome_of_isDirectory directory⟩

end Contained

end FileTree

namespace HostAction

variable {σ α : Type} {owned way touched : Place → Prop} {start : FileTree}

/-- The files of a host differ from a tree within bounds. -/
def Within (owned way : Place → Prop) (start : FileTree) (host : Host σ) : Prop :=
  Contained owned way start host.files

theorem Touches.within {ε : Type} {action : HostAction σ ε α}
    (touches : Touches start.home action touched) (owns : ∀ place, touched place → owned place) :
    Maintains (Within owned way start) action := by
  intro before result after contained run
  have confined := (touches _ _ _ contained.home run).2.1
  exact contained.confined confined owns

theorem createTree_within (path : String) (passes : ∀ place ∈ passed start.home path, way place) :
    Maintains (Within owned way start)
      (onPath path (createTree path) : HostAction σ HostFailure Unit) := by
  refine onPath_maintains fun tree result after contained run => ?_
  have adds := (createTreeFrom_cases run).1
  rw [contained.home] at adds
  exact contained.adds adds passes

/-! ### The steps of an apply -/

theorem createParent_within (path : String) (passes : ∀ place ∈ passed start.home path, way place) :
    Maintains (Within owned way start) (createParent path : HostAction σ HostFailure Unit) := by
  unfold createParent
  split
  · rename_i parent found
    exact createTree_within parent fun place through => passes place (passed_parent found through)
  · exact Maintains.pure _

/-- Writing or removing a file changes the file, and makes directories on the way to it. -/
theorem updateFile_within (path : String) (text : Option String)
    (owns : owned (target start.home path)) (passes : ∀ place ∈ passed start.home path, way place) :
    Maintains (Within owned way start) (updateFile path text : HostAction σ HostFailure Unit) := by
  have single : ∀ place, place = target start.home path → owned place := by
    rintro _ rfl
    exact owns
  cases text with
  | some text =>
    exact (createParent_within path passes).bind fun _ =>
      (writeText_touches start.home path text).within single
  | none => exact (removeFile_touches start.home path).within single

theorem updateTimesync_within (path : String) (ntp : Option Ntp)
    (owns : owned (target start.home path)) (passes : ∀ place ∈ passed start.home path, way place) :
    Maintains (Within owned way start)
      (updateTimesync path ntp : HostAction σ HostFailure Unit) := by
  refine (updateFile_within path _ owns passes).bind fun _ => ?_
  split
  · refine (setMode_touches start.home path _).within ?_
    rintro _ rfl
    exact owns
  · exact Maintains.pure _

/-- Making a directory anew changes what lies at or below it, and makes directories on the way. -/
theorem renewDirectory_within (directory : String)
    (owns : ∀ place, target start.home directory <+: place → owned place)
    (passes : ∀ place ∈ passed start.home directory, way place) :
    Maintains (Within owned way start)
      (renewDirectory directory : HostAction σ HostFailure Unit) := by
  refine ((removeTree_touches start.home directory).within owns).bind fun _ =>
    (createTree_within directory passes).bind fun _ =>
      (setMode_touches start.home directory _).within ?_
  rintro _ rfl
  exact owns _ (List.prefix_refl _)

/-- A unit changes the place to which its name leads. -/
theorem writeUnit_within (directory : String) (file : UnitFile)
    (owns : owned (target start.home (joinPath directory file.name))) :
    Maintains (Within owned way start)
      (writeUnit directory file : HostAction σ HostFailure Unit) := by
  have single : ∀ place, place = target start.home (joinPath directory file.name) → owned place := by
    rintro _ rfl
    exact owns
  exact ((writeText_touches start.home _ _).within single).bind fun _ =>
    (setMode_touches start.home _ _).within single

/-! ### Units in a directory of files -/

/-- A tree differs from another one inside a directory only, which holds files only. -/
structure Filled (directory : String) (start tree : FileTree) : Prop where
  flat : tree.Flat directory
  confined : Confined (target start.home directory <+: ·) start tree

/-- A file that is put straight into the directory. -/
theorem Filled.put {directory name : String} {tree : FileTree} {mode : Nat} {contents : ByteArray}
    (filled : Filled directory start tree) :
    Filled directory start
      (tree.put (target tree.home directory ++ [name]) (.file mode contents)) := by
  refine ⟨filled.flat.put, filled.confined.trans ((Confined.put tree _ _).mono ?_)⟩
  rintro _ rfl
  rw [filled.confined.1]
  exact List.prefix_append _ _

/-- **A unit leaves a directory of files one, and everything else as it is**, whether it can be
written or not. -/
theorem writeUnit_filled {directory : String} {file : UnitFile} (down : LeadsDown file.name) :
    Maintains (Filled directory start ·.files)
      (writeUnit directory file : HostAction σ HostFailure Unit) := by
  refine (onPath_maintains fun tree result after filled run => ?_).bind fun _ =>
    onPath_maintains fun tree result after filled run => ?_
  · obtain ⟨_, _, rfl⟩ | ⟨rfl, _⟩ := write_cases run
    · exact filled
    · obtain ⟨_, mode, rfl⟩ := filled.flat.write down run
      exact filled.put
  · obtain ⟨_, _, rfl⟩ | ⟨_, place, entry, found, stands, rfl⟩ := setMode_cases run
    · exact filled
    · have straight := filled.flat.locate down found
      subst straight
      have file := filled.flat.files [file.name] (by simp)
      cases entry with
      | directory mode => simp [isDirectory, stands] at file
      | file _ contents => exact filled.put

/-- **Units are written into a renewable directory, or nowhere**, however many of them can be
written. -/
theorem writeUnits_within {directory : String} {files : List UnitFile}
    (owns : ∀ place, target start.home directory <+: place → owned place)
    (passes : ∀ place ∈ passed start.home directory, way place)
    (down : ∀ file ∈ files, LeadsDown file.name) {before after : Host σ}
    {result : Except (Halt HostFailure) Unit} (contained : Within owned way start before)
    (renewable : Renewable before.files directory)
    (run : writeUnits directory files before = (result, after)) : Within owned way start after := by
  have renews : Maintains (Within owned way start)
      (renewDirectory directory : HostAction σ HostFailure Unit) :=
    renewDirectory_within directory owns passes
  by_cases top : target start.home directory = []
  · -- everything lies below the top
    have all : ∀ place, owned place := fun place => owns place (by rw [top]; exact List.nil_prefix)
    have writes : Maintains (Within owned way start)
        (files.forM (writeUnit directory) : HostAction σ HostFailure Unit) :=
      Maintains.forM fun file _ => writeUnit_within directory file (all _)
    exact renews.bind (fun _ => writes) _ _ _ contained run
  · rcases anew : renewDirectory directory before with ⟨halt | _, middle⟩
    · have stopped : writeUnits directory files before = (.error halt, middle) := bind_of_error anew _
      rw [stopped] at run
      cases run
      exact renews _ _ _ contained anew
    · have onward : writeUnits directory files before = files.forM (writeUnit directory) middle :=
        bind_of_ok anew _
      rw [onward] at run
      have containedMiddle := renews _ _ _ contained anew
      rw [← contained.home] at top
      have flat := flat_of_renewable (renewDirectory_renewed top anew) renewable
      have writes : Maintains (Filled directory middle.files ·.files)
          (files.forM (writeUnit directory) : HostAction σ HostFailure Unit) :=
        Maintains.forM fun file member => writeUnit_filled (down file member)
      have filled := writes _ _ _ ⟨flat, Confined.refl _ _⟩ run
      refine containedMiddle.confined filled.confined fun place below => owns place ?_
      rw [← containedMiddle.home]
      exact below

/-! ### A tree stays a tree -/

theorem updateFile_isTree (path : String) (text : Option String) :
    Maintains (IsTree ·.files) (updateFile path text : HostAction σ HostFailure Unit) := by
  cases text with
  | some text =>
    have parent : Maintains (IsTree ·.files)
        (createParent path : HostAction σ HostFailure Unit) := by
      unfold createParent
      split
      · exact onPath_maintains (createTree_isTree _)
      · exact Maintains.pure _
    exact parent.bind fun _ => onPath_maintains (write_isTree _ _)
  | none => exact onPath_maintains (ifThere_maintains (removeFile_isTree _))

theorem updateTimesync_isTree (path : String) (ntp : Option Ntp) :
    Maintains (IsTree ·.files) (updateTimesync path ntp : HostAction σ HostFailure Unit) := by
  refine (updateFile_isTree path _).bind fun _ => ?_
  split
  · exact onPath_maintains (setMode_isTree _ _)
  · exact Maintains.pure _

theorem writeUnits_isTree (directory : String) (files : List UnitFile) :
    Maintains (IsTree ·.files) (writeUnits directory files : HostAction σ HostFailure Unit) := by
  have renews : Maintains (IsTree ·.files)
      (renewDirectory directory : HostAction σ HostFailure Unit) :=
    (onPath_maintains (ifThere_maintains (removeTree_isTree _))).bind fun _ =>
      (onPath_maintains (createTree_isTree _)).bind fun _ => onPath_maintains (setMode_isTree _ _)
  refine renews.bind fun _ => Maintains.forM fun file _ => ?_
  exact (onPath_maintains (write_isTree _ _)).bind fun _ => onPath_maintains (setMode_isTree _ _)

end HostAction

/-- The name of a unit leads down. -/
theorem NetworkConfig.leadsDown_of_mem {config : NetworkConfig} {file : UnitFile}
    (member : file ∈ config.units) : LeadsDown file.name := by
  obtain ⟨rank, known, rest, named⟩ := NetworkConfig.exists_rank member
  have digits : ∃ head tail, rank.toList = head :: tail ∧ head ≠ '/' ∧ head ≠ '.' := by
    simp only [List.mem_cons, List.not_mem_nil, or_false] at known
    rcases known with rfl | rfl | rfl | rfl | rfl | rfl | rfl | rfl <;>
      exact ⟨_, _, rfl, by decide, by decide⟩
  obtain ⟨head, tail, whole, noSlash, noDot⟩ := digits
  have spelled : file.name.toList = head :: (tail ++ rest.toList) := by
    rw [named, String.toList_append, whole]
    rfl
  exact leadsDown_of_head spelled noSlash noDot

/-! ### The stages -/

/-- The path on which a stage works. -/
def Stage.path? (paths : Paths) : Stage → Option String
  | .proxy => some paths.proxyFile
  | .networkFiles => some paths.networkDirectory
  | .timesync => some paths.timesyncFile
  | .validate | .hostname | .renameWait | .networkRestart | .timesyncRestart | .onlineWait => none

/-- The places that a stage may change. -/
def Stage.Owns (home : Place) (paths : Paths) : Stage → Place → Prop
  | .proxy => (· = target home paths.proxyFile)
  | .networkFiles => (target home paths.networkDirectory <+: ·)
  | .timesync => (· = target home paths.timesyncFile)
  | .validate | .hostname | .renameWait | .networkRestart | .timesyncRestart | .onlineWait =>
    fun _ => False

/-- The places where a stage may make directories. -/
def Stage.Passes (home : Place) (paths : Paths) (stage : Stage) (place : Place) : Prop :=
  ∃ path, stage.path? paths = some path ∧ place ∈ passed home path

namespace Applier

variable {σ : Type} {applier : Applier σ} {config : NetworkConfig} {timeout : Duration}
  {started : Nat} {owned way : Place → Prop} {start : FileTree} {stage : Stage}
  {before after : Host σ} {result : Except (Halt ApplyFailure) Unit}

/-- A stage that does not work on files leaves them alone. -/
theorem files_of_carryOut (still : stage.worksOnFiles = false)
    (run : applier.carryOut config timeout started stage before = (result, after)) :
    after.files = before.files :=
  (carryOut_records stage still _ _ _ run).1

/-- A stage that does not work on files keeps whatever holds of them. -/
theorem carryOut_still {kept : FileTree → Prop} (still : stage.worksOnFiles = false) :
    Maintains (kept ·.files) (applier.carryOut config timeout started stage) := by
  intro before result after held run
  rw [files_of_carryOut still run]
  exact held

/-- A stage leaves a tree a tree. -/
theorem carryOut_isTree (stage : Stage) :
    Maintains (IsTree ·.files) (applier.carryOut config timeout started stage) := by
  cases stage with
  | proxy => exact mapFailure_maintains (updateFile_isTree _ _)
  | networkFiles => exact mapFailure_maintains (writeUnits_isTree _ _)
  | timesync => exact mapFailure_maintains (updateTimesync_isTree _ _)
  | validate | hostname | renameWait | networkRestart | timesyncRestart | onlineWait =>
    exact carryOut_still rfl

theorem Carried.isTree {stages : List Stage} (rooted : before.files.IsTree)
    (carried : Carried applier config timeout started stages before after) : after.files.IsTree := by
  induction carried with
  | done host => exact rooted
  | next first others ih => exact ih (carryOut_isTree _ _ _ _ rooted first)

theorem Carried.files_eq {stages : List Stage} (still : ∀ stage ∈ stages, stage.worksOnFiles = false)
    (carried : Carried applier config timeout started stages before after) :
    after.files = before.files := by
  induction carried with
  | done host => rfl
  | next first others ih =>
    rw [List.forall_mem_cons] at still
    exact (ih still.2).trans (files_of_carryOut still.1 first)

/-- A stage other than that of the units changes what it owns. -/
theorem carryOut_within (other : stage ≠ .networkFiles)
    (owns : ∀ place, stage.Owns start.home applier.settings.paths place → owned place)
    (passes : ∀ place, stage.Passes start.home applier.settings.paths place → way place) :
    Maintains (Within owned way start) (applier.carryOut config timeout started stage) := by
  cases stage with
  | proxy =>
    exact mapFailure_maintains (updateFile_within _ _ (owns _ rfl) fun place through =>
      passes place ⟨_, rfl, through⟩)
  | networkFiles => exact absurd rfl other
  | timesync =>
    exact mapFailure_maintains (updateTimesync_within _ _ (owns _ rfl) fun place through =>
      passes place ⟨_, rfl, through⟩)
  | validate | hostname | renameWait | networkRestart | timesyncRestart | onlineWait =>
    exact carryOut_still rfl

/-- **A stage changes what it owns and makes directories on the way there**, if the directory is
renewable when it is the stage of the units. -/
theorem carryOut_contained
    (owns : ∀ place, stage.Owns start.home applier.settings.paths place → owned place)
    (passes : ∀ place, stage.Passes start.home applier.settings.paths place → way place)
    (renewable : stage = .networkFiles →
      Renewable before.files applier.settings.paths.networkDirectory)
    (held : Within owned way start before)
    (ran : applier.carryOut config timeout started stage before = (result, after)) :
    Within owned way start after := by
  by_cases units : stage = .networkFiles
  · subst units
    obtain ⟨_, written⟩ := mapFailure_cases ran
    exact writeUnits_within owns (fun place through => passes place ⟨_, rfl, through⟩)
      (fun file member => NetworkConfig.leadsDown_of_mem member) held (renewable rfl) written
  · exact carryOut_within units owns passes _ _ _ held ran

end Applier

end HostNet
