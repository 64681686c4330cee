/-
**Which places the steps of an apply touch.**

A file that is written or removed is touched together with the places on the way to it. The
directory of the units is touched with all that lies at or below it, and with the target of each
unit's path, wherever the name of the unit leads.

* `updateFile_touches`, `updateTimesync_touches` and `writeUnits_touches`: the three steps that
  work on files.
-/

import HostNet.Proofs.Host.Confined

namespace HostNet.HostAction

open FileTree

variable {σ : Type} {home : Place}

theorem createParent_touches (home : Place) (path : String) :
    Touches home (createParent path : HostAction σ HostFailure Unit) (· ∈ passed home path) := by
  unfold createParent
  split
  · rename_i parent found
    refine onPath_touches fun tree result after starts run => ?_
    have confined := createTree_confined run
    rw [starts] at confined
    exact confined.mono fun place => passed_parent found
  · exact Touches.pure _ _ _

theorem writeText_touches (home : Place) (path text : String) :
    Touches home (writeText path text : HostAction σ HostFailure Unit) (· = target home path) := by
  refine onPath_touches fun tree result after starts run => ?_
  rw [← starts]
  exact write_confined run

theorem setMode_touches (home : Place) (path : String) (mode : Nat) :
    Touches home (onPath path (FileTree.setMode path mode) : HostAction σ HostFailure Unit)
      (· = target home path) := by
  refine onPath_touches fun tree result after starts run => ?_
  rw [← starts]
  exact setMode_confined run

theorem passed_of_target {path : String} (place : Place) (same : place = target home path) :
    place ∈ passed home path :=
  same ▸ target_mem_passed home path

theorem removeFile_touches (home : Place) (path : String) :
    Touches home (onPath path (FileTree.ifThere (FileTree.removeFile path)) :
      HostAction σ HostFailure Unit) (· = target home path) := by
  refine onPath_touches fun tree result after starts run => ?_
  rw [← starts]
  exact ifThere_confined run fun _ _ plain => removeFile_confined plain

theorem removeTree_touches (home : Place) (path : String) :
    Touches home (onPath path (FileTree.ifThere (FileTree.removeTree path)) :
      HostAction σ HostFailure Unit) (target home path <+: ·) := by
  refine onPath_touches fun tree result after starts run => ?_
  rw [← starts]
  exact ifThere_confined run fun _ _ plain => removeTree_confined plain

/-- Writing or removing a file touches the file and the places on the way to it. -/
theorem updateFile_touches (home : Place) (path : String) (text : Option String) :
    Touches home (updateFile path text : HostAction σ HostFailure Unit) (· ∈ passed home path) := by
  cases text with
  | some text =>
    exact (createParent_touches home path).bind fun _ =>
      (writeText_touches home path text).mono passed_of_target
  | none => exact (removeFile_touches home path).mono passed_of_target

theorem updateTimesync_touches (home : Place) (path : String) (ntp : Option Ntp) :
    Touches home (updateTimesync path ntp : HostAction σ HostFailure Unit)
      (· ∈ passed home path) := by
  refine (updateFile_touches home path _).bind fun _ => ?_
  split
  · exact (setMode_touches home path _).mono passed_of_target
  · exact Touches.pure _ _ _

/-- The places that writing units into a directory may touch. -/
def UnitPlace (home : Place) (directory : String) (files : List UnitFile) (place : Place) : Prop :=
  place ∈ passed home directory ∨ target home directory <+: place ∨
    ∃ file ∈ files, place = target home (joinPath directory file.name)

theorem renewDirectory_touches (home : Place) (directory : String) (files : List UnitFile) :
    Touches home (renewDirectory directory : HostAction σ HostFailure Unit)
      (UnitPlace home directory files) := by
  refine ((removeTree_touches home directory).mono fun place below => .inr (.inl below)).bind fun _ =>
    (onPath_touches fun tree result after starts run => ?_).bind fun _ =>
      (setMode_touches home directory _).mono fun place same => .inl (passed_of_target place same)
  rw [← starts]
  exact (createTree_confined run).mono fun place inside => .inl inside

/-- Writing units into a directory touches the directory and the places of the units. -/
theorem writeUnits_touches (home : Place) (directory : String) (files : List UnitFile) :
    Touches home (writeUnits directory files : HostAction σ HostFailure Unit)
      (UnitPlace home directory files) := by
  refine (renewDirectory_touches home directory files).bind fun _ => Touches.forM ?_
  intro file member
  have inside : ∀ place, place = target home (joinPath directory file.name) →
      UnitPlace home directory files place :=
    fun place same => .inr (.inr ⟨file, member, same⟩)
  exact ((writeText_touches home _ _).mono inside).bind fun _ =>
    (setMode_touches home _ _).mono inside

end HostNet.HostAction
