/-
**An apply stays within its paths.**

The names of the devices go into the names of the units as they are, with slashes and double dots.
Still an apply changes nothing but the directory of the units and the two files, and makes nothing
else but directories on the way to these, however it ends. A unit that is written has a rank in front
of its name, so it leads below the directory first; there it finds files only, and no way on.

The directory holds files only because it was made anew. Where it was not, because its path led
nowhere although something stood at its target, a directory that is left in it opens the way out:
`detour_escapes`.

* `Paths.Contain`: two trees differ only in what an apply may change, and in directories on the way;
* `networkFiles_within`: what the stage of the units changes in any case;
* `apply_isTree` and `apply_contained`: the whole apply, from its stages.
-/

import HostNet.Proofs.Apply.Installed

namespace HostNet

open FileTree HostAction HostNet.Action

/-! ### The places of an apply -/

/-- The places that an apply may change: the directory of the units with all below it, and the two
files. -/
def Paths.Owned (home : Place) (paths : Paths) (place : Place) : Prop :=
  target home paths.networkDirectory <+: place ∨ place = target home paths.timesyncFile ∨
    place = target home paths.proxyFile

instance (home : Place) (paths : Paths) (place : Place) : Decidable (paths.Owned home place) :=
  inferInstanceAs (Decidable (_ ∨ _ ∨ _))

/-- The places where an apply may make directories: those on the way to what it may change. -/
def Paths.Passed (home : Place) (paths : Paths) (place : Place) : Prop :=
  place ∈ passed home paths.networkDirectory ∨ place ∈ passed home paths.timesyncFile ∨
    place ∈ passed home paths.proxyFile

/-- Two trees differ only in what an apply may change and in directories that it may make. -/
def Paths.Contain (paths : Paths) (before after : FileTree) : Prop :=
  Contained (paths.Owned before.home) (paths.Passed before.home) before after

theorem Stage.Owns.owned {home place : Place} {paths : Paths} {stage : Stage}
    (owns : stage.Owns home paths place) : paths.Owned home place := by
  cases stage with
  | proxy => exact .inr (.inr owns)
  | networkFiles => exact .inl owns
  | timesync => exact .inr (.inl owns)
  | validate | hostname | renameWait | networkRestart | timesyncRestart | onlineWait => cases owns

theorem Stage.Passes.passed {home place : Place} {paths : Paths} {stage : Stage}
    (passes : stage.Passes home paths place) : paths.Passed home place := by
  obtain ⟨path, here, through⟩ := passes
  cases stage <;> cases here
  · exact .inr (.inr through)
  · exact .inl through
  · exact .inr (.inl through)

namespace Applier

variable {σ : Type} {applier : Applier σ} {config : NetworkConfig} {timeout : Duration}
  {started : Nat} {owned way : Place → Prop} {start : FileTree} {before after : Host σ}
  {result : Except (Halt ApplyFailure) Unit}

/-- The stage of the units changes, besides the directory, only places to which units lead. -/
theorem networkFiles_within
    (owns : ∀ place, target start.home applier.settings.paths.networkDirectory <+: place → owned place)
    (passes : ∀ place ∈ passed start.home applier.settings.paths.networkDirectory, way place)
    (units : ∀ file ∈ config.units,
      owned (target start.home (joinPath applier.settings.paths.networkDirectory file.name))) :
    Maintains (Within owned way start)
      (applier.carryOut config timeout started .networkFiles) :=
  mapFailure_maintains ((renewDirectory_within _ owns passes).bind fun _ =>
    Maintains.forM fun file member => writeUnit_within _ file (units file member))

/-! ### From the stages to the whole apply -/

/-- **A tree stays a tree through an apply**, however it ends. -/
theorem apply_isTree (rooted : before.files.IsTree)
    (run : applier.apply config timeout before = (result, after)) : after.files.IsTree := by
  refine apply_keeps (IsTree ·.files) rooted (fun stage _ _ _ _ held ran => ?_) run
  exact carryOut_isTree stage _ _ _ held ran

/-- **An apply stays within its paths, whatever the devices are called and however it ends.** If the
directory of the units is renewable when its stage begins, nothing changes but the directory and the
two files, and nothing is made but directories on the way to them. So it is for a path of the
directory without double dots. In any case nothing else changes but what stands where the name of a
unit leads. -/
theorem apply_contained (run : applier.apply config timeout before = (result, after)) :
    ((∀ second,
      Carried applier config timeout before.clock Stage.networkFiles.earlier before second →
        Renewable second.files applier.settings.paths.networkDirectory) →
      applier.settings.paths.Contain before.files after.files) ∧
    (before.files.IsTree → ".." ∉ pathNames applier.settings.paths.networkDirectory →
      applier.settings.paths.Contain before.files after.files) ∧
    Contained (fun place => applier.settings.paths.Owned before.files.home place ∨
        ∃ file ∈ config.units, place = target before.files.home
          (joinPath applier.settings.paths.networkDirectory file.name))
      (applier.settings.paths.Passed before.files.home) before.files after.files := by
  have start := Contained.refl (applier.settings.paths.Owned before.files.home)
    (applier.settings.paths.Passed before.files.home) before.files
  refine ⟨fun renewable => ?_, fun rooted plain => ?_, ?_⟩
  · refine apply_keeps (Within _ _ before.files) start (fun stage middle _ _ carried held ran => ?_)
      run
    refine carryOut_contained (fun _ => Stage.Owns.owned) (fun _ => Stage.Passes.passed)
      (fun units => ?_) held ran
    subst units
    exact renewable middle carried
  · refine (apply_keeps (fun host => host.files.IsTree ∧ Within _ _ before.files host)
      ⟨rooted, start⟩ (fun stage _ _ _ _ held ran => ⟨?_, ?_⟩) run).2
    · exact carryOut_isTree stage _ _ _ held.1 ran
    · exact carryOut_contained (fun _ => Stage.Owns.owned) (fun _ => Stage.Passes.passed)
        (fun _ => renewable_of_plain held.1 plain) held.2 ran
  · refine apply_keeps (Within _ _ before.files) (Contained.refl _ _ _)
      (fun stage _ _ _ _ held ran => ?_) run
    by_cases units : stage = .networkFiles
    · subst units
      exact networkFiles_within (fun _ below => .inl (.inl below)) (fun _ => .inl)
        (fun file member => .inr ⟨file, member, rfl⟩) _ _ _ held ran
    · exact carryOut_within units (fun _ owns => .inl owns.owned) (fun _ => Stage.Passes.passed)
        _ _ _ held ran

/-- A configuration with a device whose name leads out of the directory. -/
def sly : NetworkConfig where
  interfaces := [{ name := "a/../../evil", hwaddr := "aa:00:00:00:00:01" }]

/-- The units of the device cannot be written, and nothing else changes. -/
theorem sly_contained :
    ((calm {}).apply sly (.ofSecs 30) cluttered).1 = .error (.failed (.hostFailed .networkFiles
        (.fileFailed "/run/systemd/network/10-bra/../../evil.netdev" .notFound))) ∧
      ({} : Paths).Contain cluttered.files ((calm {}).apply sly (.ofSecs 30) cluttered).2.files := by
  refine ⟨by decide +kernel, ?_⟩
  rcases run : (calm {}).apply sly (.ofSecs 30) cluttered with ⟨result, after⟩
  refine (apply_contained run).2.1 (FileTree.isTree_of_entries ?_) ?_
  · decide +kernel
  · decide +kernel

/-- A host whose directory of units holds a directory, with relative paths from the top. -/
def trapped : Host Unit where
  runner := ()
  files := { entries := [(["network"], .directory 0o755),
    (["network", "10-bra"], .directory 0o755)] }

/-- A directory that was left in that of the units leads a unit out of it. -/
theorem detour_escapes :
    trapped.files.at? ["evil.netdev"] = none ∧
      ¬ detour.Contain trapped.files ((calm detour).apply sly (.ofSecs 30) trapped).2.files := by
  refine ⟨rfl, fun contained => ?_⟩
  have made : (((calm detour).apply sly (.ofSecs 30) trapped).2.files.at? ["evil.netdev"]).isSome =
      true := by decide +kernel
  have file : ((calm detour).apply sly (.ofSecs 30) trapped).2.files.isDirectory ["evil.netdev"] =
      false := by decide +kernel
  obtain same | owned | ⟨_, _, directory⟩ := contained.places ["evil.netdev"]
  · rw [same] at made
    cases made
  · exact absurd owned (by decide +kernel)
  · rw [isDirectory, directory] at file
    cases file

end Applier

end HostNet
