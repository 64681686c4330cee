/-
**What an apply that succeeds leaves behind.**

The directory of the units should hold just the units of the configuration, the last one of each
name; the files of the time servers and of the proxies should hold their texts, or not be there.
None of this depends on what was there before.

### When it is so

Two steps take it for success that there is nothing to remove: that of the directory, and that of
the file of the proxies. A path with double dots may lead nowhere because a directory on its way is
missing, although something stands at its target; once the apply has made that directory, the path
leads to what stood there all along. `Lasting.installed_iff` says that this, and a directory whose path
goes below its own target, are all that can go wrong. For paths without double dots in a tree without
loose ends neither can happen.

### Again

An apply that succeeds after another one with this outcome finds all paths leading where they
should, and has the same outcome: `replaceable_of_installed` and `not_exposed_of_installed`.

* `Installed`: what should be left behind;
* `FilesDone`: the three steps of an apply that work on files, one after the other.
-/

import HostNet.Proofs.Apply.Lasting
import Mathlib.Data.Prod.Basic

namespace HostNet

open FileTree HostAction HostNet.Action

/-! ### What is left behind -/

/-- What an apply of a configuration leaves behind. -/
structure Installed (config : NetworkConfig) (paths : Paths) (tree : FileTree) : Prop where
  directory : tree.HoldsUnits paths.networkDirectory config.units
  timesync : tree.Holds paths.timesyncFile (timesyncText? config.ntp)
  proxy : tree.Holds paths.proxyFile (proxyEnvironment? config.proxy)

/-- Two trees hold the same at the paths of an apply. -/
structure SameOutcome (paths : Paths) (tree other : FileTree) : Prop where
  directory : ∀ inside, tree.at? (target tree.home paths.networkDirectory ++ inside) =
    other.at? (target other.home paths.networkDirectory ++ inside)
  timesync : ∀ contents, tree.contents paths.timesyncFile = .ok contents ↔
    other.contents paths.timesyncFile = .ok contents
  proxy : ∀ contents, tree.contents paths.proxyFile = .ok contents ↔
    other.contents paths.proxyFile = .ok contents

/-- What is left behind depends on the configuration only. -/
theorem Installed.same {config : NetworkConfig} {paths : Paths} {tree other : FileTree}
    (here : Installed config paths tree) (there : Installed config paths other) :
    SameOutcome paths tree other := by
  refine ⟨fun inside => ?_, fun contents => ?_, fun contents => ?_⟩
  · by_cases top : inside = []
    · rw [top, List.append_nil, List.append_nil, here.directory.stands, there.directory.stands]
    · rw [here.directory.units inside top, there.directory.units inside top]
  · rw [here.timesync.contents_eq_iff, there.timesync.contents_eq_iff]
  · rw [here.proxy.contents_eq_iff, there.proxy.contents_eq_iff]

namespace Applier

variable {σ : Type} {applier : Applier σ} {config : NetworkConfig} {timeout : Duration}
  {started : Nat} {before after : Host σ}

/-- **What an apply leaves behind is what it should, exactly if the directory was replaceable and
no file of proxies came to light.** -/
theorem Lasting.installed_iff
    (lasting : Lasting applier config timeout before (fun _ => True) after) :
    ∃ second,
      Carried applier config timeout before.clock Stage.networkFiles.earlier before second ∧
        (Installed config applier.settings.paths after.files ↔
          Replaceable second.files applier.settings.paths.networkDirectory config.units ∧
            (proxyEnvironment? config.proxy = none →
              ¬ Exposed applier.settings.paths.proxyFile before.files after.files)) := by
  obtain ⟨second, early, units⟩ := lasting.units trivial
  refine ⟨second, early, ?_, ?_⟩
  · rintro ⟨directory, _, proxy⟩
    refine ⟨units.mp directory, fun none => ?_⟩
    rw [none] at proxy
    exact proxy.not_exposed
  · rintro ⟨replaceable, hidden⟩
    have proxy := lasting.proxy trivial fun _ carried => by
      rw [← early.unique carried]
      exact replaceable.renewable
    exact ⟨units.mpr replaceable, lasting.timesync trivial, proxy.mpr hidden⟩

theorem Lasting.installed_of_plain
    (lasting : Lasting applier config timeout before (fun _ => True) after)
    (rooted : before.files.IsTree)
    (directoryPlain : ".." ∉ pathNames applier.settings.paths.networkDirectory)
    (proxyPlain : ".." ∉ pathNames applier.settings.paths.proxyFile) :
    Installed config applier.settings.paths after.files := by
  obtain ⟨units, proxy⟩ := lasting.plain rooted directoryPlain
  exact ⟨units trivial, lasting.timesync trivial, proxy trivial proxyPlain⟩

/-! ### Again -/

/-- What an apply that succeeds has done to the files: the file of the proxies was updated, then the
units were written, then the file of the time servers was updated. -/
structure FilesDone (paths : Paths) (config : NetworkConfig) (before after : FileTree)
    (second third : Host σ) : Prop where
  proxy : Updated paths.proxyFile (proxyEnvironment? config.proxy) before second.files
  units : writeUnits paths.networkDirectory config.units second = (.ok (), third)
  timesync : Updated paths.timesyncFile (timesyncText? config.ntp) third.files after
  timesyncConfined : Confined (· ∈ passed before.home paths.timesyncFile) third.files after

theorem Carried.filesDone
    (carried : Carried applier config timeout started Stage.all before after) :
    ∃ second third, Carried applier config timeout started Stage.networkFiles.earlier before second ∧
      FilesDone applier.settings.paths config before.files after.files second third := by
  have whole : Stage.all = Stage.proxy.earlier ++
      .proxy :: .networkFiles :: .timesync :: Stage.timesync.later := rfl
  rw [whole] at carried
  obtain ⟨first, early, carried⟩ := carried.of_append
  obtain _ | ⟨proxies, carried⟩ := carried
  obtain _ | ⟨units, carried⟩ := carried
  obtain _ | ⟨servers, late⟩ := carried
  have begun := early.files_eq (by decide)
  have ended := late.files_eq (by decide)
  have earlier := early.append (.next proxies (.done _))
  have proxy := updateFile_updated (ok_of_mapFailure proxies)
  have unitsRun := ok_of_mapFailure units
  have unitsHome := (writeUnits_touches _ _ _ _ _ _ rfl unitsRun).2.1.1
  have serversRun := ok_of_mapFailure servers
  have timesync := updateTimesync_updated serversRun
  have timesyncConfined := (updateTimesync_touches _ _ _ _ _ _ rfl serversRun).2.1
  rw [unitsHome, proxy.home, begun] at timesyncConfined
  rw [begun] at proxy
  rw [← ended] at timesync timesyncConfined
  exact ⟨_, _, earlier, proxy, unitsRun, timesync, timesyncConfined⟩

end Applier

namespace Applier.FilesDone

variable {σ : Type} {config : NetworkConfig} {paths : Paths} {before after : FileTree}
  {second third : Host σ} {place : Place}

theorem home_second (done : FilesDone paths config before after second third) :
    second.files.home = before.home :=
  done.proxy.home

theorem home_third (done : FilesDone paths config before after second third) :
    third.files.home = before.home :=
  (writeUnits_touches _ _ _ _ _ _ rfl done.units).2.1.1.trans done.home_second

theorem home (done : FilesDone paths config before after second third) :
    after.home = before.home :=
  done.timesync.home.trans done.home_third

/-- An apply finds what was left behind replaceable. -/
theorem replaceable_of_installed (done : FilesDone paths config before after second third)
    (apart : paths.Apart before.home) (installed : Installed config paths before) :
    Replaceable second.files paths.networkDirectory config.units := by
  obtain ⟨⟨⟨_, clear⟩, _⟩, _⟩ := Paths.apart_iff.mp apart
  obtain ⟨located, _, units⟩ := installed.directory
  refine ⟨fun place through below => ?_, .inl ⟨target before.home paths.networkDirectory, ?_⟩⟩
  · rw [done.home_second] at through below ⊢
    exact straight_of_holdsUnits installed.directory through below
  · exact locate_mono done.home_second
      (fun between through => done.proxy.kept (clear.ne through)) located

/-- Writing the units changes nothing but the directory, and makes directories on the way to it. -/
theorem units_contained (done : FilesDone paths config before after second third)
    (apart : paths.Apart before.home) (installed : Installed config paths before) :
    Contained (target second.files.home paths.networkDirectory <+: ·)
      (· ∈ passed second.files.home paths.networkDirectory) second.files third.files :=
  writeUnits_within (fun _ => id) (fun _ => id)
    (fun _ member => NetworkConfig.leadsDown_of_mem member) (Contained.refl _ _ _)
    (done.replaceable_of_installed apart installed).renewable done.units

/-- Updating the file of the time servers changes nothing around it but directories that were there
before the apply. -/
theorem around_timesync (done : FilesDone paths config before after second third)
    (installed : Installed config paths before)
    (other : place ≠ target before.home paths.timesyncFile) :
    after.at? place = third.files.at? place ∨ before.isDirectory place = true := by
  have holds := installed.timesync
  have updated := done.timesync
  cases text : timesyncText? config.ntp with
  | some text =>
    rw [text] at holds
    by_cases through : place ∈ passed before.home paths.timesyncFile
    · exact .inr ((isDirectory_of_locate holds.located through).resolve_left other)
    · exact .inl (done.timesyncConfined.2 place through)
  | none =>
    left
    rw [text] at updated
    obtain ⟨_, unchanged⟩ | ⟨_, _, erased⟩ : Removed _ _ _ := updated
    · rw [unchanged]
    · rw [erased, done.home_third]
      exact at?_erase_of_ne _ other

/-- Nothing comes to light on the path of the proxies' file. -/
theorem not_exposed_of_installed (done : FilesDone paths config before after second third)
    (apart : paths.Apart before.home) (installed : Installed config paths before)
    (none : proxyEnvironment? config.proxy = none) : ¬ Exposed paths.proxyFile before after := by
  rintro ⟨astray, place, entry, found, _, _⟩
  have contained := done.units_contained apart installed
  rw [done.home_second] at contained
  obtain ⟨⟨⟨clear, _⟩, clearLater, _⟩, _⟩ := Paths.apart_iff.mp apart
  have updated := done.proxy
  rw [none] at updated
  obtain ⟨_, unchanged⟩ | ⟨led, _⟩ : Removed _ _ _ := updated
  · refine astray place (locate_mono done.home.symm (fun between through => ?_) found)
    rw [done.home] at through
    -- a directory that the path passes now was there before
    obtain same | directory := done.around_timesync installed (clearLater.ne through)
    · by_cases aside : between ∈ passed before.home paths.networkDirectory
      · have directory := (isDirectory_of_locate installed.directory.located aside).resolve_left
          (clear.ne through)
        exact ⟨fun _ => directory, fun _ => isSome_of_isDirectory directory⟩
      · refine Kept.of_at? ?_
        rw [same, ← unchanged]
        exact (contained.at?_eq (clear between through) aside).symm
    · exact ⟨fun _ => directory, fun _ => isSome_of_isDirectory directory⟩
  · exact astray _ led

end Applier.FilesDone

/-! ### The whole apply -/

namespace Applier

variable {σ : Type} {applier : Applier σ} {config : NetworkConfig} {timeout : Duration}
  {before after : Host σ}

/-- What lasts of an apply that succeeds, and its steps. -/
theorem lasting_of_apply (apart : applier.settings.paths.Apart before.files.home)
    (done : applier.apply config timeout before = (.ok (), after)) :
    Lasting applier config timeout before (fun _ => True) after := by
  rw [apply_eq] at done
  exact lasting_of_carried apart (carried_iff.mpr done)

/-- **An apply leaves behind what it should when an earlier one did.** -/
theorem installed_again (apart : applier.settings.paths.Apart before.files.home)
    (done : applier.apply config timeout before = (.ok (), after))
    (installed : Installed config applier.settings.paths before.files) :
    Installed config applier.settings.paths after.files := by
  obtain ⟨second, early, installed_iff⟩ := (lasting_of_apply apart done).installed_iff
  rw [apply_eq] at done
  obtain ⟨other, third, again, files⟩ := (carried_iff.mpr done).filesDone
  obtain rfl := early.unique again
  exact installed_iff.mpr ⟨files.replaceable_of_installed apart installed,
    files.not_exposed_of_installed apart installed⟩

/-- **What an apply that succeeds leaves behind.** It is what it should be exactly if the directory
was replaceable when its stage began and no file of proxies came to light; so it is for paths
without double dots. Then it depends on the configuration only, and stays when an apply of the
configuration succeeds again. -/
theorem apply_installed_iff (apart : applier.settings.paths.Apart before.files.home)
    (done : applier.apply config timeout before = (.ok (), after)) :
    (∃ second,
      Carried applier config timeout before.clock Stage.networkFiles.earlier before second ∧
        (Installed config applier.settings.paths after.files ↔
          Replaceable second.files applier.settings.paths.networkDirectory config.units ∧
            (proxyEnvironment? config.proxy = none →
              ¬ Exposed applier.settings.paths.proxyFile before.files after.files))) ∧
    (before.files.IsTree → ".." ∉ pathNames applier.settings.paths.networkDirectory →
      ".." ∉ pathNames applier.settings.paths.proxyFile →
        Installed config applier.settings.paths after.files) ∧
    (Installed config applier.settings.paths after.files →
      (∀ other, Installed config applier.settings.paths other →
        SameOutcome applier.settings.paths after.files other) ∧
      ∀ {τ : Type} (later : Applier τ) (limit : Duration) (start last : Host τ),
        later.settings.paths = applier.settings.paths → start.files = after.files →
          later.apply config limit start = (.ok (), last) →
            Installed config applier.settings.paths last.files ∧
              SameOutcome applier.settings.paths after.files last.files) := by
  have lasting := lasting_of_apply apart done
  refine ⟨lasting.installed_iff, lasting.installed_of_plain,
    fun installed => ⟨fun other there => installed.same there, ?_⟩⟩
  intro τ later limit start last samePaths sameFiles again
  rw [apply_eq] at done
  rw [← (carried_iff.mpr done).home] at apart
  have installedAgain : Installed config later.settings.paths last.files := by
    refine installed_again ?_ again ?_
    · rw [samePaths, sameFiles]
      exact apart
    · rw [samePaths, sameFiles]
      exact installed
  rw [samePaths] at installedAgain
  exact ⟨installedAgain, installed.same installedAgain⟩

/-- An applier whose commands all succeed at once. -/
def calm (paths : Paths) : Applier Unit where
  runner := fun state _ => ({ answer := some (.finished {}) }, state)
  settings := { paths }

/-- A host whose directory of units holds a unit and a directory. -/
def cluttered : Host Unit where
  runner := ()
  files := { entries := [(["run"], .directory 0o755), (["run", "systemd"], .directory 0o755),
    (["run", "systemd", "network"], .directory 0o755),
    (["run", "systemd", "network", "stale.network"], .file 0o644 .empty),
    (["run", "systemd", "network", "old.d"], .directory 0o755)] }

/-- A configuration with one interface and one time server. -/
def single : NetworkConfig where
  interfaces := [{ name := "eth0", hwaddr := "aa:00:00:00:00:01" }]
  ntp := some { timeservers := ["ntp.local"] }

theorem single_installed :
    ((calm {}).apply single (.ofSecs 30) cluttered).1 = .ok () ∧
      Installed single {} ((calm {}).apply single (.ofSecs 30) cluttered).2.files := by
  have done : ((calm {}).apply single (.ofSecs 30) cluttered).1 = .ok () := by decide +kernel
  refine ⟨done, (apply_installed_iff ?_ (Prod.fst_eq_iff.mp done)).2.1 ?_ ?_ ?_⟩
  · decide +kernel
  · exact FileTree.isTree_of_entries (by decide +kernel)
  · decide +kernel
  · decide +kernel

/-- The path of the directory leads nowhere until the directory is made. -/
def detour : Paths where
  networkDirectory := "x/../network"

/-- A host whose directory of units holds a unit, with relative paths from the top. -/
def stale : Host Unit where
  runner := ()
  files := { entries := [(["network"], .directory 0o755),
    (["network", "stale.network"], .file 0o644 .empty)] }

/-- A unit that stood there before may stay. -/
theorem detour_not_installed :
    detour.Apart stale.files.home ∧
      ((calm detour).apply {} (.ofSecs 30) stale).1 = .ok () ∧
        ¬ Installed {} detour ((calm detour).apply {} (.ofSecs 30) stale).2.files := by
  refine ⟨by decide +kernel, by decide +kernel, fun installed => ?_⟩
  have stands : (((calm detour).apply {} (.ofSecs 30) stale).2.files.at?
      (target ((calm detour).apply {} (.ofSecs 30) stale).2.files.home detour.networkDirectory ++
        ["stale.network"])).isSome = true := by decide +kernel
  have units := installed.directory.units ["stale.network"] (List.cons_ne_nil _ _)
  have none : (unitAt? ({} : NetworkConfig).units ["stale.network"]).isSome = false := by decide
  rw [units, none] at stands
  cases stands

end Applier

end HostNet
