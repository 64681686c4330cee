/-
**What lasts of the stages that work on files.**

A stage leaves a file or a directory behind, and the stages after it have paths of their own. As long
as the paths of an apply keep clear of each other, what a stage has left is spared by the others; so it
is still there when the apply comes to its end, wherever that is.

Two things may go wrong all the same. The stage of the units may find a directory that is not
renewable, and then a unit may be written anywhere. And the directories that a later stage makes may
bring a file to light that was to be removed.

* `Paths.Apart`: no path passes the target of another one, or a place below it;
* `Reached.spared`: the stages after a stage spare its path;
* `Lasting`: what is there at the end of an apply, of each stage that was carried out;
* `lasting_of_reached`: this is so, however the apply ends.
-/

import HostNet.Proofs.Apply.Bounds

namespace HostNet

open FileTree HostAction HostNet.Action

/-! ### Paths that keep clear of each other -/

/-- A path passes neither the target of another path nor a place below it. -/
def KeepsClear (home : Place) (path other : String) : Prop :=
  ∀ place ∈ passed home path, ¬ target home other <+: place

instance (home : Place) (path other : String) : Decidable (KeepsClear home path other) :=
  inferInstanceAs (Decidable (∀ place ∈ passed home path, ¬ target home other <+: place))

/-- No path of an apply leads into another one or through it. -/
def Paths.Apart (home : Place) (paths : Paths) : Prop :=
  [paths.proxyFile, paths.networkDirectory, paths.timesyncFile].Pairwise fun path other =>
    KeepsClear home path other ∧ KeepsClear home other path

instance (home : Place) (paths : Paths) : Decidable (paths.Apart home) :=
  inferInstanceAs (Decidable (List.Pairwise _ _))

theorem Paths.apart_iff {home : Place} {paths : Paths} : paths.Apart home ↔
    ((KeepsClear home paths.proxyFile paths.networkDirectory ∧
        KeepsClear home paths.networkDirectory paths.proxyFile) ∧
      (KeepsClear home paths.proxyFile paths.timesyncFile ∧
        KeepsClear home paths.timesyncFile paths.proxyFile)) ∧
      (KeepsClear home paths.networkDirectory paths.timesyncFile ∧
        KeepsClear home paths.timesyncFile paths.networkDirectory) := by
  simp [Paths.Apart]

/-- For paths without double dots, to keep clear is not to lie at or below the other target. -/
theorem keepsClear_iff_of_plain {home : Place} {path other : String}
    (plain : ".." ∉ pathNames path) :
    KeepsClear home path other ↔ ¬ target home other <+: target home path := by
  constructor
  · exact fun clear => clear _ (target_mem_passed home path)
  · intro outside place through below
    exact outside (below.trans (prefix_target_of_plain plain through))

theorem KeepsClear.ne {home place : Place} {path other : String} (clear : KeepsClear home path other)
    (through : place ∈ passed home path) : place ≠ target home other := by
  rintro rfl
  exact clear _ through (List.prefix_refl _)

/-- The top is below no other target. -/
theorem KeepsClear.ne_nil {home : Place} {path other : String} (clear : KeepsClear home path other) :
    target home other ≠ [] := by
  intro top
  refine clear _ (start_mem_passed home path) ?_
  rw [top]
  exact List.nil_prefix

/-! ### The paths of the stages -/

theorem Stage.Owns.below {home place : Place} {paths : Paths} {stage : Stage}
    (owns : stage.Owns home paths place) :
    ∃ path, stage.path? paths = some path ∧ target home path <+: place := by
  cases stage with
  | proxy =>
    obtain rfl : place = _ := owns
    exact ⟨_, rfl, List.prefix_refl _⟩
  | networkFiles => exact ⟨_, rfl, owns⟩
  | timesync =>
    obtain rfl : place = _ := owns
    exact ⟨_, rfl, List.prefix_refl _⟩
  | validate | hostname | renameWait | networkRestart | timesyncRestart | onlineWait => cases owns

namespace Paths.Apart

variable {home place : Place} {paths : Paths} {stage other : Stage} {path second : String}

/-- The paths of two stages keep clear of each other. -/
theorem keepsClear (apart : paths.Apart home) (different : other ≠ stage)
    (here : stage.path? paths = some path) (there : other.path? paths = some second) :
    KeepsClear home path second := by
  obtain ⟨⟨⟨_, _⟩, _, _⟩, _, _⟩ := Paths.apart_iff.mp apart
  cases stage <;> cases here <;> cases other <;> cases there <;>
    first | assumption | exact absurd rfl different

/-- Another stage owns no place that the path of a stage passes. -/
theorem not_owned (apart : paths.Apart home) (different : other ≠ stage)
    (here : stage.path? paths = some path) (through : place ∈ passed home path) :
    ¬ other.Owns home paths place := by
  intro owns
  obtain ⟨second, there, below⟩ := owns.below
  exact apart.keepsClear different here there place through below

/-- Another stage owns nothing at or below the target of a stage. -/
theorem not_owned_below (apart : paths.Apart home) (different : other ≠ stage)
    (here : stage.path? paths = some path) (inside : Place) :
    ¬ other.Owns home paths (target home path ++ inside) := by
  intro owns
  obtain ⟨second, there, below⟩ := owns.below
  obtain above | above := List.prefix_or_prefix_of_prefix below (List.prefix_append _ inside)
  · exact apart.keepsClear different here there _ (target_mem_passed home path) above
  · exact apart.keepsClear different.symm there here _ (target_mem_passed home second) above

/-- The path of another stage passes nothing at or below the target of a stage. -/
theorem not_passed_below (apart : paths.Apart home) (different : other ≠ stage)
    (here : stage.path? paths = some path) (inside : Place) :
    ¬ other.Passes home paths (target home path ++ inside) := by
  rintro ⟨second, there, through⟩
  exact apart.keepsClear different.symm there here _ through (List.prefix_append _ inside)

end Paths.Apart

namespace Applier

variable {σ : Type} {applier : Applier σ} {config : NetworkConfig} {timeout : Duration}
  {started : Nat} {stage : Stage} {path : String} {before found left after : Host σ}
  {result : Except (Halt ApplyFailure) Unit}

/-! ### What comes after a stage -/

/-- The stages after a stage stay within what they own, all together. -/
theorem Reached.contained
    (reached : Reached applier config timeout started stage before found left result after)
    (renewable : stage < .networkFiles → ∀ second,
      Carried applier config timeout started Stage.networkFiles.earlier before second →
        Renewable second.files applier.settings.paths.networkDirectory) :
    Contained (fun place => ∃ other, stage < other ∧
        other.Owns left.files.home applier.settings.paths place)
      (fun place => ∃ other, stage < other ∧
        other.Passes left.files.home applier.settings.paths place) left.files after.files := by
  refine reached.keeps (Within _ _ left.files) (Contained.refl _ _ _)
    fun other later host _ _ carried held ran => ?_
  refine carryOut_contained (fun _ owns => ⟨other, later, owns⟩) (fun _ passes => ⟨other, later, passes⟩)
    (fun units => ?_) held ran
  subst units
  exact renewable later host carried

/-- **The stages after a stage spare its path.** -/
theorem Reached.spared
    (reached : Reached applier config timeout started stage before found left result after)
    (apart : applier.settings.paths.Apart before.files.home)
    (here : stage.path? applier.settings.paths = some path)
    (renewable : stage < .networkFiles → ∀ second,
      Carried applier config timeout started Stage.networkFiles.earlier before second →
        Renewable second.files applier.settings.paths.networkDirectory) :
    Spared path left.files after.files := by
  have home := (reached.earlier.append (.next reached.done (.done left))).home
  rw [← home] at apart
  have contained := reached.contained renewable
  have differs {other : Stage} (later : stage < other) : other ≠ stage := by
    rintro rfl
    exact Nat.lt_irrefl _ later
  refine ⟨contained.home, fun place through => contained.kept ?_,
    fun inside => contained.at?_eq ?_ ?_⟩
  · rintro ⟨other, later, owns⟩
    exact apart.not_owned (differs later) here through owns
  · rintro ⟨other, later, owns⟩
    exact apart.not_owned_below (differs later) here inside owns
  · rintro ⟨other, later, passes⟩
    exact apart.not_passed_below (differs later) here inside passes

/-- Nothing works on files after the file of the time servers. -/
theorem Reached.files_timesync
    (reached : Reached applier config timeout started .timesync before found left result after) :
    after.files = left.files := by
  refine reached.keeps (·.files = left.files) rfl fun other later _ _ _ _ held ran => ?_
  have still : other.worksOnFiles = false := by
    cases other <;> first | rfl | exact absurd later (by decide)
  exact (files_of_carryOut still ran).trans held

/-! ### What is there at the end -/

/-- What is there at the end of an apply, of the stages that it has carried out. -/
structure Lasting (applier : Applier σ) (config : NetworkConfig) (timeout : Duration)
    (before : Host σ) (done : Stage → Prop) (after : Host σ) : Prop where
  timesync : done .timesync →
    after.files.Holds applier.settings.paths.timesyncFile (timesyncText? config.ntp)
  /-- The directory holds just the units exactly if it was replaceable when its stage began. -/
  units : done .networkFiles → ∃ second,
    Carried applier config timeout before.clock Stage.networkFiles.earlier before second ∧
      (after.files.HoldsUnits applier.settings.paths.networkDirectory config.units ↔
        Replaceable second.files applier.settings.paths.networkDirectory config.units)
  /-- The file of the proxies holds what it should unless it came to light, if the directory of the
  units was renewable when its stage began, or that was not reached. -/
  proxy : done .proxy →
    (∀ second, Carried applier config timeout before.clock Stage.networkFiles.earlier before second →
      Renewable second.files applier.settings.paths.networkDirectory) →
    (after.files.Holds applier.settings.paths.proxyFile (proxyEnvironment? config.proxy) ↔
      (proxyEnvironment? config.proxy = none →
        ¬ Exposed applier.settings.paths.proxyFile before.files after.files))
  /-- Paths without double dots are enough for both. -/
  plain : before.files.IsTree → ".." ∉ pathNames applier.settings.paths.networkDirectory →
    (done .networkFiles →
      after.files.HoldsUnits applier.settings.paths.networkDirectory config.units) ∧
    (done .proxy → ".." ∉ pathNames applier.settings.paths.proxyFile →
      after.files.Holds applier.settings.paths.proxyFile (proxyEnvironment? config.proxy))

/-- The file of the proxies was updated. -/
theorem Reached.proxy_updated
    (reached : Reached applier config timeout started .proxy before found left result after) :
    Updated applier.settings.paths.proxyFile (proxyEnvironment? config.proxy) before.files
      left.files := by
  have still : ∀ stage ∈ Stage.proxy.earlier, stage.worksOnFiles = false := by decide
  rw [← reached.earlier.files_eq still]
  exact updateFile_updated (ok_of_mapFailure reached.done)

/-- The directory is not the top. -/
theorem Reached.lower
    (reached : Reached applier config timeout started stage before found left result after)
    (apart : applier.settings.paths.Apart before.files.home) :
    target found.files.home applier.settings.paths.networkDirectory ≠ [] := by
  rw [reached.earlier.home]
  exact (Paths.apart_iff.mp apart).1.1.1.ne_nil

/-- The directory holds the units exactly if it was replaceable when its stage began. -/
theorem Reached.holdsUnits_iff
    (reached : Reached applier config timeout started .networkFiles before found left result after)
    (apart : applier.settings.paths.Apart before.files.home) :
    after.files.HoldsUnits applier.settings.paths.networkDirectory config.units ↔
      Replaceable found.files applier.settings.paths.networkDirectory config.units := by
  have lower := reached.lower apart
  have run := ok_of_mapFailure reached.done
  have spared := reached.spared apart rfl fun later => absurd later (Nat.lt_irrefl _)
  have located := writeUnits_located lower run
  have led := locate_eq_target located
  rw [led] at located
  exact (spared.holdsUnits_iff located).trans
    (writeUnits_holds_iff lower (fun _ member => NetworkConfig.leadsDown_of_mem member) run)

/-- **What lasts of the stages that an apply has carried out**, however it ends. -/
theorem lasting_of_reached {done : Stage → Prop}
    (apart : applier.settings.paths.Apart before.files.home)
    (reached : ∀ stage, done stage → ∃ found left,
      Reached applier config timeout before.clock stage before found left result after) :
    Lasting applier config timeout before done after := by
  have proxy (carriedOut : done .proxy)
      (renewable : ∀ second,
        Carried applier config timeout before.clock Stage.networkFiles.earlier before second →
          Renewable second.files applier.settings.paths.networkDirectory) :
      after.files.Holds applier.settings.paths.proxyFile (proxyEnvironment? config.proxy) ↔
        (proxyEnvironment? config.proxy = none →
          ¬ Exposed applier.settings.paths.proxyFile before.files after.files) := by
    obtain ⟨found, left, reached⟩ := reached .proxy carriedOut
    exact reached.proxy_updated.holds_later_iff (reached.spared apart rfl fun _ => renewable)
  refine ⟨fun carriedOut => ?_, fun carriedOut => ?_, proxy, fun rooted directoryPlain =>
    ⟨fun carriedOut => ?_, fun carriedOut proxyPlain => ?_⟩⟩
  · obtain ⟨found, left, reached⟩ := reached .timesync carriedOut
    rw [reached.files_timesync]
    exact (updateTimesync_updated (ok_of_mapFailure reached.done)).holds
  · obtain ⟨found, left, reached⟩ := reached .networkFiles carriedOut
    exact ⟨found, reached.earlier, reached.holdsUnits_iff apart⟩
  · obtain ⟨found, left, reached⟩ := reached .networkFiles carriedOut
    refine (reached.holdsUnits_iff apart).mpr ?_
    exact writeUnits_replaceable (reached.lower apart) (ok_of_mapFailure reached.done)
      (reached.earlier.isTree rooted) directoryPlain
  · have renewable second (carried : Carried applier config timeout before.clock
        Stage.networkFiles.earlier before second) :
        Renewable second.files applier.settings.paths.networkDirectory :=
      renewable_of_plain (carried.isTree rooted) directoryPlain
    refine (proxy carriedOut renewable).mpr fun none => ?_
    obtain ⟨found, left, reached⟩ := reached .proxy carriedOut
    have updated := reached.proxy_updated
    have spared := reached.spared apart rfl fun _ => renewable
    have home := spared.home.trans updated.home
    rw [none] at updated
    exact updated.not_exposed_of_plain home rooted proxyPlain

/-- What lasts of an apply that carries out all stages. -/
theorem lasting_of_carried (apart : applier.settings.paths.Apart before.files.home)
    (carried : Carried applier config timeout before.clock Stage.all before after) :
    Lasting applier config timeout before (fun _ => True) after :=
  lasting_of_reached apart fun stage _ => carried.reached_of_all stage

/-- What lasts of an apply that stops in a stage, of the stages before that one. -/
theorem lasting_of_failed {halt : Halt ApplyFailure}
    (apart : applier.settings.paths.Apart before.files.home)
    (carried : Carried applier config timeout before.clock stage.earlier before found)
    (failed : applier.carryOut config timeout before.clock stage found = (.error halt, after)) :
    Lasting applier config timeout before (· < stage) after :=
  lasting_of_reached apart fun _ less => carried.reached_of_failed failed less

end Applier

end HostNet
