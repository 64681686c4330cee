/-
**The stages of an apply, one after the other.**

An apply either carries out all its stages, or stops in one of them. In the second case the stages
before that one were carried out to their ends, and those after it were not begun: they have run no
command and have touched no file.

### What is seen of a stage

Three stages work on files and run no command; five run commands and leave the files alone; the
first does neither. `carryOut_seen` says this for each stage: which commands it runs when it is
carried out to its end, that it has run a beginning of these when it stops, and which places of the
file tree it may touch.

### From a stage to all of them

* `Carried`: stages that are carried out to their ends, one after the other;
* `Reached`: a stage that is carried out in the course of an apply, with what comes after it;
* `applyFrom_keeps` and `apply_keeps`: an apply keeps what each stage keeps after those before it;
* `CarriedThrough`: the commands of an apply that carries out all stages;
* `CarriedUpTo`: the commands of an apply that stops in a stage, and the places it may have touched.
-/

import HostNet.Apply.Basic
import HostNet.Proofs.Apply.Probes
import HostNet.Proofs.Apply.Steps
import Mathlib.Data.List.Nodup

namespace HostNet

open HostAction FileTree HostNet.Action

/-! ### What a stage may do -/

namespace Stage

/-- The stages before a stage. -/
def earlier (stage : Stage) : List Stage := all.takeWhile (· ≠ stage)

/-- The stages after a stage. -/
def later (stage : Stage) : List Stage := all.filter (stage < ·)

/-- Whether a stage works on files; the others only run commands, or do not even that. -/
def worksOnFiles : Stage → Bool
  | .proxy | .networkFiles | .timesync => true
  | .validate | .hostname | .renameWait | .networkRestart | .timesyncRestart | .onlineWait => false

/-- The commands of a stage that is carried out to its end. -/
def Whole (settings : Settings) (config : NetworkConfig) : Stage → List Command → Prop
  | .hostname => (· = [.setHostname (config.hostname?.getD "")])
  | .renameWait => Repeated (· = renameSearch)
  | .networkRestart => (· = [.restart settings.services.network])
  | .timesyncRestart => (· = [.restart settings.services.timesync])
  | .onlineWait => Repeated (OnlinePass config.addressedDevices)
  | .validate | .proxy | .networkFiles | .timesync => (· = [])

/-- The places of the file tree that a stage may touch. -/
def Touched (home : Place) (paths : Paths) (files : List UnitFile) : Stage → Place → Prop
  | .proxy => (· ∈ passed home paths.proxyFile)
  | .networkFiles => UnitPlace home paths.networkDirectory files
  | .timesync => (· ∈ passed home paths.timesyncFile)
  | .validate | .hostname | .renameWait | .networkRestart | .timesyncRestart | .onlineWait =>
    fun _ => False

theorem mem_earlier_iff {stage other : Stage} : other ∈ stage.earlier ↔ other < stage := by
  cases stage <;> cases other <;> decide

/-- All stages are those before a stage, the stage itself and those after it. -/
theorem all_eq (stage : Stage) : all = stage.earlier ++ stage :: stage.later := by
  cases stage <;> rfl

theorem nodup_all : all.Nodup := by
  decide

/-- Only the stages before a stage come before it. -/
theorem front_eq_earlier {stage : Stage} {front back : List Stage}
    (whole : all = front ++ stage :: back) : front = stage.earlier := by
  have fresh : stage ∉ front := by
    have distinct : (front ++ stage :: back).Nodup := whole ▸ nodup_all
    exact fun inside => (List.nodup_append'.mp distinct).2.2 inside List.mem_cons_self
  rw [earlier, whole, List.takeWhile_append_of_pos]
  · simp
  · intro other member
    have different : other ≠ stage := fun same => fresh (same ▸ member)
    simpa using different

theorem mem_all (stage : Stage) : stage ∈ all := by
  cases stage <;> decide

theorem mem_later_iff {stage other : Stage} : other ∈ stage.later ↔ stage < other := by
  simp [later, mem_all]

end Stage

namespace Applier

variable {σ : Type} {applier : Applier σ} {config : NetworkConfig} {timeout : Duration}
  {started : Nat} {before middle after : Host σ} {result : Except (Halt ApplyFailure) Unit}

/-- What is seen of a stage, carried out to its end or not. -/
structure Seen (settings : Settings) (config : NetworkConfig) (stage : Stage) (before : Host σ)
    (result : Except (Halt ApplyFailure) Unit) (after : Host σ) : Prop where
  files : Confined (stage.Touched before.files.home settings.paths config.units)
    before.files after.files
  commands : ∃ commands, Recorded before commands after ∧
    RunsTo (stage.Whole settings config) stage.Stops commands result

/-- A stage that only runs commands. -/
theorem Seen.of_records {settings : Settings} {stage : Stage}
    {action : HostAction σ ApplyFailure Unit}
    (records : Records action (stage.Whole settings config) stage.Stops)
    (happened : action before = (result, after)) :
    Seen settings config stage before result after := by
  obtain ⟨same, commands⟩ := records before result after happened
  refine ⟨?_, commands⟩
  rw [same]
  exact Confined.refl _ _

/-- A stage that only works on files. -/
theorem Seen.of_touches {settings : Settings} {stage : Stage}
    {action : HostAction σ HostFailure Unit} (silent : stage.Whole settings config [])
    (touches : Touches before.files.home action
      (stage.Touched before.files.home settings.paths config.units))
    (happened : mapFailure (.hostFailed stage) action before = (result, after)) :
    Seen settings config stage before result after := by
  rcases ran : action before with ⟨halt | done, late⟩
  · obtain ⟨rest, confined, stops⟩ := touches _ _ _ rfl ran
    obtain ⟨failure, rfl⟩ := stops halt rfl
    simp only [mapFailure, ran, mapError_error] at happened
    cases happened
    refine ⟨confined, [], Recorded.of_log (by rw [rest]), stage.stops_hostFailed failure, [], ?_⟩
    exact ⟨silent, List.nil_prefix⟩
  · obtain ⟨rest, confined, _⟩ := touches _ _ _ rfl ran
    simp only [mapFailure, ran, mapError_ok] at happened
    cases happened
    exact ⟨confined, [], Recorded.of_log (by rw [rest]), silent⟩

/-- A stage that is one command which has to succeed. -/
theorem checked_records (runner : Runner σ) (stage : Stage) (command : Command) :
    Records (mapFailure (.hostFailed stage) (do let _ ← runChecked runner none command))
      (· = [command]) stage.Stops :=
  ((runChecked_records runner none command).bind_then_silent fun _ => Records.pure _ _).mapFailure
    (fun failure _ => stage.stops_hostFailed failure) (fun late => absurd rfl (late rfl))
    fun _ => .inl rfl

/-- A stage that does not work on files runs its commands and leaves the files alone. -/
theorem carryOut_records (stage : Stage) (still : stage.worksOnFiles = false) :
    Records (applier.carryOut config timeout started stage)
      (stage.Whole applier.settings config) stage.Stops := by
  cases stage with
  | validate =>
    simp only [carryOut]
    split
    · exact Records.pure _ _
    · exact Records.fail ⟨_, rfl⟩ (.inr ⟨_, rfl, rfl⟩)
  | hostname => exact checked_records applier.runner .hostname _
  | renameWait => exact waitForRename_records _ _ _
  | networkRestart => exact checked_records applier.runner .networkRestart _
  | timesyncRestart => exact checked_records applier.runner .timesyncRestart _
  | onlineWait =>
    exact (clock_records _).bind_silent (fun now => waitForOnline_records _ _ _ _)
      ((OnlinePass.exists_commands _).imp fun _ pass => Repeated.once pass)
  | proxy | networkFiles | timesync => cases still

/-- **Every stage runs its commands and touches its places, and nothing else.** -/
theorem carryOut_seen (stage : Stage)
    (happened : applier.carryOut config timeout started stage before = (result, after)) :
    Seen applier.settings config stage before result after := by
  cases stage with
  | proxy => exact Seen.of_touches rfl (updateFile_touches _ _ _) happened
  | networkFiles => exact Seen.of_touches rfl (writeUnits_touches _ _ _) happened
  | timesync => exact Seen.of_touches rfl (updateTimesync_touches _ _ _) happened
  | validate | hostname | renameWait | networkRestart | timesyncRestart | onlineWait =>
    exact Seen.of_records (carryOut_records _ rfl) happened

/-! ### Stages one after the other -/

/-- Some stages are carried out to their ends, each from where the one before left the host. -/
inductive Carried (applier : Applier σ) (config : NetworkConfig) (timeout : Duration)
    (started : Nat) : List Stage → Host σ → Host σ → Prop
  | done (host : Host σ) : Carried applier config timeout started [] host host
  | next {stage : Stage} {stages : List Stage} {before middle after : Host σ}
      (first : applier.carryOut config timeout started stage before = (.ok (), middle))
      (others : Carried applier config timeout started stages middle after) :
      Carried applier config timeout started (stage :: stages) before after

theorem carried_iff {stages : List Stage} :
    Carried applier config timeout started stages before after ↔
      applier.applyFrom config timeout started stages before = (.ok (), after) := by
  induction stages generalizing before with
  | nil =>
    constructor
    · rintro ⟨⟩
      rfl
    · intro happened
      cases happened
      exact .done _
  | cons stage stages ih =>
    unfold applyFrom at ih ⊢
    rw [forM_cons_ok_iff]
    constructor
    · rintro ⟨⟩
      rename_i middle first others
      exact ⟨middle, first, ih.mp others⟩
    · rintro ⟨middle, first, others⟩
      exact .next first (ih.mpr others)

/-- An apply that does not succeed carries out the stages before some stage, and stops there. -/
theorem applyFrom_error {halt : Halt ApplyFailure} {stages : List Stage}
    (happened : applier.applyFrom config timeout started stages before = (.error halt, after)) :
    ∃ front stage back middle, stages = front ++ stage :: back ∧
      Carried applier config timeout started front before middle ∧
      applier.carryOut config timeout started stage middle = (.error halt, after) := by
  obtain ⟨front, stage, back, middle, whole, done, failed⟩ := forM_error_iff.mp happened
  exact ⟨front, stage, back, middle, whole, carried_iff.mpr done, failed⟩

theorem Carried.append {front back : List Stage} {middle : Host σ}
    (first : Carried applier config timeout started front before middle)
    (second : Carried applier config timeout started back middle after) :
    Carried applier config timeout started (front ++ back) before after := by
  induction first with
  | done host => exact second
  | next stage others ih => exact .next stage (ih second)

theorem Carried.of_append {front back : List Stage}
    (carried : Carried applier config timeout started (front ++ back) before after) :
    ∃ middle, Carried applier config timeout started front before middle ∧
      Carried applier config timeout started back middle after := by
  induction front generalizing before with
  | nil => exact ⟨before, .done _, carried⟩
  | cons stage front ih =>
    obtain _ | ⟨first, others⟩ := carried
    obtain ⟨middle, earlier, later⟩ := ih others
    exact ⟨middle, .next first earlier, later⟩

/-- After some stages come those that follow them. -/
theorem Carried.applyFrom_append {front : List Stage}
    (carried : Carried applier config timeout started front before middle) (back : List Stage) :
    applier.applyFrom config timeout started (front ++ back) before =
      applier.applyFrom config timeout started back middle := by
  induction carried with
  | done host => rfl
  | next first others ih => rw [List.cons_append, applyFrom_cons, bind_of_ok first, ih]

/-- There is one host that stages carried out to their ends leave behind. -/
theorem Carried.unique {stages : List Stage} {other : Host σ}
    (carried : Carried applier config timeout started stages before after)
    (again : Carried applier config timeout started stages before other) : after = other := by
  have same := (carried_iff.mp carried).symm.trans (carried_iff.mp again)
  cases same
  rfl

/-- The commands of stages, and the places they may touch, all together. -/
structure SeenAll (settings : Settings) (config : NetworkConfig) (stages : List Stage)
    (before : Host σ) (after : Host σ) : Prop where
  files : Confined (fun place => ∃ stage ∈ stages,
    stage.Touched before.files.home settings.paths config.units place) before.files after.files
  commands : ∃ record : Stage → List Command,
    (∀ stage ∈ stages, stage.Whole settings config (record stage)) ∧
      (∀ stage ∉ stages, record stage = []) ∧ Recorded before (stages.flatMap record) after

theorem Carried.home {stages : List Stage}
    (carried : Carried applier config timeout started stages before after) :
    after.files.home = before.files.home := by
  induction carried with
  | done host => rfl
  | next first others ih => exact ih.trans (carryOut_seen _ first).files.1

/-- What a stage has run does not matter for the commands of other stages. -/
theorem flatMap_update {record : Stage → List Command} {stage : Stage} {stages : List Stage}
    (fresh : stage ∉ stages) (commands : List Command) :
    stages.flatMap (Function.update record stage commands) = stages.flatMap record := by
  refine List.flatMap_congr fun other member => ?_
  have different : other ≠ stage := fun same => fresh (same ▸ member)
  rw [Function.update_of_ne different]

/-- **What stages do that are carried out one after the other.** -/
theorem Carried.seen {stages : List Stage} (distinct : stages.Nodup)
    (carried : Carried applier config timeout started stages before after) :
    SeenAll applier.settings config stages before after := by
  induction carried with
  | done host =>
    exact ⟨Confined.refl _ _, fun _ => [], nofun, fun _ _ => rfl, Recorded.of_log rfl⟩
  | @next stage stages before middle after first others ih =>
    rw [List.nodup_cons] at distinct
    obtain ⟨fresh, distinct⟩ := distinct
    obtain ⟨files, commands, recorded, whole⟩ := carryOut_seen stage first
    obtain ⟨laterFiles, record, wholes, silent, further⟩ := ih distinct
    rw [files.1] at laterFiles
    refine ⟨?_, Function.update record stage commands, fun other member => ?_,
      fun other outside => ?_, ?_⟩
    · refine (files.mono fun place touched => ?_).trans (laterFiles.mono fun place touched => ?_)
      · exact ⟨stage, List.mem_cons_self, touched⟩
      · obtain ⟨other, member, touched⟩ := touched
        exact ⟨other, List.mem_cons_of_mem stage member, touched⟩
    · by_cases same : other = stage
      · subst same
        rw [Function.update_self]
        exact whole
      · rw [Function.update_of_ne same]
        exact wholes other ((List.mem_cons.mp member).resolve_left same)
    · rw [List.mem_cons, not_or] at outside
      rw [Function.update_of_ne outside.1, silent other outside.2]
    · rw [List.flatMap_cons, Function.update_self, flatMap_update fresh]
      exact recorded.trans further

/-! ### The whole apply -/

/-- What an apply that succeeds has done: every stage was carried out, and the commands are one that
sets the name of the host, one or more searches for a renamed card, the two restarts, and one or
more passes over the devices. -/
structure CarriedThrough (applier : Applier σ) (config : NetworkConfig) (timeout : Duration)
    (before after : Host σ) : Prop where
  carried : Carried applier config timeout before.clock Stage.all before after
  commands : ∃ searches passes, searches ≠ 0 ∧ passes ≠ [] ∧
    (∀ pass ∈ passes, OnlinePass config.addressedDevices pass) ∧
    Recorded before ([.setHostname (config.hostname?.getD "")] ++
      (List.replicate searches renameSearch).flatten ++
      [.restart applier.settings.services.network] ++
      [.restart applier.settings.services.timesync] ++ passes.flatten) after

/-- What an apply that stops in a stage has done. The stages before that one were carried out to
their ends, and the host is left as that one leaves it: no later stage has run a command or touched
a file. -/
structure CarriedUpTo (applier : Applier σ) (config : NetworkConfig) (timeout : Duration)
    (before : Host σ) (stage : Stage) (halt : Halt ApplyFailure) (after : Host σ) : Prop where
  /-- A failure names the stage. -/
  stops : stage.Stops halt
  carried : ∃ middle, Carried applier config timeout before.clock stage.earlier before middle ∧
    applier.carryOut config timeout before.clock stage middle = (.error halt, after)
  commands : ∃ record : Stage → List Command,
    (∀ earlier, earlier < stage → earlier.Whole applier.settings config (record earlier)) ∧
      (∃ complete, stage.Whole applier.settings config complete ∧ record stage <+: complete) ∧
      (∀ later, stage < later → record later = []) ∧
      Recorded before (Stage.all.flatMap record) after
  files : Confined (fun place => ∃ reached, ¬ stage < reached ∧
    reached.Touched before.files.home applier.settings.paths config.units place)
    before.files after.files
  /-- A configuration that breaks a rule leaves everything as it is. -/
  invalid : stage = .validate → after = before

theorem carriedThrough_of_carried
    (carried : Carried applier config timeout before.clock Stage.all before after) :
    CarriedThrough applier config timeout before after := by
  obtain ⟨_, record, wholes, _, recorded⟩ := carried.seen Stage.nodup_all
  have whole := fun stage : Stage => wholes stage stage.mem_all
  obtain ⟨rounds, begun, alike, searched⟩ : Repeated (· = renameSearch) (record .renameWait) :=
    whole .renameWait
  obtain ⟨passes, some, fits, asked⟩ :
      Repeated (OnlinePass config.addressedDevices) (record .onlineWait) := whole .onlineWait
  refine ⟨carried, rounds.length, passes, by simpa using begun, some, fits, ?_⟩
  rw [← List.eq_replicate_iff.mpr ⟨rfl, alike⟩, ← searched, ← asked]
  have validated : record .validate = [] := whole .validate
  have named : record .hostname = [.setHostname (config.hostname?.getD "")] := whole .hostname
  have proxies : record .proxy = [] := whole .proxy
  have units : record .networkFiles = [] := whole .networkFiles
  have servers : record .timesync = [] := whole .timesync
  have network : record .networkRestart = [.restart applier.settings.services.network] :=
    whole .networkRestart
  have time : record .timesyncRestart = [.restart applier.settings.services.timesync] :=
    whole .timesyncRestart
  have together : Stage.all.flatMap record = [.setHostname (config.hostname?.getD "")] ++
      record .renameWait ++ [.restart applier.settings.services.network] ++
      [.restart applier.settings.services.timesync] ++ record .onlineWait := by
    simp [Stage.all, validated, named, proxies, units, servers, network, time]
  rw [together] at recorded
  exact recorded

/-- A configuration that breaks a rule leaves the host alone. -/
theorem eq_of_validate_failed {halt : Halt ApplyFailure}
    (failed : applier.carryOut config timeout started .validate before = (.error halt, after)) :
    after = before := by
  cases checked : config.validate with
  | ok _ =>
    simp only [carryOut, checked] at failed
    cases failed
  | error problem =>
    rw [carryOut_validate _ _ _ _ checked] at failed
    cases failed
    rfl

theorem carriedUpTo_of_failed {stage : Stage} {halt : Halt ApplyFailure}
    (carried : Carried applier config timeout before.clock stage.earlier before middle)
    (failed : applier.carryOut config timeout before.clock stage middle = (.error halt, after)) :
    CarriedUpTo applier config timeout before stage halt after := by
  have whole := stage.all_eq
  have distinct := Stage.nodup_all
  rw [whole, List.nodup_append'] at distinct
  obtain ⟨distinctEarlier, distinctLater, apart⟩ := distinct
  have fresh : stage ∉ stage.earlier := fun inside => apart inside List.mem_cons_self
  obtain ⟨earlierFiles, record, wholes, silent, recorded⟩ := carried.seen distinctEarlier
  obtain ⟨files, commands, partly, stops, begun⟩ := carryOut_seen stage failed
  rw [carried.home] at files
  refine ⟨stops, ⟨middle, carried, failed⟩, ⟨Function.update record stage commands, ?_, ?_, ?_, ?_⟩,
    ?_, ?_⟩
  · intro other less
    have member : other ∈ stage.earlier := Stage.mem_earlier_iff.mpr less
    have different : other ≠ stage := fun same => fresh (same ▸ member)
    rw [Function.update_of_ne different]
    exact wholes other member
  · rw [Function.update_self]
    exact begun
  · intro other less
    have different : other ≠ stage := by
      rintro rfl
      exact Nat.lt_irrefl _ less
    have outside : other ∉ stage.earlier := fun inside =>
      Nat.lt_asymm less (Stage.mem_earlier_iff.mp inside)
    rw [Function.update_of_ne different, silent other outside]
  · have unbegun : stage.later.flatMap record = [] := by
      rw [List.flatMap_eq_nil_iff]
      exact fun other inside => silent other fun before => apart before (List.mem_cons_of_mem _ inside)
    rw [whole, List.flatMap_append, List.flatMap_cons, Function.update_self, flatMap_update fresh,
      flatMap_update (List.nodup_cons.mp distinctLater).1, unbegun, List.append_nil]
    exact recorded.trans partly
  · refine (earlierFiles.mono fun place touched => ?_).trans (files.mono fun place touched => ?_)
    · obtain ⟨other, member, touched⟩ := touched
      exact ⟨other, Nat.lt_asymm (Stage.mem_earlier_iff.mp member), touched⟩
    · exact ⟨stage, Nat.lt_irrefl _, touched⟩
  · rintro rfl
    cases carried
    exact eq_of_validate_failed failed

theorem apply_eq (applier : Applier σ) (config : NetworkConfig) (timeout : Duration)
    (before : Host σ) :
    applier.apply config timeout before =
      applier.applyFrom config timeout before.clock Stage.all before := by
  rfl

/-- Stages keep, however they end, what each of them keeps after those before it. -/
theorem applyFrom_keeps {front back : List Stage} (kept : Host σ → Prop)
    (whole : Stage.all = front ++ back)
    (carried : Carried applier config timeout started front before middle) (held : kept middle)
    (step : ∀ stage ∈ back, ∀ host outcome last,
      Carried applier config timeout started stage.earlier before host → kept host →
        applier.carryOut config timeout started stage host = (outcome, last) → kept last)
    (run : applier.applyFrom config timeout started back middle = (result, after)) : kept after := by
  induction back generalizing front middle with
  | nil =>
    cases run
    exact held
  | cons stage back ih =>
    have earlier := Stage.front_eq_earlier whole
    rw [applyFrom_cons] at run
    rcases ran : applier.carryOut config timeout started stage middle with ⟨halt | _, next⟩
    · rw [bind_of_error ran] at run
      cases run
      exact step stage List.mem_cons_self middle _ _ (earlier ▸ carried) held ran
    · rw [bind_of_ok ran] at run
      have wholeNext : Stage.all = (front ++ [stage]) ++ back := by
        rw [whole, List.append_assoc]
        rfl
      have carriedNext := carried.append (.next ran (.done next))
      have heldNext := step stage List.mem_cons_self middle _ _ (earlier ▸ carried) held ran
      exact ih wholeNext carriedNext heldNext (fun other member => step other (.tail stage member)) run

/-- An apply keeps, however it ends, what each stage keeps after those before it. -/
theorem apply_keeps (kept : Host σ → Prop) (held : kept before)
    (step : ∀ stage middle outcome last,
      Carried applier config timeout before.clock stage.earlier before middle → kept middle →
        applier.carryOut config timeout before.clock stage middle = (outcome, last) → kept last)
    (run : applier.apply config timeout before = (result, after)) : kept after :=
  applyFrom_keeps kept (List.nil_append _).symm (.done before) held (fun stage _ => step stage) run

/-! ### A stage that is reached -/

/-- A stage that is carried out in the course of an apply: the host it finds once those before it are
carried out, the host it leaves, and what becomes of that host in those after it. -/
structure Reached (applier : Applier σ) (config : NetworkConfig) (timeout : Duration) (started : Nat)
    (stage : Stage) (before found left : Host σ) (result : Except (Halt ApplyFailure) Unit)
    (after : Host σ) : Prop where
  earlier : Carried applier config timeout started stage.earlier before found
  done : applier.carryOut config timeout started stage found = (.ok (), left)
  later : applier.applyFrom config timeout started stage.later left = (result, after)

/-- The stages that an apply carries out are reached, whatever becomes of the others. -/
theorem Carried.reached {front back : List Stage} {stage : Stage} (whole : Stage.all = front ++ back)
    (carried : Carried applier config timeout started front before middle) (member : stage ∈ front)
    (run : applier.applyFrom config timeout started back middle = (result, after)) :
    ∃ found left, Reached applier config timeout started stage before found left result after := by
  obtain ⟨early, late, rfl⟩ := List.append_of_mem member
  obtain ⟨found, earlier, rest⟩ := carried.of_append
  obtain _ | ⟨done, others⟩ := rest
  rw [List.append_assoc, List.cons_append] at whole
  have same := Stage.front_eq_earlier whole
  subst same
  rw [stage.all_eq, List.append_cancel_left_eq, List.cons.injEq] at whole
  refine ⟨found, _, earlier, done, ?_⟩
  rw [whole.2, others.applyFrom_append, run]

/-- An apply that carries out all stages reaches each of them. -/
theorem Carried.reached_of_all
    (carried : Carried applier config timeout started Stage.all before after) (stage : Stage) :
    ∃ found left, Reached applier config timeout started stage before found left (.ok ()) after :=
  carried.reached (List.append_nil _).symm stage.mem_all rfl

/-- An apply that stops in a stage reaches those before it. -/
theorem Carried.reached_of_failed {stage other : Stage} {halt : Halt ApplyFailure}
    (carried : Carried applier config timeout started stage.earlier before middle)
    (failed : applier.carryOut config timeout started stage middle = (.error halt, after))
    (less : other < stage) :
    ∃ found left,
      Reached applier config timeout started other before found left (.error halt) after := by
  refine carried.reached stage.all_eq (Stage.mem_earlier_iff.mpr less) ?_
  rw [applyFrom_cons]
  exact bind_of_error failed _

/-- What a stage has left is kept by those after it. -/
theorem Reached.keeps {stage : Stage} {found left : Host σ}
    (reached : Reached applier config timeout started stage before found left result after)
    (kept : Host σ → Prop) (held : kept left)
    (step : ∀ other, stage < other → ∀ host outcome last,
      Carried applier config timeout started other.earlier before host → kept host →
        applier.carryOut config timeout started other host = (outcome, last) → kept last) :
    kept after := by
  have whole : Stage.all = (stage.earlier ++ [stage]) ++ stage.later := by
    rw [stage.all_eq, List.append_assoc]
    rfl
  have carried := reached.earlier.append (.next reached.done (.done left))
  exact applyFrom_keeps kept whole carried held
    (fun other member => step other (Stage.mem_later_iff.mp member)) reached.later

end Applier

end HostNet
