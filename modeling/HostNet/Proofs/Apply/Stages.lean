/-
**What an apply has done, stage by stage.**

A stage that is carried out to its end has done what it is there for: the configuration was checked, a
command has succeeded, a file was written or removed, the directory of the units was replaced, or what
was waited for has come. An apply that succeeds has done all of this; one that stops in a stage has done
all of it before that stage, and nothing of the stages after it.

What has been done to the files is still there at the end, when a later stage has stopped as well as
when none has.

* `RenamedBy`: a card is found to have its name, by a moment;
* `Stage.Does`: what a stage does to the host that is carried out to its end;
* `carryOut_does`: every stage does so;
* `Completed` and `StoppedIn`: what an apply has done that succeeds, or that stops in a stage;
* `apply_in_order`: an apply does the one or the other.
-/

import HostNet.Proofs.Apply.Convergence
import HostNet.Proofs.Apply.Lasting
import HostNet.Proofs.Host.Failing

namespace HostNet

open FileTree HostAction HostNet.Action

variable {σ : Type}

/-! ### The wait for a renamed card -/

section Renames

variable (runner : Runner σ)

/-- A search finds a renamed card: the events of devices were replayed and are settled, and the kernel
log shows that a card was renamed. -/
def CardFound (before after : Host σ) : Prop :=
  ∃ replayed settled, Succeeds runner .replayDevices before replayed ∧
    Succeeds runner .settleDevices replayed settled ∧ Succeeds runner .searchRenames settled after

/-- A search finds no renamed card: the kernel log does not show one. -/
def CardMissing (before after : Host σ) : Prop :=
  ∃ replayed settled log, Succeeds runner .replayDevices before replayed ∧
    Succeeds runner .settleDevices replayed settled ∧
      Answered runner .searchRenames settled log after ∧ log.exitCode ≠ 0

/-- A round of the wait: a search that is begun before the deadline, is over by then and finds no card,
and a whole pause. -/
def RenameRound (interval : Duration) (deadline : Nat) (before after : Host σ) : Prop :=
  before.clock < deadline ∧ ∃ middle, CardMissing runner before middle ∧ middle.clock ≤ deadline ∧
    middle.UncancelledUntil (middle.clock + interval.nanos) ∧
      after = middle.advance (middle.clock + interval.nanos)

/-- A renamed card is found in time: rounds have passed, and the next search is begun before the
deadline, is over by then and finds a card. -/
def RenamedBy (interval : Duration) (deadline : Nat) (before after : Host σ) : Prop :=
  ∃ start, Relation.ReflTransGen (RenameRound runner interval deadline) before start ∧
    start.clock < deadline ∧ CardFound runner start after ∧ after.clock ≤ deadline

end Renames

theorem Succeeds.onward {runner : Runner σ} {command : Command} {before after : Host σ}
    (succeeds : Succeeds runner command before after) : before.clock ≤ after.clock := by
  obtain ⟨_, answered, _⟩ := succeeds
  exact answered.onward

namespace HostAction

variable {runner : Runner σ} {interval timeout : Duration} {deadline : Nat} {before after : Host σ}

/-- What a search for a renamed card finds. -/
theorem probeRenames_ok_iff {holds : Bool} :
    probeRenames runner (some deadline) before = (.ok holds, after) ↔
      (∃ replayed settled log, Succeeds runner .replayDevices before replayed ∧
        Succeeds runner .settleDevices replayed settled ∧
          Answered runner .searchRenames settled log after ∧ holds = log.succeeded) ∧
        after.clock ≤ deadline := by
  unfold probeRenames
  simp only [succeed_bind_ok_iff, bind_pure_ok_iff, run_ok_iff_le]
  constructor
  · rintro ⟨replayed, ⟨first, _⟩, settled, ⟨second, _⟩, log, ⟨answered, inTime⟩, same⟩
    exact ⟨⟨replayed, settled, log, first, second, answered, same⟩, inTime⟩
  · rintro ⟨⟨replayed, settled, log, first, second, answered, same⟩, inTime⟩
    have early : settled.clock ≤ deadline := answered.onward.trans inTime
    have earlier : replayed.clock ≤ deadline := second.onward.trans early
    exact ⟨replayed, ⟨first, by simpa [noLater] using earlier⟩, settled,
      ⟨second, by simpa [noLater] using early⟩, log, ⟨answered, inTime⟩, same⟩

theorem probeRenames_true_iff :
    probeRenames runner (some deadline) before = (.ok true, after) ↔
      CardFound runner before after ∧ after.clock ≤ deadline := by
  rw [probeRenames_ok_iff]
  refine and_congr_left fun _ => exists_congr fun replayed => exists_congr fun settled => ?_
  constructor
  · rintro ⟨log, first, second, answered, found⟩
    exact ⟨first, second, log, answered, of_decide_eq_true found.symm⟩
  · rintro ⟨first, second, log, answered, zero⟩
    exact ⟨log, first, second, answered, (decide_eq_true zero).symm⟩

theorem probeRenames_false_iff :
    probeRenames runner (some deadline) before = (.ok false, after) ↔
      CardMissing runner before after ∧ after.clock ≤ deadline := by
  rw [probeRenames_ok_iff]
  refine and_congr_left fun _ => exists_congr fun replayed => exists_congr fun settled =>
    exists_congr fun log => and_congr_right fun _ => and_congr_right fun _ => and_congr_right
      fun _ => ?_
  rw [eq_comm]
  exact decide_eq_false_iff_not

theorem round_eq_renameRound :
    Round .renameWait interval (probeRenames runner) deadline =
      RenameRound runner interval deadline := by
  funext before after
  simp only [Round, RenameRound, probeRenames_false_iff, pause_ok_iff, and_assoc]

/-- **A wait for a renamed card that succeeds has found one in time.** -/
theorem renamedBy_of_waitForRename
    (done : waitForRename runner interval timeout before = (.ok (), after)) :
    RenamedBy runner interval (before.clock + timeout.nanos) before after := by
  have ended : (waitFor .renameWait interval timeout (probeRenames runner) before).1 ≠
      .error .stuck := by
    rw [show waitFor _ _ _ _ before = _ from done]
    nofun
  have probed := probeUntil_ok_iff.mp ((waitFor_ok_iff ended).mp done)
  rw [round_eq_renameRound] at probed
  obtain ⟨start, passed, early, found⟩ := probed
  exact ⟨start, passed, early, probeRenames_true_iff.mp found⟩

/-- **A wait for the network that succeeds has converged in time.** -/
theorem convergesBy_of_waitForOnline {devices : List String}
    (done : waitForOnline runner interval devices timeout before = (.ok (), after)) :
    ConvergesBy runner interval devices (before.clock + timeout.nanos) before after := by
  have ended : (waitFor .onlineWait interval timeout (probeOnline runner devices) before).1 ≠
      .error .stuck := by
    rw [show waitFor _ _ _ _ before = _ from done]
    nofun
  exact probeUntil_online_ok_iff.mp ((waitFor_ok_iff ended).mp done)

end HostAction

/-! ### What a stage does -/

/-- Nothing of the host changes but its files. -/
def OnlyFiles (before after : Host σ) : Prop := after = { before with files := after.files }

/-- What a stage does to the host that is carried out to its end. The wait for the network has what is
left of the time of the apply. -/
def Stage.Does (applier : Applier σ) (config : NetworkConfig) (timeout : Duration) (started : Nat)
    (stage : Stage) (before after : Host σ) : Prop :=
  let settings := applier.settings
  match stage with
  | .validate => config.validate = .ok () ∧ after = before
  | .hostname => Succeeds applier.runner (.setHostname (config.hostname?.getD "")) before after
  | .proxy => OnlyFiles before after ∧
      Updated settings.paths.proxyFile (proxyEnvironment? config.proxy) before.files after.files
  | .networkFiles => OnlyFiles before after ∧
      Replaced settings.paths.networkDirectory config.units before.files after.files
  | .timesync => OnlyFiles before after ∧
      Updated settings.paths.timesyncFile (timesyncText? config.ntp) before.files after.files
  | .renameWait => RenamedBy applier.runner settings.pollInterval
      (before.clock + settings.renameTimeout.nanos) before after
  | .networkRestart => Succeeds applier.runner (.restart settings.services.network) before after
  | .timesyncRestart => Succeeds applier.runner (.restart settings.services.timesync) before after
  | .onlineWait => ConvergesBy applier.runner settings.pollInterval config.addressedDevices
      (before.clock + (timeout.nanos - (before.clock - started))) before after

namespace Applier

variable {applier : Applier σ} {config : NetworkConfig} {timeout : Duration} {started : Nat}
  {stage : Stage} {before middle after : Host σ} {halt : Halt ApplyFailure}
  {result : Except (Halt ApplyFailure) Unit}

theorem onlyFiles_of_touches {action : HostAction σ HostFailure Unit} {touched : Place → Prop}
    (touches : Touches before.files.home action touched)
    (done : action before = (.ok (), after)) : OnlyFiles before after :=
  (touches _ _ _ rfl done).1

/-- **Every stage that is carried out to its end does what it is there for.** -/
theorem carryOut_does
    (done : applier.carryOut config timeout started stage before = (.ok (), after)) :
    stage.Does applier config timeout started before after := by
  cases stage with
  | validate =>
    cases valid : config.validate with
    | ok _ =>
      simp only [carryOut, valid] at done
      cases done
      exact ⟨valid, rfl⟩
    | error problem =>
      rw [carryOut_validate _ _ _ _ valid] at done
      cases done
  | hostname => exact succeed_ok_iff.mp (ok_of_mapFailure done)
  | proxy =>
    have run := ok_of_mapFailure done
    exact ⟨onlyFiles_of_touches (updateFile_touches _ _ _) run, updateFile_updated run⟩
  | networkFiles =>
    have run := ok_of_mapFailure done
    exact ⟨onlyFiles_of_touches (writeUnits_touches _ _ _) run,
      writeUnits_replaced (fun _ member => NetworkConfig.leadsDown_of_mem member) run⟩
  | timesync =>
    have run := ok_of_mapFailure done
    exact ⟨onlyFiles_of_touches (updateTimesync_touches _ _ _) run, updateTimesync_updated run⟩
  | renameWait => exact renamedBy_of_waitForRename done
  | networkRestart => exact succeed_ok_iff.mp (ok_of_mapFailure done)
  | timesyncRestart => exact succeed_ok_iff.mp (ok_of_mapFailure done)
  | onlineWait =>
    simp only [carryOut] at done
    rw [bind_of_ok (clock_apply before)] at done
    exact convergesBy_of_waitForOnline done

/-! ### The whole apply -/

/-- A stage of an apply was carried out completely: it has done what it is there for, from the host that
the stages before it have left. -/
def Fulfilled (applier : Applier σ) (config : NetworkConfig) (timeout : Duration)
    (before : Host σ) (stage : Stage) : Prop :=
  ∃ found left, Carried applier config timeout before.clock stage.earlier before found ∧
    applier.carryOut config timeout before.clock stage found = (.ok (), left) ∧
      stage.Does applier config timeout before.clock found left

theorem Reached.fulfilled {found left : Host σ}
    (reached : Reached applier config timeout before.clock stage before found left result after) :
    Fulfilled applier config timeout before stage :=
  ⟨found, left, reached.earlier, reached.done, carryOut_does reached.done⟩

/-- What an apply has done that succeeds: all stages, and it has left behind what they should. -/
structure Completed (applier : Applier σ) (config : NetworkConfig) (timeout : Duration)
    (before after : Host σ) : Prop extends CarriedThrough applier config timeout before after where
  fulfilled : ∀ stage, Fulfilled applier config timeout before stage
  /-- What the stages have done to the files is there, if their paths keep clear of each other. -/
  lasting : applier.settings.paths.Apart before.files.home →
    Lasting applier config timeout before (fun _ => True) after

/-- What an apply has done that stops in a stage: the stages before it, and it has left behind what they
should. -/
structure StoppedIn (applier : Applier σ) (config : NetworkConfig) (timeout : Duration)
    (before : Host σ) (stage : Stage) (halt : Halt ApplyFailure) (after : Host σ) : Prop
    extends CarriedUpTo applier config timeout before stage halt after where
  fulfilled : ∀ earlier, earlier < stage → Fulfilled applier config timeout before earlier
  /-- What these stages have done to the files is there, if their paths keep clear of each other. -/
  lasting : applier.settings.paths.Apart before.files.home →
    Lasting applier config timeout before (· < stage) after

theorem completed_of_carried
    (carried : Carried applier config timeout before.clock Stage.all before after) :
    Completed applier config timeout before after := by
  refine ⟨carriedThrough_of_carried carried, fun stage => ?_, fun apart =>
    lasting_of_carried apart carried⟩
  obtain ⟨found, left, reached⟩ := carried.reached_of_all stage
  exact reached.fulfilled

theorem stoppedIn_of_failed
    (carried : Carried applier config timeout before.clock stage.earlier before middle)
    (failed : applier.carryOut config timeout before.clock stage middle = (.error halt, after)) :
    StoppedIn applier config timeout before stage halt after := by
  refine ⟨carriedUpTo_of_failed carried failed, fun earlier less => ?_, fun apart =>
    lasting_of_failed apart carried failed⟩
  obtain ⟨found, left, reached⟩ := carried.reached_of_failed failed less
  exact reached.fulfilled

/-- **An apply carries out its stages in their order.** It succeeds with all of them carried out, or
stops in one of them with those before it carried out and those after it not begun. What has been done
to the files in the stages that were carried out is still there. -/
theorem apply_in_order (applier : Applier σ) (config : NetworkConfig) (timeout : Duration)
    (before : Host σ) :
    match applier.apply config timeout before with
    | (.ok (), after) => Completed applier config timeout before after
    | (.error halt, after) => ∃ stage, StoppedIn applier config timeout before stage halt after := by
  rw [apply_eq]
  rcases happened : applier.applyFrom config timeout before.clock Stage.all before
    with ⟨halt | done, after⟩
  · obtain ⟨front, stage, back, middle, whole, carried, failed⟩ := applyFrom_error happened
    rw [Stage.front_eq_earlier whole] at carried
    exact ⟨stage, stoppedIn_of_failed carried failed⟩
  · exact completed_of_carried (carried_iff.mpr happened)

end Applier

end HostNet
