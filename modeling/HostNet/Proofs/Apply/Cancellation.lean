/-
**Cancelling an apply.**

Every step of an apply heeds a request for cancellation: commands are refused, pauses end, and no
wait goes on. A wait that has run out of rounds has just had a whole pause, so that nothing was
requested by then. Work on files takes no time and runs no command.

* `carryOut_heeds`: each stage heeds cancellation, and `apply_heeds`: so does an apply;
* `not_restart_of_whole`: a service is restarted in the stages for that, and in no other;
* `nothing_after_cancellation`: **no command is noted once cancellation has been requested**, and if
  the network has not been restarted by then, the apply fails and restarts nothing.
-/

import HostNet.Proofs.Apply.Deadline
import HostNet.Proofs.Host.Cancellation

namespace HostNet

namespace HostAction

open HostNet.Action

variable {σ : Type}

/-! ### Probes and pauses -/

theorem probeRenames_heeds (runner : Runner σ) (limit : Option Nat) :
    Heeds runner (probeRenames runner limit) := by
  unfold probeRenames
  exact (runChecked_heeds runner limit _).bind fun _ =>
    (runChecked_heeds runner limit _).bind fun _ =>
      (run_heeds runner limit _).bind fun _ => .pure runner _

theorem linkState_heeds (runner : Runner σ) (limit : Option Nat) (device : String) :
    Heeds runner (linkState runner limit device) :=
  (run_heeds runner limit _).bind fun _ => .pure runner _

theorem hasAddress_heeds (runner : Runner σ) (limit : Option Nat) (device : String) :
    Heeds runner (hasAddress runner limit device) :=
  (run_heeds runner limit _).bind fun _ => .pure runner _

theorem isSettled_heeds (runner : Runner σ) (limit : Option Nat) (device : String) :
    Heeds runner (isSettled runner limit device) := by
  unfold isSettled
  refine (linkState_heeds runner limit device).bind fun state => ?_
  split
  · exact .pure runner true
  · split
    · exact .pure runner false
    · exact hasAddress_heeds runner limit device

theorem probeOnline_heeds (runner : Runner σ) (devices : List String) (limit : Option Nat) :
    Heeds runner (probeOnline runner devices limit) := by
  induction devices with
  | nil => exact .pure runner true
  | cons device devices ih =>
    unfold probeOnline
    refine (isSettled_heeds runner limit device).bind fun settled => ?_
    cases settled with
    | true => exact ih
    | false => exact .pure runner false

theorem pause_heeds (runner : Runner σ) (stage : Stage) (interval : Duration) :
    Heeds runner (pause stage interval) :=
  (Heeds.clock runner).bind fun _ => await_heeds runner _ _ _

/-- After a whole pause nothing has been requested. -/
theorem free_of_pause {stage : Stage} {interval : Duration} {before after : Host σ}
    (run : pause stage interval before = (.ok (), after)) : after.isCancelled = false := by
  unfold pause at run
  rw [bind_of_ok (clock_apply before)] at run
  obtain ⟨moment, same, -, uncancelled, rfl⟩ := await_ok_iff.mp run
  cases same
  have kept : (before.advance (before.clock + interval.nanos)).UncancelledUntil
      (before.clock + interval.nanos) := uncancelled
  exact kept.isCancelled_eq_false (Nat.max_le.mpr ⟨Nat.le_add_right _ _, Nat.le_refl _⟩)

/-! ### Waits -/

variable {runner : Runner σ} {stage : Stage} {interval timeout : Duration} {deadline : Nat}
  {probe : Probe σ}

/-- An action heeds cancellation where nothing has been requested yet. -/
def HeedsFree {ε α : Type} (runner : Runner σ) (action : HostAction σ ε α) : Prop :=
  ∀ before result after, before.isCancelled = false → action before = (result, after) →
    ∃ exchanges, Heeded runner before result after exchanges

/-- After a pause it is enough to heed cancellation where nothing has been requested. -/
theorem pause_bind_heeds {next : HostAction σ ApplyFailure Unit} (free : HeedsFree runner next) :
    Heeds runner (pause stage interval >>= fun _ => next) := by
  intro before result after happened
  rcases ran : pause stage interval before with ⟨halt | _, middle⟩ <;>
    obtain ⟨front, begun⟩ := pause_heeds runner stage interval _ _ _ ran
  · rw [bind_of_error ran] at happened
    cases happened
    exact ⟨front, begun⟩
  · rw [bind_of_ok ran] at happened
    obtain ⟨back, ended⟩ := free middle result after (free_of_pause ran) happened
    exact ⟨front ++ back, begun.trans ended⟩

/-- One round of a wait, if the rounds after it heed cancellation. -/
theorem round_heeds {fuel : Nat} (probes : ∀ limit, Heeds runner (probe limit))
    (others : HeedsFree runner (probeUntil stage interval timeout probe deadline fuel)) :
    Heeds runner (probeUntil stage interval timeout probe deadline (fuel + 1)) := by
  unfold probeUntil
  refine (Heeds.clock runner).bind fun now => ?_
  dsimp only
  split
  · exact .fail_bind runner _ _
  · refine (probes (some deadline)).mapFailure.orOverdue.bind fun holds => ?_
    cases holds with
    | true => exact .pure runner ()
    | false => exact pause_bind_heeds others

/-- The rounds of a wait, by induction on them. A wait without a round left goes on for ever. -/
theorem probeUntil_heedsFree (probes : ∀ limit, Heeds runner (probe limit)) (fuel : Nat) :
    HeedsFree runner (probeUntil stage interval timeout probe deadline fuel) := by
  induction fuel with
  | zero =>
    intro before result after free happened
    cases happened
    refine ⟨[], .of_silent rfl rfl rfl fun _ => ?_⟩
    rw [Requested.now_iff, free]
    exact Bool.false_ne_true
  | succ fuel ih =>
    intro before result after _ happened
    exact round_heeds probes ih before result after happened

/-- **A wait heeds cancellation.** -/
theorem waitFor_heeds (stage : Stage) (interval timeout : Duration)
    (probes : ∀ limit, Heeds runner (probe limit)) :
    Heeds runner (waitFor stage interval timeout probe) :=
  (Heeds.clock runner).bind fun _ => round_heeds probes (probeUntil_heedsFree probes _)

/-! ### Stages -/

/-- Work on files heeds cancellation. -/
theorem heeds_of_touches (runner : Runner σ) {action : HostAction σ HostFailure Unit}
    {touched : Place → Place → Prop} (touches : ∀ home, Touches home action (touched home)) :
    Heeds runner action := by
  intro before result after happened
  obtain ⟨rest, -, stops⟩ := touches before.files.home before result after rfl happened
  refine ⟨[], .of_silent (by rw [rest]) (by rw [rest]) (by rw [rest]) fun stuck => ?_⟩
  obtain ⟨failure, same⟩ := stops .stuck stuck
  cases same

end HostAction

namespace Applier

open HostAction HostNet.Action

variable {σ : Type}

/-- **Every stage heeds cancellation.** -/
theorem carryOut_heeds (applier : Applier σ) (config : NetworkConfig) (timeout : Duration)
    (started : Nat) (stage : Stage) :
    Heeds applier.runner (applier.carryOut config timeout started stage) := by
  have commanded : ∀ command, Heeds applier.runner
      (do let _ ← runChecked applier.runner none command : HostAction σ HostFailure Unit) :=
    fun command => (runChecked_heeds applier.runner none command).bind fun _ => .pure _ _
  cases stage with
  | validate =>
    simp only [carryOut]
    split
    · exact .pure _ _
    · exact .fail _ _
  | hostname => exact (commanded _).mapFailure
  | proxy =>
    exact (heeds_of_touches _ fun home => updateFile_touches home _ _).mapFailure
  | networkFiles =>
    exact (heeds_of_touches _ fun home => writeUnits_touches home _ _).mapFailure
  | timesync =>
    exact (heeds_of_touches _ fun home => updateTimesync_touches home _ _).mapFailure
  | renameWait => exact waitFor_heeds _ _ _ (probeRenames_heeds _)
  | networkRestart => exact (commanded _).mapFailure
  | timesyncRestart => exact (commanded _).mapFailure
  | onlineWait =>
    exact (Heeds.clock _).bind fun _ => waitFor_heeds _ _ _ (probeOnline_heeds _ _)

/-- **An apply heeds cancellation.** -/
theorem apply_heeds (applier : Applier σ) (config : NetworkConfig) (timeout : Duration) :
    Heeds applier.runner (applier.apply config timeout) :=
  (Heeds.clock _).bind fun started => Heeds.forM fun stage _ =>
    applier.carryOut_heeds config timeout started stage

/-! ### Restarts -/

/-- What was run between two states of a host is known from them. -/
theorem recorded_unique {before after : Host σ} {first second : List Command}
    (one : Recorded before first after) (two : Recorded before second after) : first = second := by
  obtain ⟨calls, whole, rfl⟩ := one
  obtain ⟨others, same, rfl⟩ := two
  rw [List.append_cancel_left (whole.symm.trans same)]

/-- A pass over devices only asks questions. -/
theorem not_restart_of_pass {devices : List String} {commands : List Command}
    (pass : OnlinePass devices commands) (name : String) : .restart name ∉ commands := by
  have asked : ∀ {device asked}, DeviceAsked device asked → .restart name ∉ asked := by
    rintro device _ (rfl | rfl) <;>
      simp [Command.restart, Command.service, Command.linkStatus, Command.showAddresses]
  induction pass with
  | done => exact List.not_mem_nil
  | ended _ questions => exact asked questions
  | further questions _ ih => exact List.not_mem_append (asked questions) ih

/-- The commands of a stage that is none of the restarts restart nothing. -/
theorem not_restart_of_whole {settings : Settings} {config : NetworkConfig} {stage : Stage}
    {commands : List Command} (whole : stage.Whole settings config commands)
    (other : stage ≠ .networkRestart ∧ stage ≠ .timesyncRestart) (name : String) :
    .restart name ∉ commands := by
  cases stage with
  | validate | proxy | networkFiles | timesync =>
    obtain rfl : commands = [] := whole
    exact List.not_mem_nil
  | hostname =>
    obtain rfl : commands = [.setHostname _] := whole
    simp [Command.restart, Command.service, Command.setHostname]
  | renameWait =>
    obtain ⟨rounds, -, alike, rfl⟩ := whole
    rw [List.mem_flatten]
    rintro ⟨round, inside, restarted⟩
    rw [alike round inside] at restarted
    simp [renameSearch, Command.restart, Command.service, Command.replayDevices,
      Command.settleDevices, Command.searchRenames] at restarted
  | onlineWait =>
    obtain ⟨rounds, -, passes, rfl⟩ := whole
    rw [List.mem_flatten]
    rintro ⟨round, inside, restarted⟩
    exact not_restart_of_pass (passes round inside) name restarted
  | networkRestart => exact absurd rfl other.1
  | timesyncRestart => exact absurd rfl other.2

/-- An apply that stops without restarting the network has not restarted the time synchronization
either, which comes later. -/
theorem CarriedUpTo.not_restarted {applier : Applier σ} {config : NetworkConfig}
    {timeout : Duration} {before after : Host σ} {stage : Stage} {halt : Halt ApplyFailure}
    (stopped : CarriedUpTo applier config timeout before stage halt after) {commands : List Command}
    (recorded : Recorded before commands after)
    (untouched : .restart applier.settings.services.network ∉ commands) :
    .restart applier.settings.services.timesync ∉ commands := by
  obtain ⟨record, earlier, ⟨complete, whole, begun⟩, later, all⟩ := stopped.commands
  rw [recorded_unique recorded all] at untouched ⊢
  rw [List.mem_flatMap] at untouched ⊢
  rintro ⟨reached, -, restarted⟩
  have notLater : ¬ stage < reached := by
    intro less
    rw [later reached less] at restarted
    exact List.not_mem_nil restarted
  have fits : ∃ complete, reached.Whole applier.settings config complete ∧
      record reached <+: complete := by
    obtain less | same | less := Nat.lt_trichotomy reached.rank stage.rank
    · exact ⟨record reached, earlier reached less, List.prefix_refl _⟩
    · rw [Stage.rank_injective same]
      exact ⟨complete, whole, begun⟩
    · exact absurd less notLater
  obtain ⟨complete, whole, begun⟩ := fits
  by_cases network : reached = .networkRestart
  · subst network
    obtain rfl : complete = [.restart applier.settings.services.network] := whole
    have same := List.mem_singleton.mp (begun.subset restarted)
    exact untouched ⟨.networkRestart, Stage.mem_all _, same ▸ restarted⟩
  by_cases time : reached = .timesyncRestart
  · subst time
    have before : Stage.networkRestart < stage :=
      Nat.lt_of_lt_of_le (by decide : (6 : Nat) < 7) (Nat.le_of_not_lt notLater)
    have done : record .networkRestart = [.restart applier.settings.services.network] :=
      earlier _ before
    exact untouched ⟨.networkRestart, Stage.mem_all _, done ▸ List.mem_singleton_self _⟩
  · exact not_restart_of_whole whole ⟨network, time⟩ _ (begun.subset restarted)

/-- **No command is noted once cancellation has been requested**, beforehand or with the answer to a
command: a request that comes when some commands have been noted, and no later than the next one,
leaves these the only ones. If the network has not been restarted by then, the apply fails, and it
restarts neither service. -/
theorem nothing_after_cancellation (applier : Applier σ) (config : NetworkConfig)
    (timeout : Duration) (before : Host σ) :
    ∃ exchanges,
      Exchanged applier.runner before exchanges (applier.apply config timeout before).2 ∧
      ∀ front back moment, exchanges = front ++ back → Requested before front moment →
        (∀ next ∈ back.head?, moment ≤ next.call.moment) →
        back = [] ∧
          (moment ≤ (applier.apply config timeout before).2.clock →
            .restart applier.settings.services.network ∉ front.map (·.call.command) →
            (∃ failure, (applier.apply config timeout before).1 = .error (.failed failure)) ∧
              .restart applier.settings.services.timesync ∉ front.map (·.call.command)) := by
  rcases run : applier.apply config timeout before with ⟨result, after⟩
  obtain ⟨exchanges, heeded⟩ := applier.apply_heeds config timeout before result after run
  refine ⟨exchanges, heeded.exchanged, ?_⟩
  rintro front back moment rfl requested later
  have none : back = [] := by
    cases back with
    | nil => rfl
    | cons exchange back =>
      exact absurd (requested.mono (later exchange rfl)) (heeded.free front exchange back rfl)
  subst none
  rw [List.append_nil] at heeded
  refine ⟨rfl, fun within untouched => ?_⟩
  have recorded : Recorded before (front.map (·.call.command)) after :=
    ⟨_, heeded.exchanged.calls, List.map_map⟩
  rw [apply_eq] at run
  rcases result with halt | _
  · obtain ⟨_, stage, _, middle, whole, carried, failed⟩ := applyFrom_error run
    rw [Stage.front_eq_earlier whole] at carried
    have stopped := carriedUpTo_of_failed carried failed
    refine ⟨?_, stopped.not_restarted recorded untouched⟩
    obtain rfl | ⟨failure, rfl, -⟩ := stopped.stops
    · exact absurd (requested.mono within) (heeded.returns rfl)
    · exact ⟨failure, rfl⟩
  · have completed := carriedThrough_of_carried (carried_iff.mpr run)
    obtain ⟨searches, passes, -, -, -, all⟩ := completed.commands
    rw [recorded_unique recorded all] at untouched
    simp at untouched

/-- A host on which cancellation is requested after two and a half seconds. -/
def impatient : Host Unit where
  cancelAt := some 2500000000
  runner := ()

/-- An apply whose commands take a second each is cancelled in its third command. -/
theorem slow_cancelled :
    (∃ failure, (slow.apply {} (.ofSecs 60) impatient).1 = .error (.failed failure)) ∧
      (slow.apply {} (.ofSecs 60) impatient).2.calls.map (·.command) =
        [.setHostname "", .replayDevices, .settleDevices] := by
  have noted : (slow.apply {} (.ofSecs 60) impatient).2.calls.map (·.command) =
      [.setHostname "", .replayDevices, .settleDevices] := by decide +kernel
  have within : 2500000000 ≤ (slow.apply {} (.ofSecs 60) impatient).2.clock := by
    decide +kernel
  obtain ⟨exchanges, exchanged, stops⟩ :=
    nothing_after_cancellation slow {} (.ofSecs 60) impatient
  have commands : exchanges.map (·.call.command) =
      [.setHostname "", .replayDevices, .settleDevices] := by
    rw [exchanged.calls, List.map_append, List.map_map] at noted
    exact noted
  have untouched : .restart slow.settings.services.network ∉ exchanges.map (·.call.command) := by
    rw [commands]
    decide
  obtain ⟨-, ended⟩ := stops exchanges [] 2500000000 (List.append_nil _).symm
    (.inl ⟨_, rfl, Nat.le_refl _⟩) nofun
  exact ⟨(ended within untouched).1, noted⟩

end Applier

end HostNet
