/-
**Waits and their deadlines.**

A wait has a deadline, which is its start and the time that it is given. A probe keeps to the
deadline, because it is given up there. The pause between two probes does not: it may begin just
before the deadline and lasts a whole interval.

So a wait does not say that its time is over before it is, but it may say so late, by at most one
pause. Only that message and the cancellation of a pause can come late; a wait that succeeds, or in
which a command fails, ends by the deadline.

* `WaitEnds`: how a wait ends, early or late;
* `probeUntil_ends`: from one round of a wait to the whole wait, by induction on its rounds;
* `timedOut_after_deadline`: no wait says that its time is over before it is;
* `ends_within_pause`: every wait ends at most one pause after its deadline.
-/

import HostNet.Proofs.Apply.Order
import HostNet.Proofs.Host.Time
import Mathlib.Data.Prod.Basic

namespace HostNet

namespace HostAction

open HostNet.Action

variable {σ : Type}

/-! ### Probes -/

theorem probeRenames_punctual (runner : Runner σ) (limit : Option Nat) :
    Punctual limit (probeRenames runner limit) := by
  unfold probeRenames
  exact (runChecked_punctual runner limit _).bind fun _ =>
    (runChecked_punctual runner limit _).bind fun _ =>
      (run_punctual runner limit _).bind fun _ => Punctual.pure limit _

theorem linkState_punctual (runner : Runner σ) (limit : Option Nat) (device : String) :
    Punctual limit (linkState runner limit device) :=
  (run_punctual runner limit _).bind fun _ => Punctual.pure limit _

theorem hasAddress_punctual (runner : Runner σ) (limit : Option Nat) (device : String) :
    Punctual limit (hasAddress runner limit device) :=
  (run_punctual runner limit _).bind fun _ => Punctual.pure limit _

theorem isSettled_punctual (runner : Runner σ) (limit : Option Nat) (device : String) :
    Punctual limit (isSettled runner limit device) := by
  unfold isSettled
  refine (linkState_punctual runner limit device).bind fun state => ?_
  split
  · exact Punctual.pure limit true
  · split
    · exact Punctual.pure limit false
    · exact hasAddress_punctual runner limit device

theorem probeOnline_punctual (runner : Runner σ) (devices : List String) (limit : Option Nat) :
    Punctual limit (probeOnline runner devices limit) := by
  induction devices with
  | nil => exact Punctual.pure limit true
  | cons device devices ih =>
    unfold probeOnline
    refine (isSettled_punctual runner limit device).bind fun settled => ?_
    cases settled with
    | true => exact ih
    | false => exact Punctual.pure limit false

/-! ### One round -/

variable {stage : Stage} {interval timeout : Duration} {deadline : Nat} {before after : Host σ}
  {result : Except (Halt ApplyFailure) Unit} {probe : Probe σ}

/-- A pause lasts an interval, unless it is cancelled before. -/
theorem pause_cases (run : pause stage interval before = (result, after)) :
    before.clock ≤ after.clock ∧ after.clock ≤ before.clock + interval.nanos ∧
      ((result = .ok () ∧ after.clock = before.clock + interval.nanos) ∨
        result = .error (.failed (.hostFailed stage (.cancelled stage.text)))) := by
  unfold pause at run
  rw [bind_of_ok (clock_apply before)] at run
  obtain ⟨moment, answer, there, _, rfl, rfl⟩ | ⟨moment, _, early, rfl, rfl⟩ | ⟨_, limited, _⟩ |
    ⟨_, absent, _⟩ := await_cases run
  · cases there
    have reached : (before.advance (before.clock + interval.nanos)).clock =
        before.clock + interval.nanos := Nat.max_eq_right (Nat.le_add_right _ _)
    exact ⟨Nat.le_max_left _ _, Nat.le_of_eq reached, .inl ⟨rfl, reached⟩⟩
  · have inTime : moment ≤ before.clock + interval.nanos := by simpa [noLater] using early
    exact ⟨Nat.le_max_left _ _, Nat.max_le.mpr ⟨Nat.le_add_right _ _, inTime⟩, .inr rfl⟩
  · cases limited
  · cases absent

/-- A probe of a wait ends by the deadline. It says that the time is over once the deadline has come,
or a command fails in it. -/
theorem probe_ends {answer : Except (Halt ApplyFailure) Bool}
    (punctual : ∀ limit, Punctual limit (probe limit))
    (run : orOverdue (.timedOut stage timeout)
      (mapFailure (.hostFailed stage) (probe (some deadline))) before = (answer, after)) :
    before.clock ≤ after.clock ∧ after.clock ≤ max before.clock deadline ∧
      ∀ halt, answer = .error halt →
        (halt = .failed (.timedOut stage timeout) ∧ deadline ≤ after.clock) ∨
          ∃ failure, halt = .failed (.hostFailed stage failure) := by
  obtain ⟨onward, within, stops⟩ := (punctual (some deadline)).mapFailure.orOverdue_cases run
  refine ⟨onward, within, fun halt stopped => (stops halt stopped).imp_right ?_⟩
  rintro ⟨told, rfl, failed⟩
  rcases ran : probe (some deadline) before with ⟨cause | holds, middle⟩
  · simp only [mapFailure, ran, mapError_error] at failed
    cases cause <;> cases failed
    exact ⟨_, rfl⟩
  · simp only [mapFailure, ran, mapError_ok] at failed
    cases failed

/-- **One round of a wait whose deadline has not come.** The wait ends by the deadline, or in a pause
that is cancelled, or the round ends with a whole pause and another one follows. -/
theorem round_cases {fuel : Nat} (punctual : ∀ limit, Punctual limit (probe limit))
    (early : before.clock < deadline)
    (run : probeUntil stage interval timeout probe deadline (fuel + 1) before = (result, after)) :
    (before.clock ≤ after.clock ∧ after.clock ≤ deadline ∧ (result = .ok () ∨
        (result = .error (.failed (.timedOut stage timeout)) ∧ deadline ≤ after.clock) ∨
        ∃ failure, result = .error (.failed (.hostFailed stage failure)))) ∨
      (before.clock ≤ after.clock ∧ after.clock ≤ deadline + interval.nanos ∧
        result = .error (.failed (.hostFailed stage (.cancelled stage.text)))) ∨
      ∃ middle, before.clock + interval.nanos ≤ middle.clock ∧
        middle.clock ≤ deadline + interval.nanos ∧
          probeUntil stage interval timeout probe deadline fuel middle = (result, after) := by
  unfold probeUntil at run
  rw [bind_of_ok (clock_apply before), if_neg (Nat.not_le_of_lt early)] at run
  dsimp only at run
  rcases ran : orOverdue (ApplyFailure.timedOut stage timeout)
    (mapFailure (ApplyFailure.hostFailed stage) (probe (some deadline))) before
    with ⟨halt | holds, middle⟩
  · rw [bind_of_error ran] at run
    cases run
    obtain ⟨onward, within, stops⟩ := probe_ends punctual ran
    refine .inl ⟨onward, by omega, .inr ?_⟩
    obtain ⟨rfl, come⟩ | ⟨failure, rfl⟩ := stops halt rfl
    · exact .inl ⟨rfl, come⟩
    · exact .inr ⟨failure, rfl⟩
  rw [bind_of_ok ran] at run
  obtain ⟨onward, within, _⟩ := probe_ends punctual ran
  cases holds with
  | true =>
    cases run
    exact .inl ⟨onward, by omega, .inl rfl⟩
  | false =>
    rw [if_neg Bool.false_ne_true] at run
    rcases rest : pause stage interval middle with ⟨halt | _, late⟩
    · rw [bind_of_error rest] at run
      cases run
      obtain ⟨later, soon, ⟨same, _⟩ | same⟩ := pause_cases rest
      · cases same
      · cases same
        exact .inr (.inl ⟨by omega, by omega, rfl⟩)
    · rw [bind_of_ok rest] at run
      obtain ⟨later, soon, ⟨_, whole⟩ | same⟩ := pause_cases rest
      · exact .inr (.inr ⟨late, by omega, by omega, run⟩)
      · cases same

/-! ### The whole wait -/

/-- How a wait with a deadline ends. -/
structure WaitEnds (stage : Stage) (interval timeout : Duration) (deadline : Nat)
    (before : Host σ) (result : Except (Halt ApplyFailure) Unit) (after : Host σ) : Prop where
  onward : before.clock ≤ after.clock
  /-- Nothing is begun once the deadline has come. -/
  expired : deadline ≤ before.clock → after = before
  bound : before.clock < deadline → after.clock ≤ deadline + interval.nanos
  /-- The time is said to be over only once it is. -/
  told : ∀ named limit, result = .error (.failed (.timedOut named limit)) →
    named = stage ∧ limit = timeout ∧ deadline ≤ after.clock
  /-- Only a pause goes past the deadline: then the time is over or the pause was cancelled. -/
  paused : before.clock < deadline → deadline < after.clock →
    result = .error (.failed (.timedOut stage timeout)) ∨
      result = .error (.failed (.hostFailed stage (.cancelled stage.text)))
  /-- A wait whose pauses take time comes to its end. -/
  returns : 0 < interval.nanos → result ≠ .error .stuck

theorem probeUntil_expired {fuel : Nat} (expiry : deadline ≤ before.clock) :
    probeUntil stage interval timeout probe deadline (fuel + 1) before =
      (.error (.failed (.timedOut stage timeout)), before) := by
  unfold probeUntil
  rw [bind_of_ok (clock_apply before), if_pos expiry, bind_of_error (fail_apply _ before)]

/-- **How a wait ends**, by induction on its rounds. As long as a pause takes time, there are more
rounds than moments left before the deadline. -/
theorem probeUntil_ends {fuel : Nat} (punctual : ∀ limit, Punctual limit (probe limit))
    (enough : 0 < interval.nanos → deadline - before.clock < fuel)
    (run : probeUntil stage interval timeout probe deadline fuel before = (result, after)) :
    WaitEnds stage interval timeout deadline before result after := by
  induction fuel generalizing before with
  | zero =>
    cases run
    exact ⟨Nat.le_refl _, fun _ => rfl, by omega, nofun, by omega, by omega⟩
  | succ fuel ih =>
    by_cases expiry : deadline ≤ before.clock
    · rw [probeUntil_expired expiry] at run
      cases run
      refine ⟨Nat.le_refl _, fun _ => rfl, by omega, fun named limit same => ?_, by omega, nofun⟩
      cases same
      exact ⟨rfl, rfl, expiry⟩
    obtain ⟨onward, within, rfl | ⟨rfl, come⟩ | ⟨failure, rfl⟩⟩ | ⟨onward, soon, rfl⟩ |
      ⟨middle, onward, soon, further⟩ := round_cases punctual (Nat.lt_of_not_le expiry) run
    · exact ⟨onward, by omega, by omega, nofun, by omega, nofun⟩
    · refine ⟨onward, by omega, by omega, fun named limit same => ?_, by omega, nofun⟩
      cases same
      exact ⟨rfl, rfl, come⟩
    · exact ⟨onward, by omega, by omega, nofun, by omega, nofun⟩
    · exact ⟨onward, by omega, fun _ => soon, nofun, fun _ _ => .inr rfl, nofun⟩
    · have more : 0 < interval.nanos → deadline - middle.clock < fuel := by omega
      obtain ⟨later, expired, bound, told, paused, returns⟩ := ih more further
      refine ⟨by omega, by omega, fun _ => ?_, told, fun _ past => ?_, returns⟩
      · by_cases late : deadline ≤ middle.clock
        · rw [expired late]
          exact soon
        · exact bound (Nat.lt_of_not_le late)
      · by_cases late : deadline ≤ middle.clock
        · -- the pause ended after the deadline, so nothing is begun any more
          have same := expired late
          cases fuel with
          | zero =>
            rw [same] at past
            exact absurd (more (by omega)) (Nat.not_lt_zero _)
          | succ fuel =>
            rw [probeUntil_expired late] at further
            cases further
            exact .inl rfl
        · exact paused (Nat.lt_of_not_le late) past

theorem waitFor_ends (punctual : ∀ limit, Punctual limit (probe limit))
    (run : waitFor stage interval timeout probe before = (result, after)) :
    WaitEnds stage interval timeout (before.clock + timeout.nanos) before result after := by
  unfold waitFor at run
  rw [bind_of_ok (clock_apply before)] at run
  exact probeUntil_ends punctual (by omega) run

/-- A deadline that has come already is as good as none. -/
theorem WaitEnds.of_max
    (ends : WaitEnds stage interval timeout (max before.clock deadline) before result after) :
    WaitEnds stage interval timeout deadline before result after := by
  obtain ⟨onward, expired, bound, told, paused, returns⟩ := ends
  have later : before.clock < deadline → max before.clock deadline = deadline :=
    fun early => Nat.max_eq_right early.le
  refine ⟨onward, fun expiry => expired (by omega), fun early => ?_, fun named limit same => ?_,
    fun early past => paused (by omega) (by omega), returns⟩
  · have bounded := bound (by omega)
    rwa [later early] at bounded
  · obtain ⟨rfl, rfl, come⟩ := told named limit same
    exact ⟨rfl, rfl, by omega⟩

end HostAction

/-! ### The waits of an apply -/

namespace Applier

open HostAction HostNet.Action

variable {σ : Type} {applier : Applier σ} {config : NetworkConfig} {timeout : Duration}
  {started : Nat} {before middle after : Host σ} {result : Except (Halt ApplyFailure) Unit}

/-- Work on files takes no time. -/
theorem punctual_of_touches {action : HostAction σ HostFailure Unit} {touched : Place → Place → Prop}
    (limit : Option Nat) (touches : ∀ home, Touches home action (touched home)) :
    Punctual limit action := by
  refine Punctual.of_still fun before result after happened => ?_
  obtain ⟨rest, _, stops⟩ := touches before.files.home before result after rfl happened
  exact ⟨by rw [rest], stops⟩

/-- The wait for the network has what the earlier stages have left of the time of the apply. -/
theorem onlineWait_ends (onward : started ≤ before.clock)
    (run : applier.carryOut config timeout started .onlineWait before = (result, after)) :
    WaitEnds .onlineWait applier.settings.pollInterval ⟨timeout.nanos - (before.clock - started)⟩
      (started + timeout.nanos) before result after := by
  change (HostAction.clock >>= fun now => waitForOnline applier.runner _ config.addressedDevices
    ⟨timeout.nanos - (now - started)⟩) before = _ at run
  rw [bind_of_ok (clock_apply before)] at run
  have ends := waitFor_ends (probeOnline_punctual _ _) run
  have left : before.clock + (timeout.nanos - (before.clock - started)) =
      max before.clock (started + timeout.nanos) := by omega
  rw [left] at ends
  exact ends.of_max

/-- Every stage but the two waits takes no longer than its commands. -/
theorem carryOut_punctual {stage : Stage} (noWait : stage ≠ .renameWait ∧ stage ≠ .onlineWait) :
    Punctual none (applier.carryOut config timeout started stage) := by
  have commanded : ∀ command, Punctual none
      (do let _ ← runChecked applier.runner none command : HostAction σ HostFailure Unit) :=
    fun command => (runChecked_punctual applier.runner none command).bind fun _ =>
      Punctual.pure none _
  cases stage with
  | validate =>
    simp only [carryOut]
    split
    · exact Punctual.pure none _
    · exact Punctual.fail none _
  | hostname => exact (commanded _).mapFailure
  | proxy => exact (punctual_of_touches none fun home => updateFile_touches home _ _).mapFailure
  | networkFiles =>
    exact (punctual_of_touches none fun home => writeUnits_touches home _ _).mapFailure
  | timesync => exact (punctual_of_touches none fun home => updateTimesync_touches home _ _).mapFailure
  | networkRestart => exact (commanded _).mapFailure
  | timesyncRestart => exact (commanded _).mapFailure
  | renameWait => exact absurd rfl noWait.1
  | onlineWait => exact absurd rfl noWait.2

/-- Time does not go back in a stage. -/
theorem carryOut_onward {stage : Stage} (onward : started ≤ before.clock)
    (run : applier.carryOut config timeout started stage before = (result, after)) :
    before.clock ≤ after.clock := by
  by_cases noWait : stage ≠ .renameWait ∧ stage ≠ .onlineWait
  · exact (carryOut_punctual noWait _ _ _ run).onward
  · rw [not_and_or, not_not, not_not] at noWait
    obtain rfl | rfl := noWait
    · exact (waitFor_ends (probeRenames_punctual _) run).onward
    · exact (onlineWait_ends onward run).onward

/-- Time does not go back in stages that are carried out one after the other. -/
theorem Carried.onward {stages : List Stage} (onward : started ≤ before.clock)
    (carried : Carried applier config timeout started stages before after) :
    before.clock ≤ after.clock := by
  induction carried with
  | done host => exact Nat.le_refl _
  | next first others ih =>
    have step := carryOut_onward onward first
    exact step.trans (ih (onward.trans step))

/-- Once the stages before the wait for the network are carried out, an apply ends as that wait
does. -/
theorem apply_ends
    (carried : Carried applier config timeout before.clock Stage.onlineWait.earlier before middle) :
    WaitEnds .onlineWait applier.settings.pollInterval
      ⟨timeout.nanos - (middle.clock - before.clock)⟩ (before.clock + timeout.nanos) middle
      (applier.apply config timeout before).1 (applier.apply config timeout before).2 := by
  have last : applier.apply config timeout before =
      applier.carryOut config timeout before.clock .onlineWait middle := by
    rw [apply_eq]
    refine (carried.applyFrom_append [.onlineWait]).trans ?_
    rw [applyFrom_cons]
    rcases run : applier.carryOut config timeout before.clock .onlineWait middle with ⟨halt | _, after⟩
    · exact bind_of_error run _
    · exact bind_of_ok run _
  rw [last]
  exact onlineWait_ends (carried.onward (Nat.le_refl _)) rfl

/-! ### The main results -/

/-- **No wait says that its time is over before it is.** The wait of an apply for the network says so
only once the time of the whole apply is over, whatever the earlier stages took of it. Without time a
wait says so at once and leaves the host as it is. -/
theorem timedOut_after_deadline (runner : Runner σ) (interval timeout : Duration)
    (devices : List String) (applier : Applier σ) (config : NetworkConfig) (before : Host σ) :
    (∀ stage limit after, waitForRename runner interval timeout before =
        (.error (.failed (.timedOut stage limit)), after) →
      stage = .renameWait ∧ limit = timeout ∧ before.clock + timeout.nanos ≤ after.clock) ∧
    (∀ stage limit after, waitForOnline runner interval devices timeout before =
        (.error (.failed (.timedOut stage limit)), after) →
      stage = .onlineWait ∧ limit = timeout ∧ before.clock + timeout.nanos ≤ after.clock) ∧
    (∀ limit after, applier.apply config timeout before =
        (.error (.failed (.timedOut .onlineWait limit)), after) →
      before.clock + timeout.nanos ≤ after.clock) ∧
    waitForRename runner interval ⟨0⟩ before =
      (.error (.failed (.timedOut .renameWait ⟨0⟩)), before) ∧
    waitForOnline runner interval devices ⟨0⟩ before =
      (.error (.failed (.timedOut .onlineWait ⟨0⟩)), before) := by
  refine ⟨fun stage limit after run => ?_, fun stage limit after run => ?_,
    fun limit after run => ?_, waitFor_zero _ _ _ _, waitFor_zero _ _ _ _⟩
  · exact (waitFor_ends (probeRenames_punctual runner) run).told stage limit rfl
  · exact (waitFor_ends (probeOnline_punctual runner devices) run).told stage limit rfl
  · obtain ⟨front, stage, back, middle, whole, carried, failed⟩ :=
      applyFrom_error ((apply_eq _ _ _ _).symm.trans run)
    rw [Stage.front_eq_earlier whole] at carried
    -- the failure names the stage in which the apply stopped
    obtain stuck | ⟨failure, same, named⟩ := (carriedUpTo_of_failed carried failed).stops
    · cases stuck
    cases same
    cases named
    exact ((onlineWait_ends (carried.onward (Nat.le_refl _)) failed).told _ _ rfl).2.2

/-- A host without files at the start of its clock. -/
def bare : Host Unit where
  runner := ()

/-- A configuration with one interface. -/
def wired : NetworkConfig where
  interfaces := [{ name := "eth0", hwaddr := "aa:00:00:00:00:01" }]

/-- Every command takes a second and has nothing to say. -/
def slow : Applier Unit where
  runner := fun _ _ => ({ answer := some (.finished {}), delay := 1000000000 }, ())
  settings := {}

/-- The earlier stages take six seconds, so that nothing of two seconds is left for the network. -/
theorem slow_timedOut :
    (slow.apply wired (.ofSecs 2) bare).1 = .error (.failed (.timedOut .onlineWait ⟨0⟩)) ∧
      bare.clock + (Duration.ofSecs 2).nanos ≤ (slow.apply wired (.ofSecs 2) bare).2.clock := by
  have told : (slow.apply wired (.ofSecs 2) bare).1 =
      .error (.failed (.timedOut .onlineWait ⟨0⟩)) := by decide +kernel
  exact ⟨told, (timedOut_after_deadline slow.runner ⟨0⟩ (.ofSecs 2) [] slow wired bare).2.2.1
    ⟨0⟩ _ (Prod.fst_eq_iff.mp told)⟩

/-- **A wait ends by its deadline, or with the pause that it is in then.** It comes to an end if its
pauses take time. -/
theorem ends_within_pause (runner : Runner σ) (interval timeout : Duration) (devices : List String)
    (applier : Applier σ) (config : NetworkConfig) (before : Host σ) :
    WaitEnds .renameWait interval timeout (before.clock + timeout.nanos) before
        (waitForRename runner interval timeout before).1
        (waitForRename runner interval timeout before).2 ∧
      WaitEnds .onlineWait interval timeout (before.clock + timeout.nanos) before
        (waitForOnline runner interval devices timeout before).1
        (waitForOnline runner interval devices timeout before).2 ∧
      ∀ middle, Carried applier config timeout before.clock Stage.onlineWait.earlier before middle →
        WaitEnds .onlineWait applier.settings.pollInterval
          ⟨timeout.nanos - (middle.clock - before.clock)⟩ (before.clock + timeout.nanos) middle
          (applier.apply config timeout before).1 (applier.apply config timeout before).2 :=
  ⟨waitFor_ends (probeRenames_punctual runner) rfl,
    waitFor_ends (probeOnline_punctual runner devices) rfl, fun _ carried => apply_ends carried⟩

/-- The network never comes up: every command answers at once that a device is required and not yet
online. -/
def unready : Applier Unit where
  runner := fun _ _ => ({ answer := some (.finished { stdout := "Required For Online: yes" }) }, ())
  settings := {}

/-- An apply that waits for such a network comes to its end, one pause late at the most. -/
theorem unready_ends_within_pause :
    0 < unready.settings.pollInterval.nanos ∧
      (unready.apply wired (.ofMillis 700) bare).1 ≠ .error .stuck ∧
      (unready.apply wired (.ofMillis 700) bare).2.clock ≤
        bare.clock + (Duration.ofMillis 700).nanos + unready.settings.pollInterval.nanos := by
  have pauses : 0 < unready.settings.pollInterval.nanos := by decide +kernel
  have reached : (unready.applyFrom wired (.ofMillis 700) bare.clock Stage.onlineWait.earlier
      bare).1 = .ok () := by decide +kernel
  have early : (unready.applyFrom wired (.ofMillis 700) bare.clock Stage.onlineWait.earlier
      bare).2.clock < bare.clock + (Duration.ofMillis 700).nanos := by decide +kernel
  have ends := (ends_within_pause unready.runner unready.settings.pollInterval (.ofMillis 700)
    ["eth0"] unready wired bare).2.2 _ (carried_iff.mpr (Prod.fst_eq_iff.mp reached))
  exact ⟨pauses, ends.returns pauses, ends.bound early⟩

/-- A wait may end after its deadline: two probes, and a pause that goes past the deadline. -/
theorem unready_ends_late :
    (waitForOnline unready.runner (.ofMillis 500) ["eth0"] (.ofMillis 700) bare).1 =
        .error (.failed (.timedOut .onlineWait (.ofMillis 700))) ∧
      ¬ (waitForOnline unready.runner (.ofMillis 500) ["eth0"] (.ofMillis 700) bare).2.clock ≤
        bare.clock + (Duration.ofMillis 700).nanos := by
  constructor <;> decide +kernel

end Applier

end HostNet
