/-
**When a wait for the network succeeds.**

A wait asks about its devices in passes. A pass ends at the first device that has not converged, and
the next pass asks about all devices anew. The wait succeeds with the first pass that is begun before
the deadline, is over by then, and finds every device converged; what an earlier pass has found about
a device does not count.

* `Converged` and `Unconverged`: what the answers about a device say, command by command;
* `probeOnline_true_iff` and `probeOnline_false_iff`: what a pass finds, by induction on the devices;
* `probeUntil_ok_iff`: a wait of any kind succeeds with the first probe that holds;
* `waitForOnline_ok_iff`: the wait for the network succeeds exactly if a pass converges in time.
-/

import HostNet.Proofs.Apply.Deadline
import HostNet.Proofs.Host.Answers
import Mathlib.Logic.Relation

namespace HostNet

open HostNet.Text

variable {σ : Type}

/-! ### What an answer says -/

/-- A status says that the host waits for the device. -/
def Outcome.SaysRequired (status : Outcome) : Prop :=
  "Required For Online: yes".toList <:+: status.stdout.toList

/-- A status says that the device is online. -/
def Outcome.SaysOnline (status : Outcome) : Prop :=
  "Online state: online".toList <:+: status.stdout.toList

theorem occursIn_iff_isInfix (wanted characters : List Char) :
    occursIn wanted characters = true ↔ wanted <:+: characters := by
  rw [occursIn_iff]
  constructor
  · rintro ⟨before, after, rfl⟩
    exact ⟨before, after, rfl⟩
  · rintro ⟨before, after, rfl⟩
    exact ⟨before, after, rfl⟩

/-! ### Passes -/

section Passes

variable (runner : Runner σ)

/-- **A device has converged**: its status was told and does not say that the host waits for it, or
says so and that it is online, and then its addresses were told and one of them reaches beyond the
link. -/
inductive Converged (device : String) (before after : Host σ) : Prop
  | notAwaited {status : Outcome} (asked : Answered runner (.linkStatus device) before status after)
      (told : status.exitCode = 0) (free : ¬ status.SaysRequired)
  | reachable {status listing : Outcome} {middle : Host σ}
      (asked : Answered runner (.linkStatus device) before status middle)
      (told : status.exitCode = 0) (required : status.SaysRequired) (online : status.SaysOnline)
      (looked : Answered runner (.showAddresses device) middle listing after)
      (listed : listing.exitCode = 0) (routable : 0 < countRoutable listing.stdout)

/-- **A device has not converged**: its status was not told, which counts as awaited and offline, or
says that the host waits for it and not that it is online, or no address of it was told that reaches
beyond the link. -/
inductive Unconverged (device : String) (before after : Host σ) : Prop
  | unknown {status : Outcome} (asked : Answered runner (.linkStatus device) before status after)
      (failed : status.exitCode ≠ 0)
  | offline {status : Outcome} (asked : Answered runner (.linkStatus device) before status after)
      (told : status.exitCode = 0) (required : status.SaysRequired) (offline : ¬ status.SaysOnline)
  | unreachable {status listing : Outcome} {middle : Host σ}
      (asked : Answered runner (.linkStatus device) before status middle)
      (told : status.exitCode = 0) (required : status.SaysRequired) (online : status.SaysOnline)
      (looked : Answered runner (.showAddresses device) middle listing after)
      (none : listing.exitCode ≠ 0 ∨ countRoutable listing.stdout = 0)

/-- A pass that finds every device converged, one after the other. -/
inductive ConvergedPass : List String → Host σ → Host σ → Prop
  | done (host : Host σ) : ConvergedPass [] host host
  | next {device : String} {devices : List String} {before middle after : Host σ}
      (first : Converged runner device before middle)
      (others : ConvergedPass devices middle after) : ConvergedPass (device :: devices) before after

/-- A pass that ends at the first device that has not converged; none is asked about after it. -/
def UnconvergedPass (devices : List String) (before after : Host σ) : Prop :=
  ∃ front device back middle, devices = front ++ device :: back ∧
    ConvergedPass runner front before middle ∧ Unconverged runner device middle after

variable {runner} {device : String} {devices : List String} {before after : Host σ}

theorem Converged.onward (converged : Converged runner device before after) :
    before.clock ≤ after.clock := by
  cases converged with
  | notAwaited asked _ _ => exact asked.onward
  | reachable asked _ _ _ looked _ _ => exact asked.onward.trans looked.onward

theorem Unconverged.onward (unconverged : Unconverged runner device before after) :
    before.clock ≤ after.clock := by
  cases unconverged with
  | unknown asked _ => exact asked.onward
  | offline asked _ _ _ => exact asked.onward
  | unreachable asked _ _ _ looked _ => exact asked.onward.trans looked.onward

theorem ConvergedPass.onward (pass : ConvergedPass runner devices before after) :
    before.clock ≤ after.clock := by
  induction pass with
  | done host => exact Nat.le_refl _
  | next first _ ih => exact first.onward.trans ih

theorem UnconvergedPass.onward (pass : UnconvergedPass runner devices before after) :
    before.clock ≤ after.clock := by
  obtain ⟨_, _, _, _, _, converged, unconverged⟩ := pass
  exact converged.onward.trans unconverged.onward

end Passes

/-! ### What is found about a device -/

/-- The state of a device as its status tells it, or does not. -/
def Outcome.linkState (status : Outcome) : LinkState :=
  if status.succeeded then .ofStatus status.stdout else .unknown

theorem Outcome.linkState_free_iff (status : Outcome) :
    status.linkState.required = false ↔ status.exitCode = 0 ∧ ¬ status.SaysRequired := by
  by_cases told : status.exitCode = 0
  · simp [linkState, succeeded, told, LinkState.ofStatus, ← Bool.not_eq_true, occursIn_iff_isInfix,
      SaysRequired]
  · simp [linkState, succeeded, told, LinkState.unknown]

theorem Outcome.linkState_ready_iff (status : Outcome) :
    status.linkState.required = true ∧ status.linkState.online = true ↔
      status.exitCode = 0 ∧ status.SaysRequired ∧ status.SaysOnline := by
  by_cases told : status.exitCode = 0
  · simp [linkState, succeeded, told, LinkState.ofStatus, occursIn_iff_isInfix, SaysRequired,
      SaysOnline]
  · simp [linkState, succeeded, told, LinkState.unknown]

theorem Outcome.linkState_offline_iff (status : Outcome) :
    status.linkState.required = true ∧ status.linkState.online = false ↔
      status.exitCode ≠ 0 ∨ status.exitCode = 0 ∧ status.SaysRequired ∧ ¬ status.SaysOnline := by
  by_cases told : status.exitCode = 0
  · simp [linkState, succeeded, told, LinkState.ofStatus, ← Bool.not_eq_true, occursIn_iff_isInfix,
      SaysRequired, SaysOnline]
  · simp [linkState, succeeded, told, LinkState.unknown]

namespace HostAction

open HostNet.Action

variable {runner : Runner σ} {device : String} {devices : List String} {deadline : Nat}
  {before middle after : Host σ} {status : Outcome}

/-- An action whose result is read off that of another. -/
theorem bind_pure_ok_iff {ε α β : Type} {action : HostAction σ ε α} {read : α → β} {result : β} :
    (action >>= fun answer => pure (read answer)) before = (.ok result, after) ↔
      ∃ answer, action before = (.ok answer, after) ∧ result = read answer := by
  rw [bind_ok_iff]
  constructor
  · rintro ⟨answer, middle, done, same⟩
    cases same
    exact ⟨answer, done, rfl⟩
  · rintro ⟨answer, done, rfl⟩
    exact ⟨answer, after, done, rfl⟩

theorem run_ok_iff_le {command : Command} {outcome : Outcome} :
    run runner (some deadline) command before = (.ok outcome, after) ↔
      Answered runner command before outcome after ∧ after.clock ≤ deadline := by
  rw [run_ok_iff]
  simp [noLater]

theorem linkState_ok_iff {state : LinkState} :
    linkState runner (some deadline) device before = (.ok state, after) ↔
      ∃ status, (Answered runner (.linkStatus device) before status after ∧ after.clock ≤ deadline) ∧
        state = status.linkState := by
  rw [linkState, bind_pure_ok_iff]
  simp only [run_ok_iff_le, Outcome.linkState]

theorem hasAddress_ok_iff {holds : Bool} :
    hasAddress runner (some deadline) device before = (.ok holds, after) ↔
      ∃ listing, (Answered runner (.showAddresses device) before listing after ∧
        after.clock ≤ deadline) ∧
          (holds = true ↔ listing.exitCode = 0 ∧ 0 < countRoutable listing.stdout) := by
  rw [hasAddress, bind_pure_ok_iff]
  simp only [run_ok_iff_le]
  refine exists_congr fun listing => and_congr_right fun _ => ?_
  rw [Bool.eq_iff_iff]
  simp [Outcome.succeeded, Nat.pos_iff_ne_zero]

/-- What is found about a device: its status decides, unless it is awaited and online; then its
addresses do. -/
theorem isSettled_ok_iff {holds : Bool} :
    isSettled runner (some deadline) device before = (.ok holds, after) ↔
      ∃ status middle, (Answered runner (.linkStatus device) before status middle ∧
        middle.clock ≤ deadline) ∧
          (if !status.linkState.required then pure true
            else if !status.linkState.online then pure false
              else hasAddress runner (some deadline) device) middle = (.ok holds, after) := by
  rw [isSettled, bind_ok_iff]
  simp only [linkState_ok_iff]
  constructor
  · rintro ⟨_, middle, ⟨status, answered, rfl⟩, rest⟩
    exact ⟨status, middle, answered, rest⟩
  · rintro ⟨status, middle, answered, rest⟩
    exact ⟨_, middle, ⟨status, answered, rfl⟩, rest⟩

theorem isSettled_true_iff :
    isSettled runner (some deadline) device before = (.ok true, after) ↔
      Converged runner device before after ∧ after.clock ≤ deadline := by
  rw [isSettled_ok_iff]
  constructor
  · rintro ⟨status, middle, ⟨asked, inTime⟩, rest⟩
    cases required : status.linkState.required with
    | false =>
      rw [required] at rest
      cases rest
      obtain ⟨told, free⟩ := status.linkState_free_iff.mp required
      exact ⟨.notAwaited asked told free, inTime⟩
    | true =>
      cases online : status.linkState.online with
      | false =>
        rw [required, online] at rest
        cases rest
      | true =>
        obtain ⟨told, awaited, ready⟩ := status.linkState_ready_iff.mp ⟨required, online⟩
        rw [required, online] at rest
        obtain ⟨listing, ⟨looked, early⟩, found⟩ := hasAddress_ok_iff.mp rest
        obtain ⟨listed, routable⟩ := found.mp rfl
        exact ⟨.reachable asked told awaited ready looked listed routable, early⟩
  · rintro ⟨converged, inTime⟩
    cases converged with
    | notAwaited asked told free =>
      refine ⟨_, after, ⟨asked, inTime⟩, ?_⟩
      rw [(Outcome.linkState_free_iff _).mpr ⟨told, free⟩]
      rfl
    | reachable asked told awaited ready looked listed routable =>
      refine ⟨_, _, ⟨asked, looked.onward.trans inTime⟩, ?_⟩
      obtain ⟨required, online⟩ := (Outcome.linkState_ready_iff _).mpr ⟨told, awaited, ready⟩
      rw [required, online]
      exact hasAddress_ok_iff.mpr ⟨_, ⟨looked, inTime⟩, iff_of_true rfl ⟨listed, routable⟩⟩

theorem isSettled_false_iff :
    isSettled runner (some deadline) device before = (.ok false, after) ↔
      Unconverged runner device before after ∧ after.clock ≤ deadline := by
  rw [isSettled_ok_iff]
  constructor
  · rintro ⟨status, middle, ⟨asked, inTime⟩, rest⟩
    cases required : status.linkState.required with
    | false =>
      rw [required] at rest
      cases rest
    | true =>
      cases online : status.linkState.online with
      | false =>
        rw [required, online] at rest
        cases rest
        obtain failed | ⟨told, awaited, offline⟩ := status.linkState_offline_iff.mp ⟨required, online⟩
        · exact ⟨.unknown asked failed, inTime⟩
        · exact ⟨.offline asked told awaited offline, inTime⟩
      | true =>
        obtain ⟨told, awaited, ready⟩ := status.linkState_ready_iff.mp ⟨required, online⟩
        rw [required, online] at rest
        obtain ⟨listing, ⟨looked, early⟩, found⟩ := hasAddress_ok_iff.mp rest
        have missing := not_and_or.mp fun both => Bool.false_ne_true (found.mpr both)
        exact ⟨.unreachable asked told awaited ready looked
          (missing.imp_right Nat.eq_zero_of_not_pos), early⟩
  · rintro ⟨unconverged, inTime⟩
    cases unconverged with
    | unknown asked failed =>
      refine ⟨_, after, ⟨asked, inTime⟩, ?_⟩
      obtain ⟨required, online⟩ := (Outcome.linkState_offline_iff _).mpr (.inl failed)
      rw [required, online]
      rfl
    | offline asked told awaited offline =>
      refine ⟨_, after, ⟨asked, inTime⟩, ?_⟩
      obtain ⟨required, online⟩ :=
        (Outcome.linkState_offline_iff _).mpr (.inr ⟨told, awaited, offline⟩)
      rw [required, online]
      rfl
    | unreachable asked told awaited ready looked none =>
      refine ⟨_, _, ⟨asked, looked.onward.trans inTime⟩, ?_⟩
      obtain ⟨required, online⟩ := (Outcome.linkState_ready_iff _).mpr ⟨told, awaited, ready⟩
      rw [required, online]
      refine hasAddress_ok_iff.mpr ⟨_, ⟨looked, inTime⟩, iff_of_false Bool.false_ne_true ?_⟩
      rintro ⟨listed, routable⟩
      exact none.elim (absurd listed) (Nat.ne_of_gt routable)

/-! ### What a pass finds -/

/-- **A pass finds every device converged exactly if each of them has, one after the other.** -/
theorem probeOnline_true_iff (inTime : before.clock ≤ deadline) :
    probeOnline runner devices (some deadline) before = (.ok true, after) ↔
      ConvergedPass runner devices before after ∧ after.clock ≤ deadline := by
  induction devices generalizing before with
  | nil =>
    constructor
    · intro found
      cases found
      exact ⟨.done _, inTime⟩
    · rintro ⟨pass, _⟩
      cases pass
      rfl
  | cons device devices ih =>
    rw [probeOnline, bind_ok_iff]
    constructor
    · rintro ⟨settled, middle, first, rest⟩
      cases settled with
      | false => cases rest
      | true =>
        obtain ⟨converged, early⟩ := isSettled_true_iff.mp first
        obtain ⟨pass, late⟩ := (ih early).mp rest
        exact ⟨.next converged pass, late⟩
    · rintro ⟨pass, late⟩
      cases pass with
      | next converged others =>
        have early := others.onward.trans late
        exact ⟨true, _, isSettled_true_iff.mpr ⟨converged, early⟩, (ih early).mpr ⟨others, late⟩⟩

theorem unconvergedPass_nil : ¬ UnconvergedPass runner [] before after := by
  rintro ⟨front, device, back, _, whole, _⟩
  cases front <;> cases whole

theorem unconvergedPass_cons_iff :
    UnconvergedPass runner (device :: devices) before after ↔
      Unconverged runner device before after ∨
        ∃ middle, Converged runner device before middle ∧
          UnconvergedPass runner devices middle after := by
  constructor
  · rintro ⟨front, other, back, middle, whole, pass, unconverged⟩
    cases pass with
    | done =>
      cases whole
      exact .inl unconverged
    | next first others =>
      cases whole
      exact .inr ⟨_, first, _, other, back, middle, rfl, others, unconverged⟩
  · rintro (unconverged | ⟨middle, first, front, other, back, late, rfl, others, unconverged⟩)
    · exact ⟨[], device, devices, before, rfl, .done before, unconverged⟩
    · exact ⟨device :: front, other, back, late, rfl, .next first others, unconverged⟩

/-- **A pass ends without success exactly if it comes to a device that has not converged.** -/
theorem probeOnline_false_iff :
    probeOnline runner devices (some deadline) before = (.ok false, after) ↔
      UnconvergedPass runner devices before after ∧ after.clock ≤ deadline := by
  induction devices generalizing before with
  | nil =>
    refine iff_of_false (fun found => ?_) fun pass => unconvergedPass_nil pass.1
    cases found
  | cons device devices ih =>
    rw [probeOnline, bind_ok_iff, unconvergedPass_cons_iff]
    constructor
    · rintro ⟨settled, middle, first, rest⟩
      cases settled with
      | false =>
        cases rest
        obtain ⟨unconverged, late⟩ := isSettled_false_iff.mp first
        exact ⟨.inl unconverged, late⟩
      | true =>
        obtain ⟨pass, late⟩ := ih.mp rest
        exact ⟨.inr ⟨middle, (isSettled_true_iff.mp first).1, pass⟩, late⟩
    · rintro ⟨unconverged | ⟨middle, converged, pass⟩, late⟩
      · exact ⟨false, after, isSettled_false_iff.mpr ⟨unconverged, late⟩, rfl⟩
      · have early := UnconvergedPass.onward pass |>.trans late
        exact ⟨true, middle, isSettled_true_iff.mpr ⟨converged, early⟩, ih.mpr ⟨pass, late⟩⟩

/-! ### Rounds of a wait -/

section Rounds

variable {stage : Stage} {interval timeout : Duration} {probe : Probe σ} {fuel more : Nat}
  {result : Except (Halt ApplyFailure) Unit}

theorem pause_ok_iff :
    pause stage interval before = (.ok (), after) ↔
      before.UncancelledUntil (before.clock + interval.nanos) ∧
        after = before.advance (before.clock + interval.nanos) := by
  unfold pause
  rw [bind_of_ok (clock_apply before), await_ok_iff]
  constructor
  · rintro ⟨moment, there, _, uncancelled, rfl⟩
    cases there
    exact ⟨uncancelled, rfl⟩
  · rintro ⟨uncancelled, rfl⟩
    exact ⟨_, rfl, rfl, uncancelled, rfl⟩

/-- A round of a wait that is not the last: a probe that is begun before the deadline and does not
hold, and a whole pause. -/
def Round (stage : Stage) (interval : Duration) (probe : Probe σ) (deadline : Nat)
    (before after : Host σ) : Prop :=
  before.clock < deadline ∧ ∃ middle, probe (some deadline) before = (.ok false, middle) ∧
    pause stage interval middle = (.ok (), after)

/-- Making a probe part of a wait changes how it fails, not how it succeeds. -/
theorem orOverdue_mapFailure_ok_iff {ε δ α : Type} {late : δ} {change : ε → δ}
    {action : HostAction σ ε α} {answer : α} :
    orOverdue late (mapFailure change action) before = (.ok answer, after) ↔
      action before = (.ok answer, after) := by
  rcases ran : action before with ⟨halt | found, middle⟩
  · simp only [orOverdue, mapFailure, ran, mapError_error]
    cases halt <;> constructor <;> intro same <;> cases same
  · simp only [orOverdue, mapFailure, ran, mapError_ok]
    constructor <;> intro same <;> cases same <;> rfl

/-- A wait succeeds if its first probe holds, or if a round passes and it succeeds after that. -/
theorem probeUntil_succ_ok_iff :
    probeUntil stage interval timeout probe deadline (fuel + 1) before = (.ok (), after) ↔
      (before.clock < deadline ∧ probe (some deadline) before = (.ok true, after)) ∨
        ∃ later, Round stage interval probe deadline before later ∧
          probeUntil stage interval timeout probe deadline fuel later = (.ok (), after) := by
  by_cases expiry : deadline ≤ before.clock
  · rw [probeUntil_expired expiry]
    refine iff_of_false nofun ?_
    rintro (⟨early, _⟩ | ⟨_, ⟨early, _⟩, _⟩)
    · exact absurd expiry (Nat.not_le_of_lt early)
    · exact absurd expiry (Nat.not_le_of_lt early)
  · have early : before.clock < deadline := Nat.lt_of_not_le expiry
    rw [probeUntil, bind_of_ok (clock_apply before), if_neg expiry]
    dsimp only
    rw [bind_ok_iff]
    simp only [orOverdue_mapFailure_ok_iff]
    constructor
    · rintro ⟨holds, middle, probed, rest⟩
      cases holds with
      | true =>
        cases rest
        exact .inl ⟨early, probed⟩
      | false =>
        rw [if_neg Bool.false_ne_true, bind_ok_iff] at rest
        obtain ⟨_, later, paused, further⟩ := rest
        exact .inr ⟨later, ⟨early, middle, probed, paused⟩, further⟩
    · rintro (⟨_, probed⟩ | ⟨later, ⟨_, middle, probed, paused⟩, further⟩)
      · exact ⟨true, after, probed, rfl⟩
      · refine ⟨false, middle, probed, ?_⟩
        rw [if_neg Bool.false_ne_true, bind_of_ok paused]
        exact further

/-- **A wait of any kind succeeds, with as many rounds as it needs, exactly if some rounds pass and
then a probe that is begun before the deadline holds.** -/
theorem probeUntil_ok_iff :
    (∃ rounds, probeUntil stage interval timeout probe deadline rounds before = (.ok (), after)) ↔
      ∃ start, Relation.ReflTransGen (Round stage interval probe deadline) before start ∧
        start.clock < deadline ∧ probe (some deadline) start = (.ok true, after) := by
  constructor
  · rintro ⟨rounds, done⟩
    induction rounds generalizing before with
    | zero => cases done
    | succ rounds ih =>
      obtain ⟨early, holds⟩ | ⟨later, round, further⟩ := probeUntil_succ_ok_iff.mp done
      · exact ⟨before, .refl, early, holds⟩
      · obtain ⟨start, passed, early, holds⟩ := ih further
        exact ⟨start, .head round passed, early, holds⟩
  · rintro ⟨start, passed, early, holds⟩
    induction passed using Relation.ReflTransGen.head_induction_on with
    | refl => exact ⟨1, probeUntil_succ_ok_iff.mpr (.inl ⟨early, holds⟩)⟩
    | head round _ ih =>
      obtain ⟨rounds, further⟩ := ih
      exact ⟨rounds + 1, probeUntil_succ_ok_iff.mpr (.inr ⟨_, round, further⟩)⟩

/-- A wait that has come to its end does not change if it may have more rounds. -/
theorem probeUntil_of_le (ended : result ≠ .error .stuck) (fewer : fuel ≤ more)
    (run : probeUntil stage interval timeout probe deadline fuel before = (result, after)) :
    probeUntil stage interval timeout probe deadline more before = (result, after) := by
  induction fuel generalizing before more with
  | zero =>
    cases run
    exact absurd rfl ended
  | succ fuel ih =>
    obtain ⟨others, rfl⟩ := Nat.exists_eq_add_one_of_ne_zero (Nat.ne_zero_of_lt fewer)
    by_cases expiry : deadline ≤ before.clock
    · rw [probeUntil_expired expiry] at run ⊢
      exact run
    rw [probeUntil, bind_of_ok (clock_apply before), if_neg expiry] at run ⊢
    dsimp only at run ⊢
    rcases probed : orOverdue (ApplyFailure.timedOut stage timeout)
      (mapFailure (ApplyFailure.hostFailed stage) (probe (some deadline))) before
      with ⟨halt | holds, middle⟩
    · rw [bind_of_error probed] at run ⊢
      exact run
    rw [bind_of_ok probed] at run ⊢
    cases holds with
    | true => exact run
    | false =>
      rw [if_neg Bool.false_ne_true] at run ⊢
      rcases paused : pause stage interval middle with ⟨halt | _, later⟩
      · rw [bind_of_error paused] at run ⊢
        exact run
      · rw [bind_of_ok paused] at run ⊢
        exact ih (Nat.le_of_succ_le_succ fewer) run

/-- A wait that comes to its end succeeds exactly if it does so with as many rounds as it needs. -/
theorem waitFor_ok_iff (ended : (waitFor stage interval timeout probe before).1 ≠ .error .stuck) :
    waitFor stage interval timeout probe before = (.ok (), after) ↔
      ∃ rounds, probeUntil stage interval timeout probe (before.clock + timeout.nanos) rounds before =
        (.ok (), after) := by
  have opened : waitFor stage interval timeout probe before =
      probeUntil stage interval timeout probe (before.clock + timeout.nanos) (timeout.nanos + 1)
        before := by
    unfold waitFor
    rw [bind_of_ok (clock_apply before)]
  rw [opened] at ended ⊢
  refine ⟨fun done => ⟨_, done⟩, fun ⟨rounds, done⟩ => ?_⟩
  have success : (.ok () : Except (Halt ApplyFailure) Unit) ≠ .error .stuck := nofun
  have enough := probeUntil_of_le success (Nat.le_max_left rounds (timeout.nanos + 1)) done
  rw [probeUntil_of_le ended (Nat.le_max_right rounds (timeout.nanos + 1)) rfl] at enough
  exact enough

end Rounds

/-! ### The wait for the network -/

section Online

variable {interval : Duration}

/-- **A round of the wait for the network**: a pass that is begun before the deadline, is over by
then and does not find every device converged, and a whole pause. -/
def OnlineRound (runner : Runner σ) (interval : Duration) (devices : List String) (deadline : Nat)
    (before after : Host σ) : Prop :=
  before.clock < deadline ∧ ∃ middle, UnconvergedPass runner devices before middle ∧
    middle.clock ≤ deadline ∧ middle.UncancelledUntil (middle.clock + interval.nanos) ∧
      after = middle.advance (middle.clock + interval.nanos)

theorem round_eq_onlineRound :
    Round .onlineWait interval (probeOnline runner devices) deadline =
      OnlineRound runner interval devices deadline := by
  funext before after
  simp only [Round, OnlineRound, probeOnline_false_iff, pause_ok_iff, and_assoc]

/-- **A pass of the wait converges in time**: rounds have passed before it, and it is begun before the
deadline, is over by then, and finds every device converged. -/
def ConvergesBy (runner : Runner σ) (interval : Duration) (devices : List String) (deadline : Nat)
    (before after : Host σ) : Prop :=
  ∃ start, Relation.ReflTransGen (OnlineRound runner interval devices deadline) before start ∧
    start.clock < deadline ∧ ConvergedPass runner devices start after ∧ after.clock ≤ deadline

theorem probeUntil_online_ok_iff {timeout : Duration} :
    (∃ rounds, probeUntil .onlineWait interval timeout (probeOnline runner devices) deadline rounds
        before = (.ok (), after)) ↔
      ConvergesBy runner interval devices deadline before after := by
  rw [probeUntil_ok_iff, round_eq_onlineRound]
  refine exists_congr fun start => and_congr_right fun _ => and_congr_right fun early => ?_
  exact probeOnline_true_iff early.le

end Online

/-! ### The main result -/

/-- **The wait for the network succeeds exactly if one of its passes converges in time**; the host is
then left as that pass leaves it. This holds of a wait that may have as many rounds as it needs, also
if its pauses take no time, and of the wait itself as soon as they take time. If it says that its time
is over, no pass has converged. -/
theorem waitForOnline_ok_iff (runner : Runner σ) (interval timeout : Duration)
    (devices : List String) (before : Host σ) :
    (∀ after, (∃ rounds, probeUntil .onlineWait interval timeout (probeOnline runner devices)
          (before.clock + timeout.nanos) rounds before = (.ok (), after)) ↔
        ConvergesBy runner interval devices (before.clock + timeout.nanos) before after) ∧
      (0 < interval.nanos → ∀ after,
        waitForOnline runner interval devices timeout before = (.ok (), after) ↔
          ConvergesBy runner interval devices (before.clock + timeout.nanos) before after) ∧
      ∀ limit after, waitForOnline runner interval devices timeout before =
          (.error (.failed (.timedOut .onlineWait limit)), after) →
        ∀ last, ¬ ConvergesBy runner interval devices (before.clock + timeout.nanos) before last := by
  refine ⟨fun after => probeUntil_online_ok_iff, fun pauses after => ?_,
    fun limit after late last converges => ?_⟩
  · have ends : WaitEnds .onlineWait interval timeout (before.clock + timeout.nanos) before
        (waitForOnline runner interval devices timeout before).1
        (waitForOnline runner interval devices timeout before).2 :=
      waitFor_ends (probeOnline_punctual runner devices) rfl
    exact (waitFor_ok_iff (ends.returns pauses)).trans probeUntil_online_ok_iff
  · have ended : (waitForOnline runner interval devices timeout before).1 ≠ .error .stuck := by
      rw [late]
      nofun
    have done := (waitFor_ok_iff ended).mpr (probeUntil_online_ok_iff.mpr converges)
    rw [show waitFor _ _ _ _ before = _ from late] at done
    cases done

/-- A card that has just been given its name: the status of `eth0` fails the first time it is asked
for. Every command takes fifty milliseconds. -/
def waking : Runner Nat := fun asked command =>
  let answer : Outcome :=
    if command = .linkStatus "eth0" then
      if asked = 0 then { exitCode := 1 }
      else { stdout := "Online state: online\nRequired For Online: yes" }
    else if command = .showAddresses "eth0" then { stdout := "inet 192.0.2.10/24 scope global" }
    else { stdout := "Online state: offline\nRequired For Online: no" }
  ({ answer := some (.finished answer), delay := 50000000 }, asked + 1)

/-- A host with this runner. -/
def woken : Host Nat where
  runner := 0

/-- The first pass ends at `eth0`; the second one asks about both devices and is over exactly at the
deadline. A network that never comes up has no such pass. -/
theorem waking_converges :
    (0 < (Duration.ofMillis 500).nanos ∧
      ∃ after, waitForOnline waking (.ofMillis 500) ["eth0", "lab"] (.ofMillis 700) woken =
          (.ok (), after) ∧
        after.clock = woken.clock + (Duration.ofMillis 700).nanos ∧
        ConvergesBy waking (.ofMillis 500) ["eth0", "lab"]
          (woken.clock + (Duration.ofMillis 700).nanos) woken after) ∧
      ∃ after, waitForOnline Applier.unready.runner (.ofMillis 500) ["eth0"] (.ofMillis 700)
          Applier.bare = (.error (.failed (.timedOut .onlineWait (.ofMillis 700))), after) ∧
        ∀ last, ¬ ConvergesBy Applier.unready.runner (.ofMillis 500) ["eth0"]
          (Applier.bare.clock + (Duration.ofMillis 700).nanos) Applier.bare last := by
  have pauses : 0 < (Duration.ofMillis 500).nanos := by decide
  have done : (waitForOnline waking (.ofMillis 500) ["eth0", "lab"] (.ofMillis 700) woken).1 =
      .ok () := by decide +kernel
  have last : (waitForOnline waking (.ofMillis 500) ["eth0", "lab"] (.ofMillis 700) woken).2.clock =
      woken.clock + (Duration.ofMillis 700).nanos := by decide +kernel
  have late : (waitForOnline Applier.unready.runner (.ofMillis 500) ["eth0"] (.ofMillis 700)
      Applier.bare).1 = .error (.failed (.timedOut .onlineWait (.ofMillis 700))) := by
    decide +kernel
  have found := Prod.fst_eq_iff.mp done
  have ended := Prod.fst_eq_iff.mp late
  exact ⟨⟨pauses, _, found, last, ((waitForOnline_ok_iff waking (.ofMillis 500) (.ofMillis 700)
    ["eth0", "lab"] woken).2.1 pauses _).mp found⟩, _, ended, (waitForOnline_ok_iff
      Applier.unready.runner (.ofMillis 500) (.ofMillis 700) ["eth0"] Applier.bare).2.2 _ _ ended⟩

end HostAction

end HostNet
