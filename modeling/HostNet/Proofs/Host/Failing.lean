/-
**Commands that fail.**

A command that has to succeed fails in one of five ways. It is refused if cancellation has been
requested before; it exits with a code other than zero; it cannot be started; it is cancelled while
its answer is waited for; or it hangs, and nothing ends it. In all but the first way the runner has
been given the command, and the command is noted.

* `Succeeds` and `Fails`: what becomes of a command, from one state of the host to the next;
* `runChecked_ok_iff` and `runChecked_error_iff`: these are the ways in which a command ends;
* `Fails.recorded`: a command that fails is noted, unless it is refused.
-/

import HostNet.Proofs.Host.Cancellation
import HostNet.Proofs.Host.Commands

namespace HostNet

variable {σ ε α : Type}

/-! ### Waiting without a limit -/

namespace WaitEnd

variable {cancelAt limit : Option Nat} {ready : Option (Nat × α)} {moment : Nat}

/-- Waiting is cancelled exactly if the request comes no later than what is waited for and the
limit. -/
theorem of_eq_cancelled_iff : of cancelAt limit ready = .cancelled moment ↔
    cancelAt = some moment ∧ noLater moment limit = true ∧
      noLater moment (ready.map (·.1)) = true := by
  constructor
  · intro ended
    obtain ⟨inTime, early⟩ := of_eq_cancelled ended
    refine ⟨?_, inTime, early⟩
    unfold of at ended
    split at ended
    · rename_i found
      cases ended
      exact (Option.filter_eq_some_iff.mp found).1
    · split at ended
      · cases ended
      · split at ended <;> cases ended
  · rintro ⟨rfl, inTime, early⟩
    have chosen : (some moment).filter (fun request => noLater request limit &&
        noLater request (ready.map (·.1))) = some moment := by
      rw [Option.filter_eq_some_iff]
      simp [inTime, early]
    unfold of
    rw [chosen]

end WaitEnd

/-- A moment comes no later than an answer exactly if it does so if there is an answer. -/
theorem noLater_answer_iff {request moment : Nat} {answer : Option α} :
    noLater request ((answer.map fun answer => (moment, answer)).map (·.1)) = true ↔
      (answer.isSome = true → request ≤ moment) := by
  cases answer <;> simp [noLater]

namespace HostAction

open HostNet.Action

variable {before after : Host σ}

/-- **Without a limit, waiting fails by cancellation only, or goes on for ever.** -/
theorem await_error_iff {ready : Option (Nat × α)} {cancelled : ε} {halt : Halt ε} :
    await none ready cancelled before = (.error halt, after) ↔
      (∃ request, before.cancelAt = some request ∧ noLater request (ready.map (·.1)) = true ∧
        halt = .failed cancelled ∧ after = before.advance request) ∨
      before.cancelAt = none ∧ ready = none ∧ halt = .stuck ∧ after = before := by
  constructor
  · intro happened
    unfold await at happened
    split at happened <;> cases happened
    · rename_i request ended
      obtain ⟨set, -, early⟩ := WaitEnd.of_eq_cancelled_iff.mp ended
      exact .inl ⟨request, set, early, rfl, rfl⟩
    · rename_i moment ended
      exact absurd ended (WaitEnd.of_ne_overdue _ _ _)
    · rename_i ended
      exact .inr ⟨WaitEnd.cancelAt_of_never ended, (WaitEnd.of_eq_never ended).2, rfl, rfl⟩
  · rintro (⟨request, set, early, rfl, rfl⟩ | ⟨unset, rfl, rfl, rfl⟩)
    · have unlimited : noLater request none = true := rfl
      have ended := WaitEnd.of_eq_cancelled_iff.mpr ⟨set, unlimited, early⟩
      rw [await, ended]
    · rw [await, unset]
      rfl

end HostAction

/-! ### What becomes of a command -/

/-- The host once the runner has been given a command. -/
def Host.noted (host : Host σ) (command : Command) (state : σ) : Host σ :=
  { host with runner := state, log := ⟨host.clock, command⟩ :: host.log }

theorem Recorded.of_noted {host after : Host σ} {command : Command}
    (noted : after.log = ⟨host.clock, command⟩ :: host.log) : Recorded host [command] after :=
  ⟨[⟨host.clock, command⟩], by simp [Host.calls, noted], rfl⟩

theorem Recorded.of_answered (host : Host σ) (command : Command) (response : Response) (state : σ) :
    Recorded host [command] (host.answered command response state) := by
  refine Recorded.of_noted ?_
  unfold Host.answered
  dsimp only
  split
  · exact (HostAction.cancel_frame _).1
  · rfl

/-- A command is answered, and its exit code is zero. -/
def Succeeds (runner : Runner σ) (command : Command) (before after : Host σ) : Prop :=
  ∃ outcome, Answered runner command before outcome after ∧ outcome.exitCode = 0

/-- **The ways in which a command fails**, each with its error and with the host as it is then. -/
inductive Fails (runner : Runner σ) (command : Command) (before : Host σ) :
    Halt HostFailure → Host σ → Prop
  /-- Cancellation has been requested before. -/
  | refused (requested : before.isCancelled = true) :
      Fails runner command before (.failed (.cancelled command.line)) before
  /-- The exit code is not zero. -/
  | exited {outcome : Outcome} {after : Host σ}
      (answered : Answered runner command before outcome after)
      (unsuccessful : outcome.exitCode ≠ 0) :
      Fails runner command before
        (.failed (.commandFailed command.line outcome.exitCode outcome.combined)) after
  /-- The system refuses to start the command. -/
  | notStarted {response : Response} {state : σ} {cause : Refusal}
      (given : runner before.runner command = (response, state))
      (answered : response.answer = some (.notStarted cause))
      (uncancelled : before.UncancelledUntil (before.clock + response.delay)) :
      Fails runner command before (.failed (.notStarted command.line cause))
        (before.answered command response state)
  /-- Cancellation is requested no later than the answer, if there is one. -/
  | cancelled {response : Response} {state : σ} {request : Nat} (free : before.isCancelled = false)
      (given : runner before.runner command = (response, state))
      (requested : before.cancelAt = some request)
      (early : response.answer.isSome = true → request ≤ before.clock + response.delay) :
      Fails runner command before (.failed (.cancelled command.line))
        ((before.noted command state).advance request)
  /-- There is no answer, and no request either. -/
  | hangs {response : Response} {state : σ}
      (given : runner before.runner command = (response, state))
      (unanswered : response.answer = none) (unrequested : before.cancelAt = none) :
      Fails runner command before .stuck (before.noted command state)

variable {runner : Runner σ} {command : Command} {before after : Host σ}

theorem Succeeds.recorded (succeeds : Succeeds runner command before after) :
    Recorded before [command] after := by
  obtain ⟨_, ⟨response, state, -, -, -, rfl⟩, -⟩ := succeeds
  exact Recorded.of_answered before command response state

/-- **A command that fails is noted, unless it is refused.** -/
theorem Fails.recorded {halt : Halt HostFailure} (fails : Fails runner command before halt after) :
    Recorded before (if before.isCancelled then [] else [command]) after := by
  have free {moment : Nat} (uncancelled : before.UncancelledUntil (before.clock + moment)) :
      before.isCancelled = false :=
    uncancelled.isCancelled_eq_false (Nat.le_add_right _ _)
  cases fails with
  | refused requested =>
    rw [requested]
    exact Recorded.of_log rfl
  | exited answered _ =>
    obtain ⟨response, state, -, -, uncancelled, rfl⟩ := answered
    rw [free uncancelled]
    exact Recorded.of_answered before command response state
  | notStarted _ _ uncancelled =>
    rw [free uncancelled]
    exact Recorded.of_answered before command _ _
  | cancelled unrequested _ _ _ =>
    rw [unrequested]
    exact Recorded.of_noted rfl
  | hangs _ _ unrequested =>
    have unset : before.isCancelled = false := by simp [Host.isCancelled, unrequested]
    rw [unset]
    exact Recorded.of_noted rfl

namespace HostAction

open HostNet.Action

/-- The answer of a command that is not refused, without a limit. -/
theorem run_of_given {response : Response} {state : σ} (free : before.isCancelled = false)
    (given : runner before.runner command = (response, state)) :
    run runner none command before =
      (await none (response.answer.map fun answer => (before.clock + response.delay, answer))
          (.cancelled command.line) >>= conclude command response.cancels)
        (before.noted command state) :=
  run_of_free free given

/-- Waiting for an answer leaves the host as the answer finds it. -/
theorem conclude_advance (command : Command) (response : Response) (state : σ) (answer : Answer)
    (before : Host σ) :
    conclude command response.cancels answer
        ((before.noted command state).advance (before.clock + response.delay)) =
      (match answer with
        | .finished outcome => .ok outcome
        | .notStarted cause => .error (.failed (.notStarted command.line cause)),
      before.answered command response state) := by
  have later : before.clock ≤ before.clock + response.delay := Nat.le_add_right _ _
  rw [conclude_eq]
  refine Prod.ext rfl ?_
  simp only [Host.answered, Host.advance, Host.noted, Nat.max_eq_right later]

/-- **A command without a limit stops in one of the ways in which commands fail**, except that any
exit code is an outcome. -/
theorem run_error_iff {halt : Halt HostFailure} :
    run runner none command before = (.error halt, after) ↔
      Fails runner command before halt after ∧
        ∀ exitCode output, halt ≠ .failed (.commandFailed command.line exitCode output) := by
  rcases given : runner before.runner command with ⟨response, state⟩
  constructor
  · intro happened
    cases requested : before.isCancelled with
    | true =>
      rw [run_cancelled runner none command requested] at happened
      cases happened
      exact ⟨.refused requested, nofun⟩
    | false =>
      rw [run_of_given requested given, bind_error_iff] at happened
      obtain waited | ⟨answer, middle, waited, concluded⟩ := happened
      · obtain ⟨request, set, early, rfl, rfl⟩ | ⟨unset, unanswered, rfl, rfl⟩ :=
          await_error_iff.mp waited
        · exact ⟨.cancelled requested given set (noLater_answer_iff.mp early), nofun⟩
        · exact ⟨.hangs given (Option.map_eq_none_iff.mp unanswered) unset, nofun⟩
      · obtain ⟨_, ready, -, uncancelled, rfl⟩ := await_ok_iff.mp waited
        obtain ⟨_, answered, same⟩ := Option.map_eq_some_iff.mp ready
        cases same
        rw [conclude_advance] at concluded
        cases answer with
        | finished outcome => cases concluded
        | notStarted cause =>
          cases concluded
          exact ⟨.notStarted given answered uncancelled, nofun⟩
  · rintro ⟨fails, uncoded⟩
    cases fails with
    | refused requested => exact run_cancelled runner none command requested
    | exited answered _ => exact absurd rfl (uncoded _ _)
    | @notStarted response state cause given answered uncancelled =>
      have free := uncancelled.isCancelled_eq_false (Nat.le_add_right _ _)
      rw [run_of_given free given, answered, ← conclude_advance command response state
        (.notStarted cause)]
      refine bind_of_ok (await_ok_iff.mpr ?_) _
      exact ⟨_, rfl, rfl, uncancelled, rfl⟩
    | cancelled free given requested early =>
      rw [run_of_given free given]
      refine bind_of_error (await_error_iff.mpr (.inl ?_)) _
      exact ⟨_, requested, noLater_answer_iff.mpr early, rfl, rfl⟩
    | hangs given unanswered unrequested =>
      have free : before.isCancelled = false := by simp [Host.isCancelled, unrequested]
      rw [run_of_given free given, unanswered]
      refine bind_of_error (await_error_iff.mpr (.inr ?_)) _
      exact ⟨unrequested, rfl, rfl, rfl⟩

/-- **A command that has to succeed by a limit does so exactly if it is answered in time with the exit
code zero.** -/
theorem runChecked_ok_iff {limit : Option Nat} {text : String} :
    runChecked runner limit command before = (.ok text, after) ↔
      ∃ outcome, (Answered runner command before outcome after ∧ noLater after.clock limit = true) ∧
        outcome.exitCode = 0 ∧ outcome.stdout = text := by
  unfold runChecked
  rw [bind_ok_iff]
  constructor
  · rintro ⟨outcome, middle, done, checked⟩
    have answered := run_ok_iff.mp done
    split at checked <;> cases checked
    rename_i succeeded
    exact ⟨outcome, answered, of_decide_eq_true succeeded, rfl⟩
  · rintro ⟨outcome, answered, zero, rfl⟩
    have succeeded : outcome.succeeded = true := decide_eq_true zero
    refine ⟨outcome, after, run_ok_iff.mpr answered, ?_⟩
    rw [if_pos succeeded]
    rfl

/-- A command of which nothing but its success is asked for, with what is done after it. -/
theorem succeed_bind_ok_iff {limit : Option Nat} {next : HostAction σ HostFailure α} {answer : α} :
    (runChecked runner limit command >>= fun _ => next) before = (.ok answer, after) ↔
      ∃ middle, (Succeeds runner command before middle ∧ noLater middle.clock limit = true) ∧
        next middle = (.ok answer, after) := by
  rw [bind_ok_iff]
  constructor
  · rintro ⟨text, middle, done, rest⟩
    obtain ⟨outcome, ⟨answered, inTime⟩, zero, -⟩ := runChecked_ok_iff.mp done
    exact ⟨middle, ⟨⟨outcome, answered, zero⟩, inTime⟩, rest⟩
  · rintro ⟨middle, ⟨⟨outcome, answered, zero⟩, inTime⟩, rest⟩
    have done := runChecked_ok_iff.mpr ⟨outcome, ⟨answered, inTime⟩, zero, rfl⟩
    exact ⟨outcome.stdout, middle, done, rest⟩

/-- A command of which nothing but its success is asked for. -/
theorem succeed_ok_iff :
    (do let _ ← runChecked runner none command : HostAction σ HostFailure Unit) before =
      (.ok ⟨⟩, after) ↔ Succeeds runner command before after := by
  refine succeed_bind_ok_iff.trans ?_
  constructor
  · rintro ⟨_, ⟨succeeds, -⟩, last⟩
    cases last
    exact succeeds
  · exact fun succeeds => ⟨after, ⟨succeeds, rfl⟩, rfl⟩

/-- **A command that has to succeed stops exactly in the ways in which commands fail.** -/
theorem runChecked_error_iff {halt : Halt HostFailure} :
    runChecked runner none command before = (.error halt, after) ↔
      Fails runner command before halt after := by
  unfold runChecked
  rw [bind_error_iff]
  constructor
  · rintro (stopped | ⟨outcome, middle, done, checked⟩)
    · exact (run_error_iff.mp stopped).1
    · have answered := (run_ok_iff.mp done).1
      split at checked <;> cases checked
      rename_i unsuccessful
      exact .exited answered fun zero => unsuccessful (decide_eq_true zero)
  · intro fails
    by_cases coded : ∃ exitCode output, halt = .failed (.commandFailed command.line exitCode output)
    · refine .inr ?_
      obtain ⟨exitCode, output, rfl⟩ := coded
      cases fails with
      | exited answered unsuccessful =>
        refine ⟨_, after, run_ok_iff.mpr ⟨answered, rfl⟩, ?_⟩
        have failed : ¬ _ = true := fun succeeded => unsuccessful (of_decide_eq_true succeeded)
        rw [Outcome.succeeded, if_neg failed]
        rfl
    · refine .inl (run_error_iff.mpr ⟨fails, ?_⟩)
      rintro exitCode output rfl
      exact coded ⟨exitCode, output, rfl⟩

theorem succeed_error_iff {halt : Halt HostFailure} :
    (do let _ ← runChecked runner none command : HostAction σ HostFailure Unit) before =
      (.error halt, after) ↔ Fails runner command before halt after := by
  rw [bind_error_iff, runChecked_error_iff]
  refine or_iff_left ?_
  rintro ⟨_, _, _, last⟩
  cases last

end HostAction

end HostNet
