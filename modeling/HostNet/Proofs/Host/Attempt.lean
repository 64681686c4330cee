/-
**Commands that are run one after the other.**

A runner outlives what is done with it. Only its state is handed on from one command to the next:
each may be run on another host, at another time, with another request for cancellation and by
another limit.

* `WaitEnd.result`: how a command ends whose answer is waited for;
* `Attempt`: a command that is to be run, and when and where;
* `Attempt.carryOut_given`: a command that is not refused is noted and ends by its answer;
* `Attempt.carryOutAll`: attempts one after the other, of which `asked` reach the runner.
-/

import HostNet.Proofs.Host.Cancellation

namespace HostNet

variable {σ : Type}

/-! ### Waiting for the answer to a command -/

/-- How a command ends whose answer is waited for. -/
def WaitEnd.result (command : Command) : WaitEnd Answer → Except (Halt HostFailure) Outcome
  | .ready _ (.finished outcome) => .ok outcome
  | .ready _ (.notStarted cause) => .error (.failed (.notStarted command.line cause))
  | .cancelled _ => .error (.failed (.cancelled command.line))
  | .overdue _ => .error .overdue
  | .never => .error .stuck

open HostNet.Action in
/-- A command whose answer is waited for ends as the waiting does. The log and the runner stay as
they are. -/
theorem await_conclude (limit : Option Nat) (ready : Option (Nat × Answer)) (command : Command)
    (cancels : Bool) (host : Host σ) :
    let ended := (HostAction.await limit ready (.cancelled command.line) >>=
      HostAction.conclude command cancels) host
    ended.1 = (WaitEnd.of host.cancelAt limit ready).result command ∧
      ended.2.runner = host.runner ∧ ended.2.log = host.log := by
  dsimp only
  rcases waited : HostAction.await limit ready (HostFailure.cancelled command.line) host with
    ⟨halt | answer, middle⟩
  · obtain ⟨log, runner, -⟩ := HostAction.await_frame waited
    rw [bind_of_error waited]
    refine ⟨?_, runner, log⟩
    unfold HostAction.await at waited
    split at waited <;> cases waited <;> rename_i ended <;> rw [ended] <;> rfl
  · obtain ⟨moment, there, inTime, uncancelled, rfl⟩ := HostAction.await_ok_iff.mp waited
    have ended := WaitEnd.of_eq_ready_iff.mpr ⟨there, inTime, uncancelled⟩
    obtain ⟨log, runner⟩ := HostAction.cancel_frame (host.advance moment)
    rw [bind_of_ok waited, HostAction.conclude_eq, ended]
    refine ⟨by cases answer <;> rfl, ?_⟩
    dsimp only
    split
    · exact ⟨runner, log⟩
    · exact ⟨rfl, rfl⟩

/-! ### Attempts -/

/-- A command that is to be run. -/
structure Attempt where
  /-- The host at that moment, apart from the runner. -/
  host : Host Unit
  command : Command
  /-- The moment by which the answer has to come. -/
  limit : Option Nat := none

namespace Attempt

/-- The host, with a runner in some state. -/
def hostWith (attempt : Attempt) (state : σ) : Host σ := { attempt.host with runner := state }

/-- Cancellation has been requested before. -/
def refused (attempt : Attempt) : Bool := attempt.host.isCancelled

/-- Runs the command. -/
def carryOut (attempt : Attempt) (runner : Runner σ) (state : σ) :
    Except (Halt HostFailure) Outcome × Host σ :=
  HostAction.run runner attempt.limit attempt.command (attempt.hostWith state)

/-- How an attempt ends for which the runner has an answer after some time, or none: with what the
answer says, unless cancellation or the limit comes first. -/
def result (attempt : Attempt) (answer : Option Answer) (delay : Nat) :
    Except (Halt HostFailure) Outcome :=
  (WaitEnd.of attempt.host.cancelAt attempt.limit
    (answer.map fun answer => (attempt.host.clock + delay, answer))).result attempt.command

/-- Runs commands one after the other, with one runner. -/
def carryOutAll (runner : Runner σ) :
    List Attempt → σ → List (Except (Halt HostFailure) Outcome) × σ
  | [], state => ([], state)
  | attempt :: attempts, state =>
    let (result, after) := attempt.carryOut runner state
    let (results, last) := carryOutAll runner attempts after.runner
    (result :: results, last)

/-- The commands that are not refused. -/
def asked (attempts : List Attempt) : List Command :=
  (attempts.filter (!·.refused)).map (·.command)

theorem asked_cons (attempt : Attempt) (attempts : List Attempt) :
    asked (attempt :: attempts) =
      (if attempt.refused then [] else [attempt.command]) ++ asked attempts := by
  cases refused : attempt.refused <;> simp [asked, refused]

variable {attempt : Attempt}

/-- A command that is refused does not reach the runner, and is not noted. -/
theorem carryOut_refused (runner : Runner σ) (state : σ) (refused : attempt.refused = true) :
    attempt.carryOut runner state =
      (.error (.failed (.cancelled attempt.command.line)), attempt.hostWith state) :=
  HostAction.run_cancelled runner attempt.limit attempt.command refused

/-- **A command that is not refused reaches the runner, is noted, and ends by its answer.** -/
theorem carryOut_given (runner : Runner σ) (state : σ) (free : attempt.refused = false) :
    (attempt.carryOut runner state).1 =
        attempt.result (runner state attempt.command).1.answer
          (runner state attempt.command).1.delay ∧
      (attempt.carryOut runner state).2.runner = (runner state attempt.command).2 ∧
      (attempt.carryOut runner state).2.log =
        ⟨attempt.host.clock, attempt.command⟩ :: attempt.host.log := by
  have opened : attempt.carryOut runner state = _ := HostAction.run_of_free free rfl
  rw [opened]
  exact await_conclude _ _ _ _ _

end Attempt

end HostNet
