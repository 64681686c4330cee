/-
**Running commands.**

A runner answers a command after some time, or never. A command is refused once cancellation has
been requested; otherwise it is noted in the log, and cancelled if the request comes before its
answer.

* `run`: the outcome of a command, whatever its exit code;
* `runChecked`: the standard output of a command that has to succeed;
* `run_cancelled`: a refused command is not noted.
-/

import HostNet.Command.Report
import HostNet.Host.Basic

namespace HostNet

/-- What becomes of a command. -/
inductive Answer where
  | finished (outcome : Outcome)
  | notStarted (cause : Refusal)
  deriving Repr, DecidableEq, Inhabited

/-- What a runner does with a command. -/
structure Response where
  /-- The answer; none if the command hangs. -/
  answer : Option Answer
  /-- The time in nanoseconds until the answer. -/
  delay : Nat := 0
  /-- Whether cancellation is requested right after the answer. -/
  cancels : Bool := false
  deriving Repr, DecidableEq, Inhabited

/-- What answers commands, from a state of its own. -/
abbrev Runner (σ : Type) := σ → Command → Response × σ

namespace HostAction

variable {σ : Type}

/-- Gives a command to the runner and notes it. -/
def start (runner : Runner σ) (command : Command) : HostAction σ HostFailure Response :=
  fun host =>
    let (response, state) := runner host.runner command
    (.ok response, { host with runner := state, log := ⟨host.clock, command⟩ :: host.log })

/-- Runs a command, up to a limit in time. -/
def run (runner : Runner σ) (limit : Option Nat) (command : Command) :
    HostAction σ HostFailure Outcome := do
  if (← get).isCancelled then fail (.cancelled command.line)
  let now ← clock
  let response ← start runner command
  let answer ← await limit (response.answer.map fun answer => (now + response.delay, answer))
    (.cancelled command.line)
  if response.cancels then modify Host.cancel
  match answer with
  | .finished outcome => return outcome
  | .notStarted cause => fail (.notStarted command.line cause)

/-- Runs a command that has to succeed, for its standard output. -/
def runChecked (runner : Runner σ) (limit : Option Nat) (command : Command) :
    HostAction σ HostFailure String := do
  let outcome ← run runner limit command
  if outcome.succeeded then return outcome.stdout
  else fail (.commandFailed command.line outcome.exitCode outcome.combined)

/-- A command is refused and not noted once cancellation has been requested. -/
theorem run_cancelled (runner : Runner σ) (limit : Option Nat) (command : Command) {host : Host σ}
    (cancelled : host.isCancelled = true) :
    run runner limit command host = (.error (.failed (.cancelled command.line)), host) := by
  simp only [run, bind, ExceptT.bind, ExceptT.mk, ExceptT.bindCont, StateT.bind, get, getThe,
    MonadStateOf.get, liftM, monadLift, MonadLift.monadLift, ExceptT.lift, Functor.map,
    StateT.map, StateT.get, pure, cancelled]
  rfl

end HostAction

end HostNet
