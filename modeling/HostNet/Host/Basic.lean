/-
**A host and what is done on it.**

A host has a clock, a request for cancellation, a log of the commands that were run, their
environment, a runner that answers commands, and a tree of files. What is done on it may fail, may
be overdue, or may wait for something that never comes; the host is then left as it is at that
moment.

* `HostAction.await`: lets time pass until something is ready, cancelled or overdue, in this order
  of preference at one and the same moment of cancellation;
* `HostAction.await_clock_le`: time never goes back.
-/

import HostNet.Command.Line
import HostNet.Host.FileAccess

namespace HostNet

/-- A command that was run, and the moment of its start. -/
structure Call where
  moment : Nat
  command : Command
  deriving Repr, DecidableEq, Inhabited

/-- The state of a host whose runner has a state of type `σ`. -/
structure Host (σ : Type) where
  /-- The time in nanoseconds. -/
  clock : Nat := 0
  /-- The moment from which on everything is cancelled. -/
  cancelAt : Option Nat := none
  /-- The commands that were run, the latest first. -/
  log : List Call := []
  /-- The variables that commands find in their environment. -/
  environment : List (String × String) := []
  runner : σ
  files : FileTree := {}

namespace Host

variable {σ : Type}

/-- Whether cancellation has been requested by now. -/
def isCancelled (host : Host σ) : Bool := host.cancelAt.any (· ≤ host.clock)

/-- Requests cancellation now, unless it has been requested before. -/
def cancel (host : Host σ) : Host σ :=
  if host.isCancelled then host else { host with cancelAt := some host.clock }

/-- Lets time pass up to a moment. -/
def advance (host : Host σ) (moment : Nat) : Host σ := { host with clock := max host.clock moment }

/-- Sets a variable of the environment, or removes it. -/
def setVariable (host : Host σ) (name : String) (value : Option String) : Host σ :=
  { host with
    environment := host.environment.filter (·.1 ≠ name) ++ (value.map ((name, ·))).toList }

/-- The commands that were run, in their order. -/
def calls (host : Host σ) : List Call := host.log.reverse

/-- After a request everything is cancelled. -/
theorem isCancelled_cancel (host : Host σ) : host.cancel.isCancelled = true := by
  unfold cancel
  split
  · assumption
  · simp [isCancelled]

end Host

/-- Why something that is done on a host stops before its end. -/
inductive Halt (ε : Type) where
  | failed (failure : ε)
  /-- The moment by which it had to be done has come. -/
  | overdue
  /-- It waits for something that never comes. -/
  | stuck
  deriving Repr, DecidableEq, Inhabited

/-- Something done on a host. -/
abbrev HostAction (σ ε α : Type) := ExceptT (Halt ε) (StateM (Host σ)) α

/-- How waiting ends. -/
inductive WaitEnd (α : Type) where
  | ready (moment : Nat) (result : α)
  | cancelled (moment : Nat)
  | overdue (moment : Nat)
  | never
  deriving Repr, DecidableEq

/-- Whether a moment comes no later than another, which may never come. -/
def noLater (moment : Nat) (other : Option Nat) : Bool := other.all (moment ≤ ·)

/-- How waiting for something ends that is ready at some moment or never. -/
def WaitEnd.of {α : Type} (cancelAt limit : Option Nat) (ready : Option (Nat × α)) : WaitEnd α :=
  match cancelAt.filter fun moment => noLater moment limit && noLater moment (ready.map (·.1)) with
  | some moment => .cancelled moment
  | none =>
    match ready.filter fun result => noLater result.1 limit with
    | some (moment, result) => .ready moment result
    | none =>
      match limit with
      | some moment => .overdue moment
      | none => .never

namespace HostAction

variable {σ ε α : Type}

/-- Stops with a failure. -/
def fail (failure : ε) : HostAction σ ε α := throw (.failed failure)

/-- Lets time pass until something is ready, unless cancellation or the limit comes first. -/
def await (limit : Option Nat) (ready : Option (Nat × α)) (cancelled : ε) : HostAction σ ε α :=
  fun host =>
    match WaitEnd.of host.cancelAt limit ready with
    | .ready moment result => (.ok result, host.advance moment)
    | .cancelled moment => (.error (.failed cancelled), host.advance moment)
    | .overdue moment => (.error .overdue, host.advance moment)
    | .never => (.error .stuck, host)

/-- Works on the files of the host; a refusal is a failure. -/
def onFiles (action : FileAction α) (failure : Refusal → ε) : HostAction σ ε α :=
  fun host =>
    let (result, files) := action.run.run host.files
    (result.mapError fun refusal => .failed (failure refusal), { host with files := files })

/-- Tells a failure in other words. -/
def mapFailure {δ : Type} (change : ε → δ) (action : HostAction σ ε α) : HostAction σ δ α :=
  fun host =>
    let (result, after) := action host
    (result.mapError fun halt =>
      match halt with
      | .failed failure => .failed (change failure)
      | .overdue => .overdue
      | .stuck => .stuck, after)

/-- Makes being overdue a failure. -/
def orOverdue (failure : ε) (action : HostAction σ ε α) : HostAction σ ε α :=
  fun host =>
    let (result, after) := action host
    (result.mapError fun halt =>
      match halt with
      | .overdue => .failed failure
      | other => other, after)

/-- The time on the host. -/
def clock : HostAction σ ε Nat := return (← get).clock

/-- Time never goes back. -/
theorem await_clock_le (limit : Option Nat) (ready : Option (Nat × α)) (cancelled : ε)
    (host : Host σ) : host.clock ≤ (await limit ready cancelled host).2.clock := by
  unfold await
  split
  · exact Nat.le_max_left _ _
  · exact Nat.le_max_left _ _
  · exact Nat.le_max_left _ _
  · exact Nat.le_refl _

/-- What waiting leaves alone. -/
theorem await_log (limit : Option Nat) (ready : Option (Nat × α)) (cancelled : ε)
    (host : Host σ) :
    (await limit ready cancelled host).2.log = host.log ∧
      (await limit ready cancelled host).2.files = host.files := by
  unfold await
  split <;> exact ⟨rfl, rfl⟩

end HostAction

end HostNet
