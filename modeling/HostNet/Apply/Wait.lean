/-
**Waiting for the network.**

A wait probes the host at once and then again after every interval, until a probe holds or the
time of the wait is over. A probe that is still running at the end of that time is given up. Only
the pause between two probes may go past the end.

* `probeRenames`: whether a card has been given its device name;
* `probeOnline`: whether all devices that the host waits for are online and have an address;
* `waitFor_zero`: without time there is no probe.
-/

import HostNet.Apply.Stage
import HostNet.Command.Tools
import HostNet.Host.Running

namespace HostNet.HostAction

variable {σ : Type}

/-- A question to the host that has to be answered before a limit in time. -/
abbrev Probe (σ : Type) := Option Nat → HostAction σ HostFailure Bool

/-! ### Probes -/

/-- Whether the kernel log shows that a card has been given its device name, after the events of
devices have been replayed. -/
def probeRenames (runner : Runner σ) : Probe σ := fun limit => do
  let _ ← runChecked runner limit .replayDevices
  let _ ← runChecked runner limit .settleDevices
  let outcome ← run runner limit .searchRenames
  return outcome.succeeded

/-- The state of a device; it is unknown if the question fails. -/
def linkState (runner : Runner σ) (limit : Option Nat) (device : String) :
    HostAction σ HostFailure LinkState := do
  let outcome ← run runner limit (.linkStatus device)
  return if outcome.succeeded then .ofStatus outcome.stdout else .unknown

/-- Whether a device has an address that reaches beyond the link. -/
def hasAddress (runner : Runner σ) (limit : Option Nat) (device : String) :
    HostAction σ HostFailure Bool := do
  let outcome ← run runner limit (.showAddresses device)
  return outcome.succeeded && countRoutable outcome.stdout ≠ 0

/-- Whether the host need not wait for a device any longer. -/
def isSettled (runner : Runner σ) (limit : Option Nat) (device : String) :
    HostAction σ HostFailure Bool := do
  let state ← linkState runner limit device
  if !state.required then return true
  if !state.online then return false
  hasAddress runner limit device

/-- Whether the host need not wait for any of some devices; the first one it has to wait for
decides. -/
def probeOnline (runner : Runner σ) : List String → Probe σ
  | [], _ => return true
  | device :: devices, limit => do
    if ← isSettled runner limit device then probeOnline runner devices limit
    else return false

/-! ### Waiting -/

/-- Pauses between two probes; cancellation ends the pause and the wait. -/
def pause (stage : Stage) (interval : Duration) : HostAction σ ApplyFailure Unit := do
  let now ← clock
  await none (some (now + interval.nanos, ())) (.hostFailed stage (.cancelled stage.text))

/-- Probes until a probe holds or a moment has come, at most as often as there is fuel. If the interval
is positive, fuel for one probe more than there are nanoseconds before the deadline is enough. With an
interval of 0, probes that take no time either use it up before the deadline comes, and the wait is
stuck. -/
def probeUntil (stage : Stage) (interval timeout : Duration) (probe : Probe σ) (deadline : Nat) :
    Nat → HostAction σ ApplyFailure Unit
  | 0 => throw .stuck
  | fuel + 1 => do
    if deadline ≤ (← clock) then fail (.timedOut stage timeout)
    let holds ← orOverdue (.timedOut stage timeout)
      (mapFailure (.hostFailed stage) (probe (some deadline)))
    if holds then return ()
    pause stage interval
    probeUntil stage interval timeout probe deadline fuel

/-- Waits until a probe holds, at most for some time. Moments are numbers without a bound here, so there
always is a deadline. On a clock with a last moment the sum may lie beyond it; a wait breaks off there
without a result, which is left out. -/
def waitFor (stage : Stage) (interval timeout : Duration) (probe : Probe σ) :
    HostAction σ ApplyFailure Unit := do
  let now ← clock
  probeUntil stage interval timeout probe (now + timeout.nanos) (timeout.nanos + 1)

/-- Waits until a card has been given its device name. -/
def waitForRename (runner : Runner σ) (interval timeout : Duration) :
    HostAction σ ApplyFailure Unit :=
  waitFor .renameWait interval timeout (probeRenames runner)

/-- Waits until all devices that the host waits for are online and have an address. -/
def waitForOnline (runner : Runner σ) (interval : Duration) (devices : List String)
    (timeout : Duration) : HostAction σ ApplyFailure Unit :=
  waitFor .onlineWait interval timeout (probeOnline runner devices)

/-- Without time there is no probe. -/
theorem waitFor_zero (stage : Stage) (interval : Duration) (probe : Probe σ) (host : Host σ) :
    waitFor stage interval ⟨0⟩ probe host = (.error (.failed (.timedOut stage ⟨0⟩)), host) := by
  simp only [waitFor, probeUntil, clock, bind, ExceptT.bind, ExceptT.mk, ExceptT.bindCont,
    StateT.bind, get, getThe, MonadStateOf.get, liftM, monadLift, MonadLift.monadLift,
    ExceptT.lift, Functor.map, StateT.map, StateT.get, pure, ExceptT.pure]
  delta StateT.pure
  simp only [StateT.bind, StateT.map, StateT.get, ExceptT.bindCont, bind, pure, Nat.add_zero,
    Nat.le_refl, if_true]
  rfl

end HostNet.HostAction
