/-
**Services in turn.**

A transition of an application is one request to the service manager for each of its services. The
requests are made one after the other, and the first that fails ends the transition with its error:
the services behind it are not asked for anything. Stopping takes the services from the last to the
first.

* `AllSucceed`: commands that succeed one after the other;
* `InTurn`: commands up to the first that fails, with what is noted of them;
* `Application.carryOut_iff_inTurn`: a transition runs its commands in turn;
* `Application.services_in_turn`: the requests of each transition, and their order.
-/

import HostNet.Application
import HostNet.Proofs.Host.Failing
import Mathlib.Data.List.Basic

namespace HostNet

variable {σ : Type} {runner : Runner σ} {before middle after : Host σ}

/-! ### Commands one after the other -/

/-- Commands that succeed one after the other. -/
inductive AllSucceed (runner : Runner σ) : Host σ → List Command → Host σ → Prop
  | nil (host : Host σ) : AllSucceed runner host [] host
  | cons {command : Command} {commands : List Command} {before middle after : Host σ}
      (first : Succeeds runner command before middle)
      (others : AllSucceed runner middle commands after) :
      AllSucceed runner before (command :: commands) after

/-- Each of them is noted. -/
theorem AllSucceed.recorded {commands : List Command}
    (succeed : AllSucceed runner before commands after) : Recorded before commands after := by
  induction succeed with
  | nil host => exact Recorded.of_log rfl
  | cons first _ ih => exact first.recorded.trans ih

/-- **Commands in turn.** If all succeed, all are noted. Otherwise the result is the error of the
first that fails; noted are those before it, and this one unless it is refused. -/
def InTurn (runner : Runner σ) (commands : List Command) (before after : Host σ) :
    Except (Halt HostFailure) Unit → Prop
  | .ok _ => AllSucceed runner before commands after ∧ Recorded before commands after
  | .error halt => ∃ front command back middle, commands = front ++ command :: back ∧
      AllSucceed runner before front middle ∧ Fails runner command middle halt after ∧
      Recorded before (front ++ if middle.isCancelled then [] else [command]) after

namespace HostAction

open HostNet.Action

theorem forM_ok_iff_allSucceed {commands : List Command} :
    (commands.forM fun command => do let _ ← runChecked runner none command :
        HostAction σ HostFailure Unit) before = (.ok ⟨⟩, after) ↔
      AllSucceed runner before commands after := by
  induction commands generalizing before with
  | nil =>
    constructor
    · intro done
      cases done
      exact .nil _
    · intro succeed
      cases succeed
      rfl
  | cons command commands ih =>
    rw [forM_cons_ok_iff]
    constructor
    · rintro ⟨middle, first, others⟩
      exact .cons (succeed_ok_iff.mp first) (ih.mp others)
    · intro succeed
      cases succeed with
      | cons first others => exact ⟨_, succeed_ok_iff.mpr first, ih.mpr others⟩

/-- **A sequence of commands is run in turn.** -/
theorem forM_iff_inTurn {commands : List Command} {result : Except (Halt HostFailure) Unit} :
    (commands.forM fun command => do let _ ← runChecked runner none command :
        HostAction σ HostFailure Unit) before = (result, after) ↔
      InTurn runner commands before after result := by
  cases result with
  | ok _ =>
    refine forM_ok_iff_allSucceed.trans ?_
    exact ⟨fun succeed => ⟨succeed, succeed.recorded⟩, And.left⟩
  | error halt =>
    refine forM_error_iff.trans ?_
    constructor
    · rintro ⟨front, command, back, middle, equal, done, stopped⟩
      have succeed := forM_ok_iff_allSucceed.mp done
      have fails := succeed_error_iff.mp stopped
      exact ⟨front, command, back, middle, equal, succeed, fails,
        succeed.recorded.trans fails.recorded⟩
    · rintro ⟨front, command, back, middle, equal, succeed, fails, -⟩
      exact ⟨front, command, back, middle, equal, forM_ok_iff_allSucceed.mpr succeed,
        succeed_error_iff.mpr fails⟩

end HostAction

/-! ### What is read off the log -/

/-- The commands that were run between two states are known. -/
theorem Recorded.unique {first second : List Command} (one : Recorded before first after)
    (other : Recorded before second after) : first = second := by
  obtain ⟨calls, whole, rfl⟩ := one
  obtain ⟨others, same, rfl⟩ := other
  rw [List.append_cancel_left (whole.symm.trans same)]

/-- One request for several services names them in its commands. -/
theorem map_service_injective (request : String) :
    Function.Injective (List.map (Command.service request)) := by
  refine List.map_injective_iff.mpr fun unit other same => ?_
  simpa [Command.service] using same

/-! ### Applications -/

namespace Application

/-- A transition runs its commands in turn. -/
theorem carryOut_iff_inTurn {application : Application} {transition : Transition}
    {result : Except (Halt HostFailure) Unit} :
    carryOut runner application transition before = (result, after) ↔
      InTurn runner (application.commands transition) before after result :=
  HostAction.forM_iff_inTurn

/-- **The services of an application in turn.** Starting asks for a start of each service in their
order, stopping for a stop of each in reverse order, and updating for a restart of each in their
order, whatever the runner does and whenever cancellation is requested; each goes on up to the first
command that fails, whose error it returns. If starting and stopping succeed, the services in the
commands of the one are those of the other backwards. -/
theorem services_in_turn (runner : Runner σ) (name : String) (units : List String) :
    (∀ (before after : Host σ) (result : Except (Halt HostFailure) Unit),
      (carryOut runner (.services name units) .start before = (result, after) ↔
        InTurn runner (units.map fun unit => ⟨"systemctl", ["start", unit]⟩) before after result) ∧
      (carryOut runner (.services name units) .stop before = (result, after) ↔
        InTurn runner (units.reverse.map fun unit => ⟨"systemctl", ["stop", unit]⟩) before after
          result) ∧
      (carryOut runner (.services name units) .update before = (result, after) ↔
        InTurn runner (units.map fun unit => ⟨"systemctl", ["restart", unit]⟩) before after
          result)) ∧
    ∀ first started second stopped : Host σ,
      carryOut runner (.services name units) .start first = (.ok ⟨⟩, started) →
      carryOut runner (.services name units) .stop second = (.ok ⟨⟩, stopped) →
      ∀ starts stops : List String, Recorded first (starts.map (.service "start")) started →
        Recorded second (stops.map (.service "stop")) stopped → stops = starts.reverse := by
  refine ⟨fun before after result => ?_, fun first started second stopped start stop => ?_⟩
  · exact ⟨carryOut_iff_inTurn, carryOut_iff_inTurn, carryOut_iff_inTurn⟩
  · intro starts stops begun ended
    have inOrder : Recorded first (units.map (.service "start")) started :=
      (carryOut_iff_inTurn.mp start).2
    have inReverse : Recorded second (units.reverse.map (.service "stop")) stopped :=
      (carryOut_iff_inTurn.mp stop).2
    rw [map_service_injective _ (begun.unique inOrder),
      map_service_injective _ (ended.unique inReverse)]

/-- A runner for which every command succeeds at once. -/
def willing : Runner Unit := fun _ _ => ({ answer := some (.finished {}) }, ())

/-- Both services of an application are started, and stopped the other way round. -/
theorem incus_in_turn :
    Registry.builtin.load "incus" = .services "incus" ["incus.socket", "incus.service"] ∧
      (carryOut willing (Registry.builtin.load "incus") .start { runner := () }).1 = .ok ⟨⟩ ∧
      (carryOut willing (Registry.builtin.load "incus") .stop { runner := () }).1 = .ok ⟨⟩ ∧
      ["incus.service", "incus.socket"] = ["incus.socket", "incus.service"].reverse := by
  have whole := services_in_turn willing "incus" ["incus.socket", "incus.service"]
  refine ⟨rfl, rfl, rfl, whole.2 { runner := () } _ { runner := () } _ rfl rfl _ _ ?_ ?_⟩
  · exact ⟨_, rfl, rfl⟩
  · exact ⟨_, rfl, rfl⟩

/-- A runner whose second command exits with an error. -/
def faltering : Runner Nat := fun count _ =>
  ({ answer := some (.finished { exitCode := if count = 1 then 5 else 0 }) }, count + 1)

example : (carryOut faltering (.services "trio" ["a", "b", "c"]) .stop { runner := 0 }).2.calls.map
    (·.command.line) = ["systemctl stop c", "systemctl stop b"] := by decide +kernel

end Application

end HostNet
