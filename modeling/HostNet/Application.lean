/-
**Applications.**

An application is started, stopped and updated by way of its services. Services are started and
restarted in their order and stopped in reverse order; the first one that fails ends it. An
application without services of its own needs nothing done. Which application a name stands for is
told by a registry.

* `Application.commands_stop`: stopping goes the way of starting backwards;
* `Registry.load_register`: a registered name stands for what was registered last.
-/

import HostNet.Command.Tools
import HostNet.Host.Running

namespace HostNet

/-- An application. -/
inductive Application where
  /-- An application that brings all it needs along. -/
  | plain (name : String)
  | services (name : String) (units : List String)
  deriving Repr, DecidableEq, Inhabited

/-- What is done with an application. -/
inductive Transition where
  | start
  | stop
  /-- A new version or configuration takes effect. -/
  | update
  deriving Repr, DecidableEq, Inhabited

/-- The request to the service manager for one service. -/
def Transition.request : Transition → String
  | .start => "start"
  | .stop => "stop"
  | .update => "restart"

/-- The services of a transition in the order in which it comes to them. -/
def Transition.order (transition : Transition) (units : List String) : List String :=
  match transition with
  | .stop => units.reverse
  | _ => units

namespace Application

/-- The name of an application. -/
def name : Application → String
  | plain name => name
  | services name _ => name

/-- The services of an application. -/
def units : Application → List String
  | plain _ => []
  | services _ units => units

/-- The commands of a transition. -/
def commands (application : Application) (transition : Transition) : List Command :=
  (transition.order application.units).map fun unit => .service transition.request unit

/-- Carries out a transition, up to the first command that fails. -/
def carryOut {σ : Type} (runner : Runner σ) (application : Application) (transition : Transition) :
    HostAction σ HostFailure Unit :=
  (application.commands transition).forM fun command => do
    let _ ← HostAction.runChecked runner none command

/-- Stopping goes the way of starting backwards. -/
theorem commands_stop (application : Application) :
    application.commands .stop =
      ((application.commands .start).map fun command =>
        .service "stop" (command.arguments.getLast?.getD "")).reverse := by
  simp [commands, Transition.order, Transition.request, Command.service, Function.comp_def]

end Application

/-- Which application a name stands for. -/
structure Registry where
  /-- Names with what makes an application from them. -/
  makers : List (String × (String → Application)) := []

namespace Registry

/-- Whether a name has been registered. -/
def contains (registry : Registry) (name : String) : Bool :=
  (registry.makers.lookup name).isSome

/-- Registers a name, in place of what it stood for. -/
def register (registry : Registry) (name : String) (maker : String → Application) : Registry :=
  { registry with makers := (name, maker) :: registry.makers.filter (·.1 ≠ name) }

/-- The application of a name; an unknown name has no services. -/
def load (registry : Registry) (name : String) : Application :=
  match registry.makers.lookup name with
  | some maker => maker name
  | none => .plain name

/-- The registry of the applications that come along. -/
def builtin : Registry :=
  ({} : Registry).register "incus" fun name => .services name ["incus.socket", "incus.service"]

/-- A registered name stands for what was registered last. -/
theorem load_register (registry : Registry) (name : String) (maker : String → Application) :
    (registry.register name maker).load name = maker name := by
  simp [register, load]

end Registry

end HostNet
