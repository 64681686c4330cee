/-
**What the daemon does when it is invoked.**

The settings are read first, then the configuration, which has to keep the rules. To validate and
to render touches nothing. To apply sets the proxies of the daemon's own environment before any
command is run. To run applies, starts the applications, and stops them in reverse order once the
end is requested.

* `SessionFailure.sentence?`: a failure with all that is beneath it;
* `renderedText`: the units of a configuration one after the other.
-/

import HostNet.Application
import HostNet.Apply.Basic
import HostNet.Config.Document
import HostNet.Invocation
import HostNet.Settings.Document
import HostNet.Text.Inert

namespace HostNet

open HostNet.Text

/-- How a session fails. -/
inductive SessionFailure where
  | settings (failure : SettingsFailure)
  | configuration (failure : LoadFailure)
  | invalid (problem : Problem)
  | notApplied (file : String) (failure : ApplyFailure)
  /-- A variable of the environment cannot have the value that it should have. -/
  | misfitVariable (name : String)
  deriving Repr, DecidableEq, Inhabited

/-- A failure with all that is beneath it, from the top down. -/
def ApplyFailure.chain (failure : ApplyFailure) : List String := failure.message :: failure.causes

/-- A failure of a session with all that is beneath it; about a variable nothing is said. -/
def SessionFailure.sentence? (failure : SessionFailure) : Option String :=
  match failure with
  | .settings failure => some (joinWith ": " (ApplyFailure.unloadable failure.message).chain)
  | .configuration failure => some (joinWith ": " failure.toApplyFailure.chain)
  | .invalid problem => some problem.message
  | .notApplied file failure => some (joinWith ": " (("Failed to apply " ++ file) :: failure.chain))
  | .misfitVariable _ => none

/-- The line of the log that complains of something. -/
def complaintLine (sentence : String) : String := inert ("netcfgd error: " ++ sentence)

/-- The line of the log in which a session complains of a failure. -/
def SessionFailure.complaint? (failure : SessionFailure) : Option String :=
  failure.sentence?.map complaintLine

/-- The exit code after a failure. -/
def SessionFailure.exitCode (failure : SessionFailure) : Nat :=
  match failure with
  | .misfitVariable _ => 101
  | _ => 1

/-- A file with its name above it. -/
def titled (name contents : String) : String := "# " ++ name ++ "\n" ++ contents ++ "\n"

/-- The units of a configuration one after the other, and the file of the time servers. -/
def renderedText (config : NetworkConfig) : String :=
  String.join (config.units.map fun unit => titled unit.name unit.contents) ++
    ((timesyncText? config.ntp).map (titled "timesyncd")).getD ""

namespace HostAction

variable {σ ε : Type}

/-- Goes on with a result, or fails. -/
def orFail {δ α : Type} (change : δ → ε) : Except δ α → HostAction σ ε α
  | .ok result => return result
  | .error failure => fail (change failure)

/-- Sets a variable in the environment of commands, or removes it. -/
def exportVariable (setting : String × Option String) : HostAction σ SessionFailure Unit := do
  if (setting.2.getD "").toList.contains '\x00' then fail (.misfitVariable setting.1)
  modify fun host => host.setVariable setting.1 setting.2

/-- Sets the proxies in the environment of commands. -/
def exportProxies (proxy : Option Proxy) : HostAction σ SessionFailure Unit :=
  (proxyVariables proxy).forM exportVariable

/-- Does something and tells whether it succeeded. -/
def succeeds {δ : Type} (action : HostAction σ ε Unit) : HostAction σ δ Bool := fun host =>
  let (result, after) := action host
  match result with
  | .ok () => (.ok true, after)
  | .error (.failed _) => (.ok false, after)
  | .error .overdue => (.error .overdue, after)
  | .error .stuck => (.error .stuck, after)

/-- Stays until the end is requested. -/
def untilCancelled : HostAction σ ε Unit := fun host =>
  match host.cancelAt with
  | some moment => (.ok (), host.advance moment)
  | none => (.error .stuck, host)

end HostAction

open HostAction

/-- Starts applications, and gives those that could be started. -/
def startApplications {σ ε : Type} (runner : Runner σ) : List Application →
    HostAction σ ε (List Application)
  | [] => return []
  | application :: applications => do
    let started ← succeeds (application.carryOut runner .start)
    let others ← startApplications runner applications
    return if started then application :: others else others

/-- Starts the applications, stays until the end is requested and stops them in reverse order. -/
def serve {σ ε : Type} (runner : Runner σ) (names : List String) : HostAction σ ε Unit := do
  let started ← startApplications runner (names.map Registry.builtin.load)
  untilCancelled
  modify fun host => { host with cancelAt := none }
  started.reverse.forM fun application => do
    let _ ← succeeds (application.carryOut runner .stop)

namespace Invocation

variable {σ : Type}

/-- Reads a configuration that keeps the rules. -/
def readConfig (file : String) : HostAction σ SessionFailure NetworkConfig := do
  let config ← orFail .configuration (NetworkConfig.load (← get).files file)
  orFail .invalid config.validate
  return config

/-- Applies a configuration. -/
def applyConfig (runner : Runner σ) (settings : Settings) (file : String)
    (config : NetworkConfig) : HostAction σ SessionFailure Unit := do
  exportProxies config.proxy
  mapFailure (.notApplied file)
    (Applier.apply ⟨runner, settings⟩ config settings.applyTimeout)

/-- Does what is asked for, and gives what is printed. -/
def carryOut (runner : Runner σ) (invocation : Invocation) :
    HostAction σ SessionFailure String := do
  let settings ← orFail .settings (Settings.load (← get).files invocation.settingsPath)
  let config ← readConfig invocation.file
  match invocation.request with
  | .validate => return invocation.file ++ ": valid\n"
  | .render => return renderedText config
  | .apply =>
    applyConfig runner settings invocation.file config
    return ""
  | .run =>
    applyConfig runner settings invocation.file config
    serve runner settings.applications
    return ""

end Invocation

end HostNet
