/-
**Applying a configuration.**

An apply carries out its stages in their order and stops at the first failure. Nothing is undone.
The time of an apply starts with it; what is left of it once the services are restarted is the
time of the wait for the network.

* `Applier.carryOut`: what is done in a stage;
* `Applier.applyFrom_cons`: a stage is carried out before those after it;
* `Applier.carryOut_validate`: a configuration that breaks a rule leaves the host alone.
-/

import HostNet.Apply.Steps
import HostNet.Apply.Wait
import HostNet.Settings.Basic
import HostNet.Validation.Basic

namespace HostNet

open HostAction

/-- What an apply is given besides the configuration. -/
structure Applier (σ : Type) where
  runner : Runner σ
  settings : Settings

namespace Applier

variable {σ : Type}

/-- What is done in a stage of an apply of `config` that started at a moment and has `timeout` in
all. -/
def carryOut (applier : Applier σ) (config : NetworkConfig) (timeout : Duration) (started : Nat)
    (stage : Stage) : HostAction σ ApplyFailure Unit :=
  let settings := applier.settings
  let onHost (action : HostAction σ HostFailure Unit) := mapFailure (.hostFailed stage) action
  match stage with
  | .validate =>
    match config.validate with
    | .ok () => return ()
    | .error problem => fail (.invalid problem)
  | .hostname => onHost (setHostname applier.runner config.hostname?)
  | .proxy => onHost (updateProxies settings.paths.proxyFile config.proxy)
  | .networkFiles => onHost (writeUnits settings.paths.networkDirectory config.units)
  | .timesync => onHost (updateTimesync settings.paths.timesyncFile config.ntp)
  | .renameWait => waitForRename applier.runner settings.pollInterval settings.renameTimeout
  | .networkRestart => onHost (restart applier.runner settings.services.network)
  | .timesyncRestart => onHost (restart applier.runner settings.services.timesync)
  | .onlineWait => do
    let elapsed := (← clock) - started
    waitForOnline applier.runner settings.pollInterval config.addressedDevices
      ⟨timeout.nanos - elapsed⟩

/-- Carries out some stages one after the other. -/
def applyFrom (applier : Applier σ) (config : NetworkConfig) (timeout : Duration) (started : Nat)
    (stages : List Stage) : HostAction σ ApplyFailure Unit :=
  stages.forM (applier.carryOut config timeout started)

/-- Applies a configuration, waiting for the network up to some time after the start. -/
def apply (applier : Applier σ) (config : NetworkConfig) (timeout : Duration) :
    HostAction σ ApplyFailure Unit := do
  applier.applyFrom config timeout (← clock) Stage.all

/-- A stage is carried out before those after it. -/
theorem applyFrom_cons (applier : Applier σ) (config : NetworkConfig) (timeout : Duration)
    (started : Nat) (stage : Stage) (stages : List Stage) :
    applier.applyFrom config timeout started (stage :: stages) =
      applier.carryOut config timeout started stage >>= fun _ =>
        applier.applyFrom config timeout started stages := rfl

/-- A configuration that breaks a rule leaves the host alone. -/
theorem carryOut_validate (applier : Applier σ) {config : NetworkConfig} {problem : Problem}
    (timeout : Duration) (started : Nat) (host : Host σ)
    (invalid : config.validate = .error problem) :
    applier.carryOut config timeout started .validate host =
      (.error (.failed (.invalid problem)), host) := by
  simp only [carryOut, invalid]
  rfl

end Applier

end HostNet
