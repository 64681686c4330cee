/-
**Settings of the daemon.**

Where the files of an apply go, how long things may take, which services are restarted, and which
applications are started. Every setting has a default.

* `Settings.check_ok_iff`: what settings have to satisfy;
* `Settings.check_default`: the defaults do.
-/

import HostNet.Duration
import HostNet.Host.Failure
import HostNet.Schema.Failure

namespace HostNet

/-- Where the files of an apply go. -/
structure Paths where
  /-- The directory of the units, which is made anew by every apply. -/
  networkDirectory : String := "/run/systemd/network"
  timesyncFile : String := "/run/systemd/timesyncd.conf.d/osd.conf"
  proxyFile : String := "/run/osd/proxy.env"
  deriving Repr, DecidableEq, Inhabited

/-- How long things may take. -/
structure Timing where
  applySecs : UInt64 := 30
  renameSecs : UInt64 := 5
  /-- The time between two probes. -/
  pollMillis : UInt64 := 500
  deriving Repr, DecidableEq, Inhabited

/-- The services that are restarted for a new configuration. -/
structure Services where
  network : String := "systemd-networkd"
  timesync : String := "systemd-timesyncd"
  deriving Repr, DecidableEq, Inhabited

/-- Settings of the daemon. -/
structure Settings where
  paths : Paths := {}
  timing : Timing := {}
  services : Services := {}
  /-- The applications started once the network is up. -/
  applications : List String := []
  deriving Repr, DecidableEq, Inhabited

/-- Why settings cannot be used. -/
inductive SettingsFailure where
  | unreadable (path : String) (cause : Refusal)
  | misfit (path : String) (failure : DecodeFailure)
  /-- There would be no time between two probes. -/
  | zeroInterval
  | unnamedService
  /-- The directory of the units is the empty path. -/
  | emptyDirectory
  deriving Repr, DecidableEq, Inhabited

/-- The sentence for a failure. -/
def SettingsFailure.message : SettingsFailure → String
  | .unreadable path cause => "Failed to read config file " ++ path ++ ": " ++ cause.message
  | .misfit path failure => "Failed to parse config file " ++ path ++ ": " ++ failure.message
  | .zeroInterval => "poll_interval_ms must be > 0"
  | .unnamedService => "service unit names cannot be empty"
  | .emptyDirectory => "network_dir cannot be empty"

namespace Settings

/-- The time in which the network has to be up. -/
def applyTimeout (settings : Settings) : Duration := .ofSecs settings.timing.applySecs.toNat

/-- The time in which the cards have to be given their names. -/
def renameTimeout (settings : Settings) : Duration := .ofSecs settings.timing.renameSecs.toNat

/-- The time between two probes. -/
def pollInterval (settings : Settings) : Duration := .ofMillis settings.timing.pollMillis.toNat

/-- Refuses settings that cannot be used. -/
def check (settings : Settings) : Except SettingsFailure Unit :=
  if settings.timing.pollMillis = 0 then .error .zeroInterval
  else if settings.services.network = "" ∨ settings.services.timesync = "" then
    .error .unnamedService
  else if settings.paths.networkDirectory = "" then .error .emptyDirectory
  else .ok ()

/-- **What settings have to satisfy.** -/
theorem check_ok_iff (settings : Settings) :
    settings.check = .ok () ↔ settings.timing.pollMillis ≠ 0 ∧
      (settings.services.network ≠ "" ∧ settings.services.timesync ≠ "") ∧
      settings.paths.networkDirectory ≠ "" := by
  unfold check
  by_cases zero : settings.timing.pollMillis = 0
  · simp [zero]
  · by_cases unnamed : settings.services.network = "" ∨ settings.services.timesync = ""
    · simp only [zero, unnamed, if_true, if_false]
      simp only [reduceCtorEq, false_iff, ne_eq, not_and]
      intro _ named
      rcases unnamed with missing | missing
      · exact absurd missing named.1
      · exact absurd missing named.2
    · by_cases empty : settings.paths.networkDirectory = ""
      · simp [zero, unnamed, empty]
      · rw [not_or] at unnamed
        simp [zero, unnamed, empty]

/-- The defaults satisfy it. -/
theorem check_default : ({} : Settings).check = .ok () := by
  rw [check_ok_iff]
  decide

end Settings

end HostNet
