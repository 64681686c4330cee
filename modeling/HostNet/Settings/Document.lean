/-
**The settings document.**

Settings are read from a TOML document. Without a file the defaults hold; a file that is there has
to be a document of settings that can be used.

* `Settings.load`: the settings of a file;
* `Settings.load_absent`: without a file, the defaults.
-/

import HostNet.Config.Fields
import HostNet.Host.FileAccess
import HostNet.Settings.Basic
import HostNet.Toml.Format

namespace HostNet

section Fields

variable {V : Type} (format : Format V)

/-- A number of 64 bits. -/
def Format.count (value : V) : Decoded UInt64 := do
  return UInt64.ofNat (← format.natural 64 value)

/-- The settings of where files go. -/
def Paths.fields : Record V Paths where
  title := "paths"
  blank := {}
  fields := [
    .defaulted "network_dir" format.text fun value paths =>
      { paths with networkDirectory := value },
    .defaulted "timesync_file" format.text fun value paths => { paths with timesyncFile := value },
    .defaulted "proxy_env_file" format.text fun value paths => { paths with proxyFile := value }]

/-- The settings of how long things may take. -/
def Timing.fields : Record V Timing where
  title := "time limits"
  blank := {}
  fields := [
    .defaulted "apply_timeout_secs" format.count fun value timing =>
      { timing with applySecs := value },
    .defaulted "rename_timeout_secs" format.count fun value timing =>
      { timing with renameSecs := value },
    .defaulted "poll_interval_ms" format.count fun value timing =>
      { timing with pollMillis := value }]

/-- The settings of services. -/
def Services.fields : Record V Services where
  title := "services"
  blank := {}
  fields := [
    .defaulted "network_unit" format.text fun value services => { services with network := value },
    .defaulted "timesync_unit" format.text fun value services =>
      { services with timesync := value }]

/-- The settings of applications: those that are enabled. -/
def enabledFields : Record V (List String) where
  title := "applications"
  blank := []
  fields := [.defaulted "enabled" format.texts fun value _ => value]

/-- The settings of the daemon. -/
def Settings.fields : Record V Settings where
  title := "settings"
  blank := {}
  fields := [
    .defaulted "paths" ((Paths.fields format).read format) fun value settings =>
      { settings with paths := value },
    .defaulted "timeouts" ((Timing.fields format).read format) fun value settings =>
      { settings with timing := value },
    .defaulted "services" ((Services.fields format).read format) fun value settings =>
      { settings with services := value },
    .defaulted "applications" ((enabledFields format).read format) fun value settings =>
      { settings with applications := value }]

end Fields

namespace Settings

/-- Reads a document. -/
def ofDocument (document : String) : Decoded Settings :=
  Toml.decode (Settings.fields Toml.format) document

/-- The settings of a file. -/
def load (tree : FileTree) (path : String) : Except SettingsFailure Settings :=
  match tree.text path with
  | .error .notFound => .ok {}
  | .error cause => .error (.unreadable path cause)
  | .ok document =>
    match ofDocument document with
    | .error failure => .error (.misfit path failure)
    | .ok settings => do
      settings.check
      return settings

/-- Without a file, the defaults hold. -/
theorem load_absent {tree : FileTree} {path : String} (absent : tree.text path = .error .notFound) :
    load tree path = .ok {} := by
  simp [load, absent]

end Settings

end HostNet
