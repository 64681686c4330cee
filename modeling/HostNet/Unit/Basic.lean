/-
**All files written for a configuration.**

* `NetworkConfig.units`: the units that name cards, then those that create devices, then those that
  configure devices;
* `timesyncText?`: the time synchronization file, if there are time servers.
-/

import HostNet.Unit.Link
import HostNet.Unit.NetDev
import HostNet.Unit.Network

namespace HostNet

/-- Every unit of a configuration, in the order in which they are written. -/
def NetworkConfig.units (config : NetworkConfig) : List UnitFile :=
  linkUnits config ++ netDevUnits config ++ networkUnits config

/-- The lines of the time synchronization file. -/
def timesyncLines (servers : List String) : List UnitLine :=
  [.header "Time", .setting "FallbackNTP" (Text.joinWith " " servers)]

/-- The time synchronization file, if there are time servers. -/
def timesyncText? (ntp : Option Ntp) : Option String :=
  (ntp.filter (!·.timeservers.isEmpty)).map fun ntp =>
    UnitLine.render (timesyncLines ntp.timeservers)

end HostNet
