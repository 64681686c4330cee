/-
**Units that name network cards.**

Each interface has a unit that names its card after its hardware address and lets the card's address
be random; each bond member has one more, which keeps the address, since the bond may take it over.

* `linkUnits`: the units of all interfaces, then those of all bond members.
-/

import HostNet.Config.Basic
import HostNet.Unit.Line

namespace HostNet

/-- The unit that names the card with a hardware address. -/
def linkUnit (rank hwaddr : String) (randomAddress : Bool) : UnitFile where
  name := rank ++ "-" ++ Hwaddr.deviceName hwaddr ++ ".link"
  lines :=
    [.header "Match", .setting "PermanentMACAddress" hwaddr, .blank, .header "Link"] ++
      (if randomAddress then [.setting "MACAddressPolicy" "random"] else []) ++
      [.setting "NamePolicy" "", .setting "Name" (Hwaddr.deviceName hwaddr)]

/-- The units of all interfaces, then those of all bond members. -/
def linkUnits (config : NetworkConfig) : List UnitFile :=
  config.interfaces.map (fun interface => linkUnit "00" interface.hwaddr true) ++
    (config.bonds.flatMap (·.members)).map (fun member => linkUnit "01" member false)

end HostNet
