/-
**Units that create devices.**

Every interface and every bond has a bridge and a pair of virtual ends, one of which carries the
device's own name and the other joins the bridge; a bond is created itself as well. A VLAN is one
device.

* `netDevUnits`: the units of all interfaces, then of all bonds, then of all VLANs.
-/

import HostNet.Config.Basic
import HostNet.Unit.Line

namespace HostNet

/-- The line that sets an MTU; without one, or with 0, it is blank. -/
def mtuLine (mtu : Option UInt32) : UnitLine :=
  .optional "MTUBytes" ((mtu.filter (· ≠ 0)).map fun mtu => toString mtu.toNat)

/-- The lines that open a unit for a new device. -/
def netDevLines (name kind : String) (more : List UnitLine) (mtu : Option UInt32) :
    List UnitLine :=
  [.header "NetDev", .setting "Name" name, .setting "Kind" kind] ++ more ++ [mtuLine mtu, .blank]

/-- The bridge of a device. -/
def bridgeNetDev (rank device : String) (mtu : Option UInt32) : UnitFile where
  name := rank ++ "-br" ++ device ++ ".netdev"
  lines := netDevLines ("br" ++ device) "bridge" [] mtu ++
    [.header "Bridge", .setting "VLANFiltering" "true"]

/-- The pair of ends of a device: the one with its name, and the one that joins its bridge. -/
def pairNetDev (rank device hwaddr : String) (mtu : Option UInt32) : UnitFile where
  name := rank ++ "-" ++ device ++ ".netdev"
  lines := netDevLines device "veth" [.setting "MACAddress" hwaddr] mtu ++
    [.header "Peer", .setting "Name" ("vt" ++ device)]

/-- A bond. -/
def bondNetDev (bond : Bond) : UnitFile where
  name := "11-bn" ++ bond.name ++ ".netdev"
  lines := netDevLines ("bn" ++ bond.name) "bond" [] bond.mtu ++
    [.header "Bond", .setting "Mode" bond.mode.text]

/-- A VLAN. -/
def vlanNetDev (vlan : Vlan) : UnitFile where
  name := "12-" ++ vlan.name ++ ".netdev"
  lines := netDevLines vlan.name "vlan" [] vlan.mtu ++
    [.header "VLAN", .setting "Id" (toString vlan.id.toNat)]

/-- The units of an interface. -/
def interfaceNetDevs (interface : Interface) : List UnitFile :=
  [bridgeNetDev "10" interface.name interface.mtu,
    pairNetDev "10" interface.name interface.hwaddr interface.mtu]

/-- The units of a bond. -/
def bondNetDevs (bond : Bond) : List UnitFile :=
  [bondNetDev bond, bridgeNetDev "11" bond.name bond.mtu,
    pairNetDev "11" bond.name (bond.effectiveHwaddr?.getD "") bond.mtu]

/-- The units of all interfaces, then of all bonds, then of all VLANs. -/
def netDevUnits (config : NetworkConfig) : List UnitFile :=
  config.interfaces.flatMap interfaceNetDevs ++ config.bonds.flatMap bondNetDevs ++
    config.vlans.map vlanNetDev

end HostNet
