/-
**Parents, and what their units owe to the VLANs.**

Only interfaces and bonds can be parents of VLANs. A parent has three units that depend on its VLANs:
that of its own end, which attaches them one by one, and those of the two ports of its bridge, which
admit their ids. Its other units depend on the device alone, and no unit of it on the VLANs of other
devices.

* `ParentDevice`: an interface or a bond, apart from a configuration;
* `networkUnits_eq`: the units that configure devices, parent by parent, then those of the VLANs;
* `NetworkConfig.ownEnds`: the own ends of all devices, whose units are written;
* `ParentDevice.ownUnit_contents`: the text of the unit of the own end, cut where the VLANs are;
* `ParentDevice.ports_congr` and `ParentDevice.vlanText_eq_iff`: the ports know the set of ids;
* `ParentDevice.units_congr`: the units of a parent under two configurations that stack the same VLANs
  on it.
-/

import HostNet.Proofs.Unit.BridgeVlan
import HostNet.Proofs.Unit.Names
import HostNet.Proofs.Unit.OwnEnd

namespace HostNet

/-! ### VLANs -/

/-- The own end of a VLAN, which carries no VLANs. -/
def Vlan.ownEnd (vlan : Vlan) : OwnEnd where
  rank := "22"
  name := vlan.name
  addresses := vlan.addresses
  routes := vlan.routes
  policy := vlan.requiredForOnline
  stacked := []

/-- Two configurations give a host the same name and time servers. -/
structure NetworkConfig.SameServers (config other : NetworkConfig) : Prop where
  dns : other.dns = config.dns
  ntp : other.ntp = config.ntp

namespace NetworkConfig.SameServers

variable {config other : NetworkConfig} (same : config.SameServers other)

include same

theorem lines (stacked : List Vlan) :
    networkSectionLines other stacked = networkSectionLines config stacked := by
  simp only [networkSectionLines, same.dns, same.ntp]

/-- The unit of an end depends on the servers and on its own device. -/
theorem unit (own : OwnEnd) : own.unit other = own.unit config := by
  simp only [OwnEnd.unit, endNetwork, same.lines]

/-- The unit of a VLAN depends on the servers and on the VLAN alone. -/
theorem vlanNetwork : HostNet.vlanNetwork other = HostNet.vlanNetwork config :=
  funext fun vlan => same.unit vlan.ownEnd

end NetworkConfig.SameServers

/-! ### Parents -/

/-- **A device that VLANs can be stacked on**, apart from a configuration. -/
structure ParentDevice where
  /-- The rank of the units that configure it. -/
  rank : String
  name : String
  addresses : List String
  routes : List Route
  policy : Option OnlinePolicy
  native : Option UInt16
  tags : List UInt16
  /-- The card or the bond device. -/
  other : String
  /-- The unit that configures the card or the bond device, with the lines about VLANs. -/
  port : List UnitLine → UnitFile
  /-- The units of the members of a bond. -/
  members : List UnitFile
  port_named : ∀ vlans, (port vlans).name = unitName rank other ".network"
  port_ends : ∃ front, ∀ vlans, (port vlans).lines = front ++ vlans

def Interface.parent (interface : Interface) : ParentDevice where
  rank := "20"
  name := interface.name
  addresses := interface.addresses
  routes := interface.routes
  policy := interface.requiredForOnline
  native := interface.vlan
  tags := interface.vlanTags
  other := interface.physicalName
  port := cardNetwork interface
  members := []
  port_named _ := rfl
  port_ends := ⟨_, fun _ => rfl⟩

def Bond.parent (bond : Bond) : ParentDevice where
  rank := "21"
  name := bond.name
  addresses := bond.addresses
  routes := bond.routes
  policy := bond.requiredForOnline
  native := bond.vlan
  tags := bond.vlanTags
  other := "bn" ++ bond.name
  port := bondNetwork bond
  members := bond.members.mapIdx (memberNetwork bond)
  port_named _ := unitName_tagged "21" "bn" bond.name ".network"
  port_ends := ⟨_, fun _ => rfl⟩

/-- The interfaces and the bonds. -/
def NetworkConfig.parentDevices (config : NetworkConfig) : List ParentDevice :=
  config.interfaces.map (·.parent) ++ config.bonds.map (·.parent)

theorem NetworkConfig.parentDevices_names (config : NetworkConfig) :
    config.parentDevices.map (·.name) = config.parents := by
  simp only [parentDevices, parents, List.map_append, List.map_map]
  rfl

namespace ParentDevice

variable (config : NetworkConfig) (device : ParentDevice)

/-- The own end. -/
def ownEnd : OwnEnd where
  rank := device.rank
  name := device.name
  addresses := device.addresses
  routes := device.routes
  policy := device.policy
  stacked := config.vlansOn device.name

/-- The lines about the VLANs of the ports. -/
def vlanLines : List UnitLine := portVlanLines config device.name device.native device.tags

/-- The unit of the own end. -/
def ownUnit : UnitFile := (device.ownEnd config).unit config

/-- The unit of the port that is the other end of the device. -/
def peerUnit : UnitFile := peerNetwork device.rank device.name (device.vlanLines config)

/-- The unit of the port that is the card or the bond device. -/
def portUnit : UnitFile := device.port (device.vlanLines config)

/-- The units that do not depend on VLANs: those of the bridge, and of the members of a bond. -/
def others : List UnitFile := bridgeNetwork device.rank device.name :: device.members

/-- The units that configure a parent. -/
def units : List UnitFile :=
  [device.ownUnit config, device.peerUnit config, device.portUnit config] ++ device.others

theorem peerUnit_name :
    (device.peerUnit config).name = unitName device.rank ("vt" ++ device.name) ".network" :=
  unitName_tagged device.rank "vt" device.name ".network"

end ParentDevice

/-- **The units that configure devices**, parent by parent, and then those of the VLANs. -/
theorem networkUnits_eq (config : NetworkConfig) :
    networkUnits config = config.parentDevices.flatMap (·.units config) ++
      config.vlans.map (vlanNetwork config) := by
  simp only [networkUnits, NetworkConfig.parentDevices, List.flatMap_append, List.flatMap_map]
  rfl

namespace NetworkConfig

/-- The own ends of the devices: of interfaces, then of bonds, then of VLANs. -/
def ownEnds (config : NetworkConfig) : List OwnEnd :=
  config.parentDevices.map (·.ownEnd config) ++ config.vlans.map (·.ownEnd)

theorem ownEnds_names (config : NetworkConfig) :
    config.ownEnds.map (·.name) = config.deviceNames := by
  simp only [ownEnds, parentDevices, deviceNames, List.map_append, List.map_map]
  rfl

/-- **The unit of each own end is one of the configuration.** -/
theorem ownEnds_written {config : NetworkConfig} {own : OwnEnd} (inside : own ∈ config.ownEnds) :
    own.unit config ∈ config.units := by
  refine List.mem_append_right _ ?_
  rw [networkUnits_eq, List.mem_append]
  rw [ownEnds, List.mem_append] at inside
  obtain parent | stacked := inside
  · obtain ⟨device, declared, rfl⟩ := List.mem_map.mp parent
    exact .inl (List.mem_flatMap_of_mem declared List.mem_cons_self)
  · obtain ⟨vlan, declared, rfl⟩ := List.mem_map.mp stacked
    exact .inr (List.mem_map_of_mem declared)

end NetworkConfig

/-! ### Two configurations -/

namespace ParentDevice

variable {config other : NetworkConfig} (device : ParentDevice)

/-- The ids that the ports carry. -/
def Carries (config : NetworkConfig) (id : UInt16) : Prop :=
  CarriesVlan device.native device.tags ((config.vlansOn device.name).map (·.id)) id

/-- The lines about the VLANs of the ports depend on the set of their ids. -/
theorem vlanLines_congr (same : ∀ id, device.Carries other id ↔ device.Carries config id) :
    device.vlanLines other = device.vlanLines config := by
  simp only [vlanLines, portVlanLines, bridgeVlanLines, carriedVlans_eq_iff.mpr same]

/-- The text of the units of the ports ends in that of the lines about the VLANs. -/
theorem ports_end : ∃ peerFront portFront, ∀ config : NetworkConfig,
    (device.peerUnit config).contents = peerFront ++ UnitLine.render (device.vlanLines config) ∧
      (device.portUnit config).contents = portFront ++ UnitLine.render (device.vlanLines config) := by
  obtain ⟨front, ends⟩ := device.port_ends
  refine ⟨_, UnitLine.render front, fun config => ⟨UnitLine.render_append _ _, ?_⟩⟩
  rw [portUnit, UnitFile.contents, ends, UnitLine.render_append]

/-- **The units of the ports depend on the set of their ids.** -/
theorem ports_congr (same : ∀ id, device.Carries other id ↔ device.Carries config id) :
    device.peerUnit other = device.peerUnit config ∧
      device.portUnit other = device.portUnit config := by
  have lines := device.vlanLines_congr same
  exact ⟨by rw [peerUnit, peerUnit, lines], by rw [portUnit, portUnit, lines]⟩

/-- The text about the VLANs of the ports tells the set of their ids. -/
theorem vlanText_eq_iff :
    UnitLine.render (device.vlanLines other) = UnitLine.render (device.vlanLines config) ↔
      ∀ id, device.Carries other id ↔ device.Carries config id :=
  bridgeVlanText_eq_iff.trans (and_iff_right rfl)

/-- **The text of the unit of the own end**, cut where the VLANs are attached. -/
theorem ownUnit_contents (same : config.SameServers other) : ∃ front back,
    (device.ownUnit config).contents =
      front ++ "\n[Network]\n" ++ vlanEntries (config.vlansOn device.name) ++ back ∧
    (device.ownUnit other).contents =
      front ++ "\n[Network]\n" ++ vlanEntries (other.vlansOn device.name) ++ back := by
  have text := (device.ownEnd config).contents_eq config
  have otherText := (device.ownEnd other).contents_eq other
  have tails : (device.ownEnd other).tail other = (device.ownEnd config).tail config := by
    simp only [OwnEnd.tail, hostText, same.lines]
    rfl
  rw [tails] at otherText
  exact ⟨(device.ownEnd config).opening ++ (device.ownEnd config).onlineText ++ dhcpText, _, text,
    otherText⟩

/-- **The units of a parent depend on the VLANs that are stacked on it**, and on no others. -/
theorem units_congr (same : config.SameServers other)
    (stacked : other.vlansOn device.name = config.vlansOn device.name) :
    device.units other = device.units config := by
  have carried : ∀ id, device.Carries other id ↔ device.Carries config id := fun id => by
    rw [Carries, Carries, stacked]
  have own : device.ownUnit other = device.ownUnit config := by
    rw [ownUnit, ownUnit, same.unit, ownEnd, ownEnd, stacked]
  have ports := device.ports_congr carried
  rw [units, units, own, ports.1, ports.2]

end ParentDevice

end HostNet
