/-
**The declared network.**

A configuration lists physical interfaces, bonds of them and VLANs on top of either, with the
settings of the host for names, time and proxies. The three kinds of device share one space of
names.

* `NetworkConfig.addressedDevices`: the devices with an address entry, in order of declaration;
* `NetworkConfig.vlansOn`: the VLANs stacked on a device;
* `Bond.effectiveHwaddr?`: the hardware address a bond presents;
* `NetworkConfig.mem_vlansOn`: a VLAN is stacked on its parent and on nothing else.
-/

import HostNet.Address.Basic
import HostNet.Hwaddr

namespace HostNet

/-- A static route. -/
structure Route where
  /-- The destination, an address with its prefix length. -/
  destination : String
  /-- The gateway as written. -/
  via : String
  deriving Repr, DecidableEq, Inhabited

/-- The gateway of a route. -/
def Route.gateway (route : Route) : Gateway := .ofText route.via

/-- Which address families a device needs before the host counts as online. -/
inductive OnlinePolicy where
  | no
  | any
  | ipv4
  | ipv6
  | both
  deriving Repr, DecidableEq, Inhabited

/-- The word for a policy. -/
def OnlinePolicy.text : OnlinePolicy → String
  | .no => "no"
  | .any => "any"
  | .ipv4 => "ipv4"
  | .ipv6 => "ipv6"
  | .both => "both"

/-- All policies, in the order in which messages list them. -/
def OnlinePolicy.all : List OnlinePolicy := [.no, .any, .ipv4, .ipv6, .both]

/-- How a bond spreads its traffic over its members. -/
inductive BondMode where
  | balanceRoundRobin
  | activeBackup
  | balanceXor
  | broadcast
  | linkAggregation
  | balanceTransmit
  | balanceAdaptive
  deriving Repr, DecidableEq, Inhabited

/-- The word for a mode. -/
def BondMode.text : BondMode → String
  | .balanceRoundRobin => "balance-rr"
  | .activeBackup => "active-backup"
  | .balanceXor => "balance-xor"
  | .broadcast => "broadcast"
  | .linkAggregation => "802.3ad"
  | .balanceTransmit => "balance-tlb"
  | .balanceAdaptive => "balance-alb"

/-- All modes, in the order in which messages list them. -/
def BondMode.all : List BondMode :=
  [.balanceRoundRobin, .activeBackup, .balanceXor, .broadcast, .linkAggregation, .balanceTransmit,
    .balanceAdaptive]

/-- A physical interface. -/
structure Interface where
  name : String
  /-- The permanent hardware address of the card. -/
  hwaddr : String
  mtu : Option UInt32 := none
  addresses : List String := []
  routes : List Route := []
  /-- The native VLAN of the bridge port. -/
  vlan : Option UInt16 := none
  /-- Further VLANs that the bridge port carries tagged. -/
  vlanTags : List UInt16 := []
  lldp : Bool := false
  requiredForOnline : Option OnlinePolicy := none
  deriving Repr, DecidableEq, Inhabited

/-- The device name of an interface's card. -/
def Interface.physicalName (interface : Interface) : String :=
  Hwaddr.deviceName interface.hwaddr

/-- A bond of physical interfaces, named by their hardware addresses. -/
structure Bond where
  name : String
  /-- The hardware address of the bond, if it does not take over its first member's. -/
  hwaddr : Option String := none
  members : List String
  mode : BondMode
  mtu : Option UInt32 := none
  addresses : List String := []
  routes : List Route := []
  vlan : Option UInt16 := none
  vlanTags : List UInt16 := []
  lldp : Bool := false
  requiredForOnline : Option OnlinePolicy := none
  deriving Repr, DecidableEq, Inhabited

/-- The hardware address that was set for a bond. An empty one counts as not set. -/
def Bond.explicitHwaddr? (bond : Bond) : Option String :=
  bond.hwaddr.filter (· ≠ "")

/-- The hardware address a bond presents: the one set for it, or its first member's. -/
def Bond.effectiveHwaddr? (bond : Bond) : Option String :=
  bond.explicitHwaddr? <|> bond.members.head?

/-- A VLAN on top of an interface or a bond. -/
structure Vlan where
  name : String
  id : UInt16
  /-- The name of the device that carries the VLAN. -/
  parent : String
  mtu : Option UInt32 := none
  addresses : List String := []
  routes : List Route := []
  requiredForOnline : Option OnlinePolicy := none
  deriving Repr, DecidableEq, Inhabited

/-- Name resolution and the name of the host. -/
structure Dns where
  hostname : Option String := none
  domain : Option String := none
  searchDomains : List String := []
  nameservers : List String := []
  deriving Repr, DecidableEq, Inhabited

/-- The full name of the host, if it has a name; empty parts count as absent. -/
def Dns.fullName? (dns : Dns) : Option String :=
  (dns.hostname.filter (· ≠ "")).map fun hostname =>
    match dns.domain.filter (· ≠ "") with
    | some domain => hostname ++ "." ++ domain
    | none => hostname

/-- Time synchronization. -/
structure Ntp where
  timeservers : List String := []
  deriving Repr, DecidableEq, Inhabited

/-- The web proxies of the host. -/
structure Proxy where
  http : Option String := none
  https : Option String := none
  exempt : Option String := none
  deriving Repr, DecidableEq, Inhabited

/-- The declared network of a host. -/
structure NetworkConfig where
  interfaces : List Interface := []
  bonds : List Bond := []
  vlans : List Vlan := []
  dns : Option Dns := none
  ntp : Option Ntp := none
  proxy : Option Proxy := none
  deriving Repr, DecidableEq, Inhabited

namespace NetworkConfig

/-- The names of the devices with an address entry: interfaces, then bonds, then VLANs. -/
def addressedDevices (config : NetworkConfig) : List String :=
  (config.interfaces.filter (!·.addresses.isEmpty)).map (·.name) ++
    (config.bonds.filter (!·.addresses.isEmpty)).map (·.name) ++
    (config.vlans.filter (!·.addresses.isEmpty)).map (·.name)

/-- The full name of the host, if one is declared. -/
def hostname? (config : NetworkConfig) : Option String :=
  config.dns.bind Dns.fullName?

/-- The VLANs stacked on a device, in order of declaration. -/
def vlansOn (config : NetworkConfig) (device : String) : List Vlan :=
  config.vlans.filter (·.parent = device)

/-- A VLAN is stacked on its parent and on nothing else. -/
@[simp] theorem mem_vlansOn {config : NetworkConfig} {device : String} {vlan : Vlan} :
    vlan ∈ config.vlansOn device ↔ vlan ∈ config.vlans ∧ vlan.parent = device := by
  simp [vlansOn]

end NetworkConfig

end HostNet
