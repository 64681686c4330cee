/-
**Units that configure devices.**

The end that carries a device's own name gets the addresses and routes; the other end and the card
(or the bond) are ports of the device's bridge and carry the same VLANs. Bond members are attached
to their bond.

* `requiredForOnlineLines`: a device without address entries is never waited for;
* `addressingLines`: the literal addresses in order, then what the words ask for;
* `networkUnits`: the units of all interfaces, then of all bonds, then of all VLANs.
-/

import HostNet.Config.Basic
import HostNet.Unit.BridgeVlan

namespace HostNet

open HostNet.Text

/-! ### Parts of the unit of a device's own end -/

/-- Whether the host waits for a device, and for which address family. -/
def requiredForOnlineLines (addresses : List String) (policy : Option OnlinePolicy) :
    List UnitLine :=
  if addresses.isEmpty || policy = some .no then [.setting "RequiredForOnline" "no"]
  else
    [.setting "RequiredForOnline" "yes",
      .setting "RequiredFamilyForOnline" (policy.getD .any).text]

/-- The stacked VLANs of a device and the name and time servers of the host. -/
def networkSectionLines (config : NetworkConfig) (stacked : List Vlan) : List UnitLine :=
  stacked.map (fun vlan => .setting "VLAN" vlan.name) ++
    (match config.dns with
    | none => []
    | some dns =>
      (if dns.searchDomains.isEmpty then []
        else [.setting "Domains" (joinWith " " dns.searchDomains)]) ++
        dns.nameservers.map (fun server => .setting "DNS" server)) ++
    (match config.ntp with
    | none => []
    | some ntp => ntp.timeservers.map fun server => .setting "NTP" server)

/-- The setting that turns DHCP on for the families that ask for it. -/
def dhcpLines (four six : Bool) : List UnitLine :=
  match four, six with
  | true, true => [.setting "DHCP" "yes"]
  | true, false => [.setting "DHCP" "ipv4"]
  | false, true => [.setting "DHCP" "ipv6"]
  | false, false => []

/-- The literal addresses of a list of entries, in order. -/
def literalAddresses (addresses : List String) : List String :=
  addresses.filterMap fun entry => (AddressToken.ofText entry).literal?

/-- How a device gets its addresses. -/
def addressingLines (addresses : List String) : List UnitLine :=
  let tokens := addresses.map AddressToken.ofText
  (if addresses.isEmpty then
      [.setting "LinkLocalAddressing" "no", .setting "ConfigureWithoutCarrier" "yes"]
    else [.setting "LinkLocalAddressing" "ipv6"]) ++
    (literalAddresses addresses).map (fun literal => .setting "Address" literal) ++
    [.setting "IPv6AcceptRA" (UnitLine.flag (tokens.contains .slaac))] ++
    dhcpLines (tokens.contains .dhcp4) (tokens.contains .dhcp6)

/-- The word for a gateway in a unit. -/
def gatewayText : Gateway → String
  | .dhcp4 => "_dhcp4"
  | .slaac => "_ipv6ra"
  | .literal address => address

/-- The block of one route. -/
def routeBlock (route : Route) : List UnitLine :=
  [.blank, .header "Route", .setting "Gateway" (gatewayText route.gateway),
    .setting "Destination" route.destination]

/-- The blocks of all routes. -/
def routeLines (routes : List Route) : List UnitLine :=
  routes.flatMap routeBlock

/-! ### The units of one device -/

/-- The unit of the end that carries a device's own name. -/
def endNetwork (config : NetworkConfig) (rank device : String) (addresses : List String)
    (routes : List Route) (policy : Option OnlinePolicy) (stacked : List Vlan) : UnitFile where
  name := rank ++ "-" ++ device ++ ".network"
  lines :=
    [.header "Match", .setting "Name" device, .blank, .header "Link"] ++
      requiredForOnlineLines addresses policy ++
      [.blank, .header "DHCP", .setting "ClientIdentifier" "mac", .setting "RouteMetric" "100",
        .setting "UseMTU" "true", .blank, .header "Network"] ++
      networkSectionLines config stacked ++ addressingLines addresses ++ routeLines routes

/-- The unit of the end that joins the bridge. -/
def peerNetwork (rank device : String) (vlans : List UnitLine) : UnitFile where
  name := rank ++ "-vt" ++ device ++ ".network"
  lines :=
    [.header "Match", .setting "Name" ("vt" ++ device), .blank, .header "Network",
      .setting "Bridge" ("br" ++ device)] ++ vlans

/-- The unit of the bridge itself, which has no addresses. -/
def bridgeNetwork (rank device : String) : UnitFile where
  name := rank ++ "-br" ++ device ++ ".network"
  lines :=
    [.header "Match", .setting "Name" ("br" ++ device), .blank, .header "Network",
      .setting "LinkLocalAddressing" "no", .setting "ConfigureWithoutCarrier" "yes"]

/-- The unit of the card of an interface, a port of its bridge. -/
def cardNetwork (interface : Interface) (vlans : List UnitLine) : UnitFile where
  name := "20-" ++ interface.physicalName ++ ".network"
  lines :=
    [.header "Match", .setting "Name" interface.physicalName, .blank, .header "Network",
      .setting "LLDP" (UnitLine.flag interface.lldp),
      .setting "EmitLLDP" (UnitLine.flag interface.lldp),
      .setting "Bridge" ("br" ++ interface.name)] ++ vlans

/-- The unit of a bond, a port of its bridge. -/
def bondNetwork (bond : Bond) (vlans : List UnitLine) : UnitFile where
  name := "21-bn" ++ bond.name ++ ".network"
  lines :=
    [.header "Match", .setting "Name" ("bn" ++ bond.name), .blank, .header "Network",
      .setting "LinkLocalAddressing" "no", .setting "ConfigureWithoutCarrier" "yes",
      .setting "Bridge" ("br" ++ bond.name)] ++ vlans

/-- The unit of the card of a bond member, numbered by its place in the bond. -/
def memberNetwork (bond : Bond) (index : Nat) (member : String) : UnitFile where
  name := "21-bn" ++ bond.name ++ "-dev" ++ toString index ++ ".network"
  lines :=
    [.header "Match", .setting "Name" (Hwaddr.deviceName member), .blank, .header "Network",
      .setting "LLDP" (UnitLine.flag bond.lldp), .setting "EmitLLDP" (UnitLine.flag bond.lldp),
      .setting "Bond" ("bn" ++ bond.name)]

/-- The VLAN blocks of the ports of a device. -/
def portVlanLines (config : NetworkConfig) (device : String) (native : Option UInt16)
    (tags : List UInt16) : List UnitLine :=
  bridgeVlanLines native tags ((config.vlansOn device).map (·.id))

/-- The units of an interface. -/
def interfaceNetworks (config : NetworkConfig) (interface : Interface) : List UnitFile :=
  let vlans := portVlanLines config interface.name interface.vlan interface.vlanTags
  [endNetwork config "20" interface.name interface.addresses interface.routes
      interface.requiredForOnline (config.vlansOn interface.name),
    peerNetwork "20" interface.name vlans, cardNetwork interface vlans,
    bridgeNetwork "20" interface.name]

/-- The units of a bond. -/
def bondNetworks (config : NetworkConfig) (bond : Bond) : List UnitFile :=
  let vlans := portVlanLines config bond.name bond.vlan bond.vlanTags
  [endNetwork config "21" bond.name bond.addresses bond.routes bond.requiredForOnline
      (config.vlansOn bond.name),
    peerNetwork "21" bond.name vlans, bondNetwork bond vlans, bridgeNetwork "21" bond.name] ++
    bond.members.mapIdx (memberNetwork bond)

/-- The unit of a VLAN. -/
def vlanNetwork (config : NetworkConfig) (vlan : Vlan) : UnitFile :=
  endNetwork config "22" vlan.name vlan.addresses vlan.routes vlan.requiredForOnline []

/-- The units of all interfaces, then of all bonds, then of all VLANs. -/
def networkUnits (config : NetworkConfig) : List UnitFile :=
  config.interfaces.flatMap (interfaceNetworks config) ++
    config.bonds.flatMap (bondNetworks config) ++ config.vlans.map (vlanNetwork config)

end HostNet
