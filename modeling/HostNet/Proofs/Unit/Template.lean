/-
**What the units of a configuration should say.**

A template is what a unit should say: its sections, each with its settings. The unit about the
addresses of a device has one setting for each VLAN on the device, each server and each address that
is no word, and one section for each route. Every unit is written from the template for its device.

* `UnitTemplate`: the name and the sections of a unit;
* `NetworkConfig.templates`: what the units of a configuration should say;
* `units_keep`: the units are written from the templates.
-/

import HostNet.Proofs.Unit.Reading
import HostNet.Unit.Basic
import Mathlib.Data.List.Forall2

namespace HostNet

open HostNet.Text

/-! ### Sections -/

/-- Settings of a section, each with its key and its value. -/
abbrev UnitSettings := List (String × String)

/-- Whether the host waits for a device. -/
def onlineSettings (addresses : List String) (policy : Option OnlinePolicy) : UnitSettings :=
  if addresses = [] ∨ policy = some .no then [("RequiredForOnline", "no")]
  else [("RequiredForOnline", "yes"), ("RequiredFamilyForOnline", (policy.getD .any).text)]

/-- The stacked VLANs of a device, the search domains and the servers: one line for each VLAN and
each server. -/
def networkSettings (config : NetworkConfig) (stacked : List Vlan) : UnitSettings :=
  stacked.map (fun vlan => ("VLAN", vlan.name)) ++
    (config.dns.toList.flatMap fun dns =>
      (if dns.searchDomains = [] then [] else [("Domains", joinWith " " dns.searchDomains)]) ++
        dns.nameservers.map fun server => ("DNS", server)) ++
    config.ntp.toList.flatMap fun ntp => ntp.timeservers.map fun server => ("NTP", server)

/-- The address entries that are words. -/
def addressWords : List String := ["dhcp4", "dhcp6", "slaac"]

/-- How a device gets its addresses: one line for each entry that is not a word. -/
def addressSettings (addresses : List String) : UnitSettings :=
  (if addresses = [] then [("LinkLocalAddressing", "no"), ("ConfigureWithoutCarrier", "yes")]
    else [("LinkLocalAddressing", "ipv6")]) ++
    (addresses.filter (· ∉ addressWords)).map (fun entry => ("Address", entry)) ++
    [("IPv6AcceptRA", if "slaac" ∈ addresses then "true" else "false")] ++
    (if "dhcp4" ∈ addresses ∧ "dhcp6" ∈ addresses then [("DHCP", "yes")]
      else if "dhcp4" ∈ addresses then [("DHCP", "ipv4")]
      else if "dhcp6" ∈ addresses then [("DHCP", "ipv6")]
      else [])

/-- The section of a route. -/
def routeSection (route : Route) : UnitSection where
  title := "Route"
  settings :=
    [("Gateway", if route.via = "dhcp4" then "_dhcp4"
        else if route.via = "slaac" then "_ipv6ra" else route.via),
      ("Destination", route.destination)]

/-- The sections of the VLANs that a bridge port carries. -/
def portSections (config : NetworkConfig) (device : String) (native : Option UInt16)
    (tags : List UInt16) : List UnitSection :=
  ((nativeVlan? native).toList.map fun id =>
    ⟨"BridgeVLAN", [("PVID", toString id.toNat), ("EgressUntagged", toString id.toNat)]⟩) ++
    (carriedVlans native tags ((config.vlansOn device).map (·.id))).map fun id =>
      ⟨"BridgeVLAN", [("VLAN", toString id.toNat)]⟩

/-- The section that creates a device. -/
def newDevice (name kind : String) (more : UnitSettings) (mtu : Option UInt32) : UnitSection where
  title := "NetDev"
  settings := [("Name", name), ("Kind", kind)] ++ more ++
    (mtu.filter (· ≠ 0)).toList.map fun mtu => ("MTUBytes", toString mtu.toNat)

/-- The section that tells which device a unit is about. -/
def matching (name : String) : UnitSection := ⟨"Match", [("Name", name)]⟩

/-! ### Templates -/

/-- What a unit should say. -/
structure UnitTemplate where
  name : String
  sections : List UnitSection
  deriving Repr, DecidableEq, Inhabited

namespace UnitTemplate

def link (rank hwaddr : String) (random : UnitSettings) : UnitTemplate where
  name := rank ++ "-" ++ Hwaddr.deviceName hwaddr ++ ".link"
  sections := [⟨"Match", [("PermanentMACAddress", hwaddr)]⟩,
    ⟨"Link", random ++ [("NamePolicy", ""), ("Name", Hwaddr.deviceName hwaddr)]⟩]

def bridge (rank device : String) (mtu : Option UInt32) : UnitTemplate where
  name := rank ++ "-br" ++ device ++ ".netdev"
  sections := [newDevice ("br" ++ device) "bridge" [] mtu, ⟨"Bridge", [("VLANFiltering", "true")]⟩]

def pair (rank device hwaddr : String) (mtu : Option UInt32) : UnitTemplate where
  name := rank ++ "-" ++ device ++ ".netdev"
  sections := [newDevice device "veth" [("MACAddress", hwaddr)] mtu,
    ⟨"Peer", [("Name", "vt" ++ device)]⟩]

def bond (bond : Bond) : UnitTemplate where
  name := "11-bn" ++ bond.name ++ ".netdev"
  sections := [newDevice ("bn" ++ bond.name) "bond" [] bond.mtu, ⟨"Bond", [("Mode", bond.mode.text)]⟩]

def vlan (vlan : Vlan) : UnitTemplate where
  name := "12-" ++ vlan.name ++ ".netdev"
  sections := [newDevice vlan.name "vlan" [] vlan.mtu, ⟨"VLAN", [("Id", toString vlan.id.toNat)]⟩]

/-- The end that carries the name of a device. -/
def ownEnd (config : NetworkConfig) (rank device : String) (addresses : List String)
    (routes : List Route) (policy : Option OnlinePolicy) (stacked : List Vlan) : UnitTemplate where
  name := rank ++ "-" ++ device ++ ".network"
  sections := [matching device, ⟨"Link", onlineSettings addresses policy⟩,
    ⟨"DHCP", [("ClientIdentifier", "mac"), ("RouteMetric", "100"), ("UseMTU", "true")]⟩,
    ⟨"Network", networkSettings config stacked ++ addressSettings addresses⟩] ++
      routes.map routeSection

/-- The end that joins the bridge of a device. -/
def peerEnd (rank device : String) (ports : List UnitSection) : UnitTemplate where
  name := rank ++ "-vt" ++ device ++ ".network"
  sections := [matching ("vt" ++ device), ⟨"Network", [("Bridge", "br" ++ device)]⟩] ++ ports

/-- The bridge of a device, which has no addresses. -/
def bridgeItself (rank device : String) : UnitTemplate where
  name := rank ++ "-br" ++ device ++ ".network"
  sections := [matching ("br" ++ device),
    ⟨"Network", [("LinkLocalAddressing", "no"), ("ConfigureWithoutCarrier", "yes")]⟩]

/-- The card of an interface. -/
def card (interface : Interface) (ports : List UnitSection) : UnitTemplate where
  name := "20-" ++ interface.physicalName ++ ".network"
  sections := [matching interface.physicalName,
    ⟨"Network", [("LLDP", UnitLine.flag interface.lldp), ("EmitLLDP", UnitLine.flag interface.lldp),
      ("Bridge", "br" ++ interface.name)]⟩] ++ ports

/-- A bond as a port of its bridge. -/
def bondPort (bond : Bond) (ports : List UnitSection) : UnitTemplate where
  name := "21-bn" ++ bond.name ++ ".network"
  sections := [matching ("bn" ++ bond.name),
    ⟨"Network", [("LinkLocalAddressing", "no"), ("ConfigureWithoutCarrier", "yes"),
      ("Bridge", "br" ++ bond.name)]⟩] ++ ports

/-- The card of a member of a bond. -/
def member (bond : Bond) (index : Nat) (hwaddr : String) : UnitTemplate where
  name := "21-bn" ++ bond.name ++ "-dev" ++ toString index ++ ".network"
  sections := [matching (Hwaddr.deviceName hwaddr),
    ⟨"Network", [("LLDP", UnitLine.flag bond.lldp), ("EmitLLDP", UnitLine.flag bond.lldp),
      ("Bond", "bn" ++ bond.name)]⟩]

/-- The configuration of the devices of an interface. -/
def ofInterface (config : NetworkConfig) (interface : Interface) : List UnitTemplate :=
  let ports := portSections config interface.name interface.vlan interface.vlanTags
  [ownEnd config "20" interface.name interface.addresses interface.routes
      interface.requiredForOnline (config.vlansOn interface.name),
    peerEnd "20" interface.name ports, card interface ports, bridgeItself "20" interface.name]

/-- The configuration of the devices of a bond. -/
def ofBond (config : NetworkConfig) (bond : Bond) : List UnitTemplate :=
  let ports := portSections config bond.name bond.vlan bond.vlanTags
  [ownEnd config "21" bond.name bond.addresses bond.routes bond.requiredForOnline
      (config.vlansOn bond.name),
    peerEnd "21" bond.name ports, bondPort bond ports, bridgeItself "21" bond.name] ++
    bond.members.mapIdx (member bond)

end UnitTemplate

namespace NetworkConfig

open UnitTemplate in
/-- **What the units of a configuration should say**, in the order in which they are written. -/
def templates (config : NetworkConfig) : List UnitTemplate :=
  config.interfaces.map (fun interface =>
      link "00" interface.hwaddr [("MACAddressPolicy", "random")]) ++
    (config.bonds.flatMap (·.members)).map (fun member => link "01" member []) ++
    config.interfaces.flatMap (fun interface =>
      [bridge "10" interface.name interface.mtu,
        pair "10" interface.name interface.hwaddr interface.mtu]) ++
    config.bonds.flatMap (fun bond =>
      [.bond bond, bridge "11" bond.name bond.mtu,
        pair "11" bond.name (bond.effectiveHwaddr?.getD "") bond.mtu]) ++
    config.vlans.map .vlan ++
    config.interfaces.flatMap (ofInterface config) ++
    config.bonds.flatMap (ofBond config) ++
    config.vlans.map fun vlan =>
      ownEnd config "22" vlan.name vlan.addresses vlan.routes vlan.requiredForOnline []

end NetworkConfig

/-! ### Units from templates -/

/-- A unit is written from a template: its lines are those of the sections. -/
structure Keeps (template : UnitTemplate) (file : UnitFile) : Prop where
  named : file.name = template.name
  gathered : UnitSection.ofLines? file.lines = some template.sections

open UnitLine UnitSection

theorem gather_settings_append (settings : UnitSettings) (lines : List UnitLine) :
    gather (settings.map settingLine ++ lines) = (settings ++ (gather lines).1, (gather lines).2) := by
  induction settings with
  | nil => rfl
  | cons setting settings ih => simp [settingLine, gather, ih]

theorem requiredForOnlineLines_eq (addresses : List String) (policy : Option OnlinePolicy) :
    requiredForOnlineLines addresses policy = (onlineSettings addresses policy).map settingLine := by
  by_cases left : addresses = [] ∨ policy = some .no
  · simp [requiredForOnlineLines, onlineSettings, left, settingLine]
  · simp [requiredForOnlineLines, onlineSettings, left, settingLine]

theorem networkSectionLines_eq (config : NetworkConfig) (stacked : List Vlan) :
    networkSectionLines config stacked = (networkSettings config stacked).map settingLine := by
  cases dns : config.dns <;> cases ntp : config.ntp <;>
    simp [networkSectionLines, networkSettings, dns, ntp, settingLine, Function.comp_def,
      apply_ite (List.map settingLine)]

theorem literal?_ofText (entry : String) :
    (AddressToken.ofText entry).literal? = if entry ∈ addressWords then none else some entry := by
  by_cases four : entry = "dhcp4"
  · simp [AddressToken.ofText, four, AddressToken.literal?, addressWords]
  · by_cases six : entry = "dhcp6"
    · simp [AddressToken.ofText, six, AddressToken.literal?, addressWords]
    · by_cases auto : entry = "slaac"
      · simp [AddressToken.ofText, auto, AddressToken.literal?, addressWords]
      · simp [AddressToken.ofText, four, six, auto, AddressToken.literal?, addressWords]

theorem literalAddresses_eq (addresses : List String) :
    literalAddresses addresses = addresses.filter (· ∉ addressWords) := by
  simp only [literalAddresses, literal?_ofText, ← List.filterMap_eq_filter]
  refine List.filterMap_congr fun entry _ => ?_
  by_cases word : entry ∈ addressWords <;> simp [word, Option.guard]

/-- A word is among the tokens exactly if it is among the entries. -/
theorem contains_token (addresses : List String) (token : AddressToken)
    (word : ∀ literal, token ≠ .static literal) :
    (addresses.map AddressToken.ofText).contains token = addresses.contains token.text := by
  have same : ∀ entry, AddressToken.ofText entry = token ↔ entry = token.text := by
    intro entry
    constructor
    · rintro rfl
      exact (AddressToken.text_ofText entry).symm
    · rintro rfl
      cases token with
      | static literal => exact absurd rfl (word literal)
      | dhcp4 | dhcp6 | slaac => rfl
  rw [Bool.eq_iff_iff]
  simp [same]

theorem addressingLines_eq (addresses : List String) :
    addressingLines addresses = (addressSettings addresses).map settingLine := by
  have auto := contains_token addresses .slaac nofun
  have four := contains_token addresses .dhcp4 nofun
  have six := contains_token addresses .dhcp6 nofun
  simp only [AddressToken.text] at auto four six
  have automatic : dhcpLines (addresses.contains "dhcp4") (addresses.contains "dhcp6") =
      (if "dhcp4" ∈ addresses ∧ "dhcp6" ∈ addresses then [("DHCP", "yes")]
        else if "dhcp4" ∈ addresses then [("DHCP", "ipv4")]
        else if "dhcp6" ∈ addresses then [("DHCP", "ipv6")]
        else []).map settingLine := by
    by_cases asksFour : "dhcp4" ∈ addresses <;> by_cases asksSix : "dhcp6" ∈ addresses <;>
      simp [asksFour, asksSix, dhcpLines, settingLine]
  have linkLocal : (if addresses.isEmpty then
        [setting "LinkLocalAddressing" "no", .setting "ConfigureWithoutCarrier" "yes"]
      else [setting "LinkLocalAddressing" "ipv6"]) =
      (if addresses = [] then [("LinkLocalAddressing", "no"), ("ConfigureWithoutCarrier", "yes")]
        else [("LinkLocalAddressing", "ipv6")]).map settingLine := by
    cases addresses <;> rfl
  have advertised : UnitLine.flag (addresses.contains "slaac") =
      if "slaac" ∈ addresses then "true" else "false" := by
    by_cases asks : "slaac" ∈ addresses <;> simp [UnitLine.flag, asks]
  simp only [addressingLines, addressSettings, literalAddresses_eq, auto, four, six, automatic, linkLocal,
    advertised, List.map_append, List.map_map, List.map_cons, List.map_nil]
  rfl

theorem gather_routeLines (routes : List Route) :
    gather (routeLines routes) = ([], routes.map routeSection) := by
  induction routes with
  | nil => rfl
  | cons route routes ih =>
    have first : gatewayText route.gateway = if route.via = "dhcp4" then "_dhcp4"
        else if route.via = "slaac" then "_ipv6ra" else route.via := by
      unfold Route.gateway Gateway.ofText
      split
      · rfl
      · split <;> rfl
    simp only [routeLines] at ih
    simp [routeLines, routeBlock, gather, ih, first, routeSection]

theorem gather_portVlanLines (config : NetworkConfig) (device : String) (native : Option UInt16)
    (tags : List UInt16) :
    gather (portVlanLines config device native tags) = ([], portSections config device native tags) := by
  have carried : ∀ ids : List UInt16, gather (ids.flatMap carriedVlanBlock) =
      ([], ids.map fun id => ⟨"BridgeVLAN", [("VLAN", toString id.toNat)]⟩) := by
    intro ids
    induction ids with
    | nil => rfl
    | cons id ids ih => simp [carriedVlanBlock, gather, ih]
  unfold portVlanLines bridgeVlanLines portSections
  cases nativeVlan? native with
  | none => simp [carried]
  | some id => simp [nativeVlanBlock, gather, carried]

theorem gather_mtuLine (mtu : Option UInt32) (lines : List UnitLine) :
    gather (mtuLine mtu :: lines) =
      (((mtu.filter (· ≠ 0)).toList.map fun mtu => ("MTUBytes", toString mtu.toNat)) ++
        (gather lines).1, (gather lines).2) := by
  unfold mtuLine
  cases mtu.filter (· ≠ 0) <;> rfl

theorem gather_netDevLines (name kind title : String) (more : UnitSettings) (mtu : Option UInt32)
    (lines : List UnitLine) :
    gather (netDevLines name kind (more.map settingLine) mtu ++ .header title :: lines) =
      ([], newDevice name kind more mtu :: ⟨title, (gather lines).1⟩ :: (gather lines).2) := by
  simp [netDevLines, gather, gather_settings_append, gather_mtuLine, newDevice]

theorem Keeps.of_gather {template : UnitTemplate} {file : UnitFile} (named : file.name = template.name)
    (gathered : gather file.lines = ([], template.sections)) : Keeps template file :=
  ⟨named, by simp [ofLines?, gathered]⟩

theorem linkUnit_keeps (rank hwaddr : String) (random : Bool) :
    Keeps (.link rank hwaddr (if random then [("MACAddressPolicy", "random")] else []))
      (linkUnit rank hwaddr random) := by
  cases random <;> exact .of_gather rfl rfl

theorem bridgeNetDev_keeps (rank device : String) (mtu : Option UInt32) :
    Keeps (.bridge rank device mtu) (bridgeNetDev rank device mtu) :=
  .of_gather rfl (gather_netDevLines ("br" ++ device) "bridge" "Bridge" [] mtu
    [.setting "VLANFiltering" "true"])

theorem pairNetDev_keeps (rank device hwaddr : String) (mtu : Option UInt32) :
    Keeps (.pair rank device hwaddr mtu) (pairNetDev rank device hwaddr mtu) :=
  .of_gather rfl (gather_netDevLines device "veth" "Peer" [("MACAddress", hwaddr)] mtu
    [.setting "Name" ("vt" ++ device)])

theorem bondNetDev_keeps (bond : Bond) : Keeps (.bond bond) (bondNetDev bond) :=
  .of_gather rfl (gather_netDevLines ("bn" ++ bond.name) "bond" "Bond" [] bond.mtu
    [.setting "Mode" bond.mode.text])

theorem vlanNetDev_keeps (vlan : Vlan) : Keeps (.vlan vlan) (vlanNetDev vlan) :=
  .of_gather rfl (gather_netDevLines vlan.name "vlan" "VLAN" [] vlan.mtu
    [.setting "Id" (toString vlan.id.toNat)])

theorem endNetwork_keeps (config : NetworkConfig) (rank device : String) (addresses : List String)
    (routes : List Route) (policy : Option OnlinePolicy) (stacked : List Vlan) :
    Keeps (.ownEnd config rank device addresses routes policy stacked)
      (endNetwork config rank device addresses routes policy stacked) := by
  refine .of_gather rfl ?_
  simp [endNetwork, UnitTemplate.ownEnd, gather, requiredForOnlineLines_eq, networkSectionLines_eq,
    addressingLines_eq, gather_settings_append, gather_routeLines, matching]

section Ports

variable {vlans : List UnitLine} {ports : List UnitSection}

theorem peerNetwork_keeps (carried : gather vlans = ([], ports)) (rank device : String) :
    Keeps (.peerEnd rank device ports) (peerNetwork rank device vlans) := by
  refine .of_gather rfl ?_
  simp [peerNetwork, UnitTemplate.peerEnd, gather, carried, matching]

theorem cardNetwork_keeps (carried : gather vlans = ([], ports)) (interface : Interface) :
    Keeps (.card interface ports) (cardNetwork interface vlans) := by
  refine .of_gather rfl ?_
  simp [cardNetwork, UnitTemplate.card, gather, carried, matching]

theorem bondNetwork_keeps (carried : gather vlans = ([], ports)) (bond : Bond) :
    Keeps (.bondPort bond ports) (bondNetwork bond vlans) := by
  refine .of_gather rfl ?_
  simp [bondNetwork, UnitTemplate.bondPort, gather, carried, matching]

end Ports

theorem bridgeNetwork_keeps (rank device : String) :
    Keeps (.bridgeItself rank device) (bridgeNetwork rank device) :=
  .of_gather rfl rfl

theorem memberNetwork_keeps (bond : Bond) (index : Nat) (hwaddr : String) :
    Keeps (.member bond index hwaddr) (memberNetwork bond index hwaddr) :=
  .of_gather rfl rfl

theorem interfaceNetworks_keep (config : NetworkConfig) (interface : Interface) :
    List.Forall₂ Keeps (UnitTemplate.ofInterface config interface) (interfaceNetworks config interface) := by
  have carried := gather_portVlanLines config interface.name interface.vlan interface.vlanTags
  exact .cons (endNetwork_keeps config _ _ _ _ _ _) <| .cons (peerNetwork_keeps carried _ _) <|
    .cons (cardNetwork_keeps carried interface) <| .cons (bridgeNetwork_keeps _ _) .nil

theorem bondNetworks_keep (config : NetworkConfig) (bond : Bond) :
    List.Forall₂ Keeps (UnitTemplate.ofBond config bond) (bondNetworks config bond) := by
  have carried := gather_portVlanLines config bond.name bond.vlan bond.vlanTags
  have members : List.Forall₂ Keeps (bond.members.mapIdx (UnitTemplate.member bond))
      (bond.members.mapIdx (memberNetwork bond)) := by
    rw [List.mapIdx_eq_zipIdx_map, List.mapIdx_eq_zipIdx_map, List.forall₂_map_left_iff,
      List.forall₂_map_right_iff, List.forall₂_same]
    exact fun entry _ => memberNetwork_keeps bond _ _
  exact .cons (endNetwork_keeps config _ _ _ _ _ _) <| .cons (peerNetwork_keeps carried _ _) <|
    .cons (bondNetwork_keeps carried bond) <| .cons (bridgeNetwork_keeps _ _) members

theorem forall₂_map_of {α β γ : Type} {keeps : β → γ → Prop} {first : α → β} {second : α → γ}
    (each : ∀ item, keeps (first item) (second item)) (items : List α) :
    List.Forall₂ keeps (items.map first) (items.map second) := by
  rw [List.forall₂_map_left_iff, List.forall₂_map_right_iff, List.forall₂_same]
  exact fun item _ => each item

theorem forall₂_flatMap_of {α β γ : Type} {keeps : β → γ → Prop} {first : α → List β}
    {second : α → List γ} (each : ∀ item, List.Forall₂ keeps (first item) (second item))
    (items : List α) : List.Forall₂ keeps (items.flatMap first) (items.flatMap second) := by
  induction items with
  | nil => exact .nil
  | cons item items ih => exact List.rel_append (each item) ih

/-- **The units of a configuration are written from the templates.** -/
theorem units_keep (config : NetworkConfig) :
    List.Forall₂ Keeps config.templates config.units := by
  simp only [NetworkConfig.templates, NetworkConfig.units, linkUnits, netDevUnits, networkUnits,
    List.append_assoc]
  refine List.rel_append (forall₂_map_of (fun interface => linkUnit_keeps _ _ true) _) <|
    List.rel_append (forall₂_map_of (fun member => linkUnit_keeps _ _ false) _) <|
    List.rel_append (forall₂_flatMap_of (fun interface => ?_) _) <|
    List.rel_append (forall₂_flatMap_of (fun bond => ?_) _) <|
    List.rel_append (forall₂_map_of vlanNetDev_keeps _) <|
    List.rel_append (forall₂_flatMap_of (interfaceNetworks_keep config) _) <|
    List.rel_append (forall₂_flatMap_of (bondNetworks_keep config) _) <|
    forall₂_map_of (fun vlan => endNetwork_keeps config _ _ _ _ _ _) _
  · exact .cons (bridgeNetDev_keeps _ _ _) <| .cons (pairNetDev_keeps _ _ _ _) .nil
  · exact .cons (bondNetDev_keeps bond) <| .cons (bridgeNetDev_keeps _ _ _) <|
      .cons (pairNetDev_keeps _ _ _ _) .nil

end HostNet
