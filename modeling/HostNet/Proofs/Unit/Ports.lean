/-
**Where the VLANs of a configuration are attached, and which ports let them through.**

A VLAN is attached to its parent, an interface or a bond, by the unit of the end that bears the
parent's name. Its frames then cross the parent's bridge, which has two ports: the other end of the
pair, and the card or the bond. A port lets a VLAN through if its unit admits the VLAN's id. The
check asks that the parent is declared and that no two devices share a name. So each VLAN is
attached once, and the two units of the ports of a bridge, which are written apart, admit the same
ids. The text about them at the end of a unit holds no text of the configuration, so it reads back
whatever the devices are called.

All this is said of two ways to read a unit. It holds of what the units are meant to say, always; and
it holds of what their texts say, if no name, domain or server of the configuration holds a line feed.

* `UnitReading`: a way to read a unit;
* `NetworkConfig.bridgePorts`: the units that make a device a port of the bridge of a device;
* `NetworkConfig.portIds`: the ids that the ports of a device are to admit;
* `flatMap_filter_perm`: items that are grouped by distinct keys are permuted;
* `BridgedDevice`: what an interface and a bond have in common;
* `NetworkConfig.bridgePorts_eq`: the ports, grouped by the device whose bridge they join;
* `NetworkConfig.VlansCarried`: each VLAN is attached once, and both ports of its parent admit it;
* `NetworkConfig.VlansCarried.congr`: it is so for readings that agree on the units about devices;
* `NetworkConfig.vlans_carried`: this is so for each configuration that passes the check.
-/

import HostNet.Proofs.Unit.BridgeVlan
import HostNet.Proofs.Unit.Devices
import HostNet.Proofs.Unit.Precedence

namespace HostNet

/-! ### Groups -/

section Groups

variable {α β κ : Type} [DecidableEq κ]

/-- Of groups with distinct keys, one has the key of an item: its own. -/
theorem flatMap_of_key (key : α → κ) (group : α → List β) {items : List α} {item : α}
    (distinct : (items.map key).Nodup) (inside : item ∈ items) :
    (items.flatMap fun other => if key other = key item then group other else []) = group item := by
  induction items with
  | nil => cases inside
  | cons first rest ih =>
    rw [List.map_cons, List.nodup_cons] at distinct
    rw [List.flatMap_cons]
    obtain rfl | later := List.mem_cons.mp inside
    · have others : ∀ other ∈ rest, key other ≠ key item := fun other member same =>
        distinct.1 (same ▸ List.mem_map_of_mem member)
      have none : (rest.flatMap fun other =>
          if key other = key item then group other else []) = [] :=
        List.flatMap_eq_nil_iff.mpr fun other member => if_neg (others other member)
      rw [if_pos rfl, none, List.append_nil]
    · have other : key first ≠ key item := fun same =>
        distinct.1 (same ▸ List.mem_map_of_mem later)
      rw [if_neg other, List.nil_append, ih distinct.2 later]

/-- **Items that are grouped by distinct keys are permuted**, if the keys are those of all items. -/
theorem flatMap_filter_perm (key : α → κ) {keys : List κ} (distinct : keys.Nodup) {items : List α}
    (covered : ∀ item ∈ items, key item ∈ keys) :
    (keys.flatMap fun own => items.filter (key · = own)).Perm items := by
  -- One more item joins the group of its own key, and no other, in front of those that are there.
  induction items with
  | nil => simp
  | cons item rest ih =>
    rw [List.forall_mem_cons] at covered
    have single : (keys.flatMap fun own => if own = key item then [item] else []) = [item] :=
      flatMap_of_key id (fun _ => [item]) (by simpa using distinct) covered.1
    have parted : ∀ own, (item :: rest).filter (key · = own) =
        (if own = key item then [item] else []) ++ rest.filter (key · = own) := by
      intro own
      by_cases same : own = key item
      · simp [same]
      · simp [same, Ne.symm same]
    simp only [parted]
    refine (List.flatMap_append_perm keys _ _).symm.trans ?_
    rw [single]
    exact (ih covered.2).cons item

theorem filter_eq_flatMap (keeps : α → Prop) [DecidablePred keeps] (items : List α) :
    items.filter keeps = items.flatMap fun item => if keeps item then [item] else [] := by
  induction items with
  | nil => rfl
  | cons item rest ih => by_cases kept : keeps item <;> simp [kept, ih]

end Groups

/-! ### What the units of ports are to say -/

/-- A way to read a unit: the values of a key in the sections with a title. -/
abbrev UnitReading := UnitFile → String → String → List String

namespace UnitFile

/-- A unit makes its device a port of the bridge of a device. -/
def Joins (reading : UnitReading) (device : String) (file : UnitFile) : Prop :=
  "br" ++ device ∈ reading file "Network" "Bridge"

instance (reading : UnitReading) (device : String) : DecidablePred (Joins reading device) :=
  fun _ => inferInstanceAs (Decidable (_ ∈ _))

/-- A unit is for one device, by its name and by what it matches. -/
structure IsFor (reading : UnitReading) (rank device : String) (file : UnitFile) : Prop where
  named : file.name = unitName rank device ".network"
  matched : reading file "Match" "Name" = [device]

/-- The text of a unit ends in a text, and no section that starts in front of that is about the
VLANs of a port. -/
def EndsIn (text : String) (file : UnitFile) : Prop :=
  ∃ front, file.contents = UnitLine.render front ++ text ∧ .header "BridgeVLAN" ∉ front

end UnitFile

/-- The sections admit the VLANs with some ids, and no others. -/
def AdmitsExactly (ids : UInt16 → Prop) (values : List String) : Prop :=
  ∀ value, value ∈ values ↔ ∃ id, ids id ∧ value = toString id.toNat

/-- A text is about the VLANs of a port alone, and admits those with some ids, and no others. -/
def VlanText (ids : UInt16 → Prop) (text : String) : Prop :=
  ∃ parts, readUnit? text = some parts ∧ (∀ part ∈ parts, part.title = "BridgeVLAN") ∧
    AdmitsExactly ids (valuesOf parts "BridgeVLAN" "VLAN")

namespace NetworkConfig

/-- **The units that make a device a port of the bridge of a device.** -/
def bridgePorts (config : NetworkConfig) (reading : UnitReading) (device : String) :
    List UnitFile :=
  (config.unitsOfKind ".network").filter (UnitFile.Joins reading device)

/-- **The ids that the ports of a device are to admit**: that of its native VLAN, its tags, and
those of the VLANs whose parent it is. -/
def portIds (config : NetworkConfig) (device : String) (native : Option UInt16) (tags : List UInt16)
    (id : UInt16) : Prop :=
  native = some id ∨ id ∈ tags ∨ ∃ vlan ∈ config.vlans, vlan.parent = device ∧ vlan.id = id

/-- The bridge of a device has two ports, the peer of the device and one other, and the units of
both end in the same text. -/
structure PortPair (config : NetworkConfig) (reading : UnitReading)
    (rank device other text : String) (peer port : UnitFile) : Prop where
  ports : config.bridgePorts reading device = [peer, port]
  peer_for : peer.IsFor reading rank ("vt" ++ device)
  port_for : port.IsFor reading rank other
  peer_ends : peer.EndsIn text
  port_ends : port.EndsIn text

/-- Both ports of the bridge of a device admit the same VLANs, by the text that their units end in
and by all that their units say. -/
structure PortsAgree (config : NetworkConfig) (reading : UnitReading) (rank device other : String)
    (ids : UInt16 → Prop) : Prop where
  shared : ∃ text peer port,
    config.PortPair reading rank device other text peer port ∧ VlanText ids text
  whole : ∀ file ∈ config.bridgePorts reading device,
    AdmitsExactly ids (reading file "BridgeVLAN" "VLAN")

/-- **Each VLAN is attached once, and both ports of its parent let it through**, as the units are
read. -/
structure VlansCarried (config : NetworkConfig) (reading : UnitReading) : Prop where
  attached : (config.interfaces.flatMap (fun interface => config.vlansOn interface.name) ++
    config.bonds.flatMap fun bond => config.vlansOn bond.name).Perm config.vlans
  named : ((config.unitsOfKind ".network").flatMap (reading · "Network" "VLAN")).Perm
    (config.vlans.map (·.name))
  interfaces : ∀ interface ∈ config.interfaces,
    config.PortsAgree reading "20" interface.name interface.physicalName
      (config.portIds interface.name interface.vlan interface.vlanTags)
  bonds : ∀ bond ∈ config.bonds,
    config.PortsAgree reading "21" bond.name ("bn" ++ bond.name)
      (config.portIds bond.name bond.vlan bond.vlanTags)
  stacked : ∀ vlan ∈ config.vlans, ∃ peer port,
    config.bridgePorts reading vlan.parent = [peer, port] ∧
      ∀ file ∈ [peer, port], toString vlan.id.toNat ∈ reading file "BridgeVLAN" "VLAN"

end NetworkConfig

/-! ### Readings that agree -/

namespace NetworkConfig

variable {config : NetworkConfig} {first second : UnitReading}
  (same : ∀ file ∈ config.unitsOfKind ".network", first file = second file)

include same

theorem bridgePorts_congr (device : String) :
    config.bridgePorts first device = config.bridgePorts second device := by
  refine List.filter_congr fun file member => decide_eq_decide.mpr ?_
  rw [UnitFile.Joins, same file member, UnitFile.Joins]

theorem reading_eq_of_port {device : String} {file : UnitFile}
    (member : file ∈ config.bridgePorts first device) : first file = second file :=
  same file (List.mem_filter.mp member).1

theorem PortsAgree.congr {rank device other : String} {ids : UInt16 → Prop}
    (agree : config.PortsAgree first rank device other ids) :
    config.PortsAgree second rank device other ids := by
  have ports := bridgePorts_congr same device
  have moved : ∀ {own file}, file ∈ config.bridgePorts first device →
      file.IsFor first rank own → file.IsFor second rank own := by
    rintro own file member ⟨named, matched⟩
    rw [reading_eq_of_port same member] at matched
    exact ⟨named, matched⟩
  obtain ⟨⟨text, peer, port, pair, about⟩, whole⟩ := agree
  have peerMember : peer ∈ config.bridgePorts first device := by simp [pair.ports]
  have portMember : port ∈ config.bridgePorts first device := by simp [pair.ports]
  refine ⟨⟨text, peer, port, ⟨ports ▸ pair.ports, moved peerMember pair.peer_for,
    moved portMember pair.port_for, pair.peer_ends, pair.port_ends⟩, about⟩, ?_⟩
  intro file member
  rw [← ports] at member
  rw [← reading_eq_of_port same member]
  exact whole file member

/-- **What is said of one reading holds of another that agrees with it on the units about devices.** -/
theorem VlansCarried.congr (carried : config.VlansCarried first) : config.VlansCarried second := by
  have read : (config.unitsOfKind ".network").flatMap (first · "Network" "VLAN") =
      (config.unitsOfKind ".network").flatMap (second · "Network" "VLAN") :=
    List.flatMap_congr fun file member => by rw [same file member]
  refine ⟨carried.attached, read ▸ carried.named,
    fun interface declared => (carried.interfaces interface declared).congr same,
    fun bond declared => (carried.bonds bond declared).congr same, fun vlan inside => ?_⟩
  obtain ⟨peer, port, ports, admitted⟩ := carried.stacked vlan inside
  refine ⟨peer, port, bridgePorts_congr same vlan.parent ▸ ports, fun file member => ?_⟩
  rw [← reading_eq_of_port same (by rwa [ports])]
  exact admitted file member

end NetworkConfig

/-! ### Units of ports -/

section Ports

variable {config : NetworkConfig} {device : String} {native : Option UInt16} {tags : List UInt16}

/-- The native VLAN of an allowed port is not 0, so it is carried if there is one. -/
theorem mem_carriedVlans_iff (allowed : PortAllowed native tags) {stacked : List UInt16}
    {id : UInt16} :
    id ∈ carriedVlans native tags stacked ↔ native = some id ∨ id ∈ tags ∨ id ∈ stacked := by
  rw [mem_carriedVlans, CarriesVlan]
  refine or_congr_left ⟨And.left, fun set => ⟨set, ?_⟩⟩
  rintro rfl
  exact absurd (allowed.native 0 set).1 (by decide)

/-- Sections of one setting each have the values of these. -/
theorem valuesOf_map {α : Type} (title key : String) (value : α → String) (items : List α) :
    valuesOf (items.map fun item => ⟨title, [(key, value item)]⟩) title key = items.map value := by
  induction items with
  | nil => rfl
  | cons item items ih => simp [ih]

theorem values_portSections :
    valuesOf (portSections config device native tags) "BridgeVLAN" "VLAN" =
      (carriedVlans native tags ((config.vlansOn device).map (·.id))).map (toString ·.toNat) := by
  rw [portSections, valuesOf_append, valuesOf_map]
  cases nativeVlan? native <;> simp

/-- The sections of an allowed port admit the VLANs that they are to admit. -/
theorem admits_portSections (allowed : PortAllowed native tags) :
    AdmitsExactly (config.portIds device native tags)
      (valuesOf (portSections config device native tags) "BridgeVLAN" "VLAN") := by
  intro value
  simp only [values_portSections, List.mem_map, mem_carriedVlans_iff allowed,
    NetworkConfig.mem_vlansOn, NetworkConfig.portIds, and_assoc, eq_comm]

/-- The text of the VLANs of an allowed port. -/
theorem vlanText_portVlanLines (allowed : PortAllowed native tags) :
    VlanText (config.portIds device native tags)
      (UnitLine.render (portVlanLines config device native tags)) := by
  have found : UnitSection.ofLines? (portVlanLines config device native tags) =
      some (portSections config device native tags) := by
    simp [UnitSection.ofLines?, gather_portVlanLines]
  have read := (readUnit?_render_iff (portSections_legible config device native tags) found).mpr
    (portSections_unbroken config device native tags)
  refine ⟨_, read, ?_, admits_portSections allowed⟩
  simp only [portSections, List.forall_mem_append, List.forall_mem_map]
  exact ⟨fun _ _ => trivial, fun _ _ => trivial⟩

theorem UnitFile.EndsIn.of_lines {file : UnitFile} {front back : List UnitLine}
    (lines : file.lines = front ++ back) (other : .header "BridgeVLAN" ∉ front) :
    file.EndsIn (UnitLine.render back) :=
  ⟨front, by rw [UnitFile.contents, lines, UnitLine.render_append], other⟩

end Ports

/-! ### Devices that have a bridge -/

/-- An interface or a bond, as the device that a bridge is made for: the card or the bond device is
a port of the bridge. -/
structure BridgedDevice where
  /-- The rank of the units that configure it. -/
  rank : String
  name : String
  addresses : List String
  routes : List Route
  policy : Option OnlinePolicy
  native : Option UInt16
  tags : List UInt16
  /-- The card or the bond device. -/
  other : String
  /-- The unit that configures the card or the bond device. -/
  port : UnitFile

/-- An interface, whose card is a port. -/
def Interface.bridged (config : NetworkConfig) (interface : Interface) : BridgedDevice where
  rank := "20"
  name := interface.name
  addresses := interface.addresses
  routes := interface.routes
  policy := interface.requiredForOnline
  native := interface.vlan
  tags := interface.vlanTags
  other := interface.physicalName
  port := cardUnit config interface

/-- A bond, whose own device is a port. -/
def Bond.bridged (config : NetworkConfig) (bond : Bond) : BridgedDevice where
  rank := "21"
  name := bond.name
  addresses := bond.addresses
  routes := bond.routes
  policy := bond.requiredForOnline
  native := bond.vlan
  tags := bond.vlanTags
  other := "bn" ++ bond.name
  port := bondNetwork bond (portVlanLines config bond.name bond.vlan bond.vlanTags)

/-- The devices that have a bridge. -/
def NetworkConfig.bridgedDevices (config : NetworkConfig) : List BridgedDevice :=
  config.interfaces.map (·.bridged config) ++ config.bonds.map (·.bridged config)

namespace BridgedDevice

variable (config : NetworkConfig) (device : BridgedDevice)

/-- The lines about the VLANs of the ports of a device. -/
def vlanLines : List UnitLine := portVlanLines config device.name device.native device.tags

/-- The sections of these lines. -/
def vlanSections : List UnitSection := portSections config device.name device.native device.tags

/-- The ids that the ports of a device are to admit. -/
def ids : UInt16 → Prop := config.portIds device.name device.native device.tags

/-- The units of the ports. -/
def ports : List UnitFile :=
  [peerNetwork device.rank device.name (device.vlanLines config), device.port]

/-- The units of the device, but for those of the members of a bond. -/
def units : List UnitFile :=
  [endNetwork config device.rank device.name device.addresses device.routes device.policy
      (config.vlansOn device.name)] ++
    device.ports config ++ [bridgeNetwork device.rank device.name]

/-- What the unit of a port of the bridge of a device says. -/
structure IsPort (own : String) (file : UnitFile) : Prop where
  is_for : file.IsFor UnitFile.meantValues device.rank own
  bridge : file.meantValues "Network" "Bridge" = ["br" ++ device.name]
  stacked : file.meantValues "Network" "VLAN" = []
  ends : file.EndsIn (UnitLine.render (device.vlanLines config))
  admits : file.meantValues "BridgeVLAN" "VLAN" =
    valuesOf (device.vlanSections config) "BridgeVLAN" "VLAN"

theorem gather_vlanLines :
    UnitSection.gather (device.vlanLines config) = ([], device.vlanSections config) :=
  gather_portVlanLines config device.name device.native device.tags

theorem valuesOf_vlanSections {title key : String} (other : "BridgeVLAN" ≠ title) :
    valuesOf (device.vlanSections config) title key = [] :=
  valuesOf_ports config device.name device.native device.tags other

variable {config device}

/-- A unit is that of a port if it names the bridge, attaches no VLAN, and is about the VLANs of the
port in the end. -/
theorem IsPort.of_keeps {own : String} {file : UnitFile} {template : UnitTemplate}
    {settings : UnitSettings} (keeps : Keeps template file)
    (said : template.sections =
      [matching own, ⟨"Network", settings⟩] ++ device.vlanSections config)
    (named : file.name = unitName device.rank own ".network")
    (bridge : settingsOf settings "Bridge" = ["br" ++ device.name])
    (stacked : settingsOf settings "VLAN" = [])
    (ends : file.EndsIn (UnitLine.render (device.vlanLines config))) :
    device.IsPort config own file where
  is_for := ⟨named, by simp [keeps.meantValues_eq, said, matching, valuesOf_vlanSections]⟩
  bridge := by simp [keeps.meantValues_eq, said, matching, valuesOf_vlanSections, bridge]
  stacked := by simp [keeps.meantValues_eq, said, matching, valuesOf_vlanSections, stacked]
  ends := ends
  admits := by simp [keeps.meantValues_eq, said, matching]

variable (config device)

theorem peer_isPort :
    device.IsPort config ("vt" ++ device.name)
      (peerNetwork device.rank device.name (device.vlanLines config)) := by
  have keeps := peerNetwork_keeps (device.gather_vlanLines config) device.rank device.name
  have named := unitName_tagged device.rank "vt" device.name ".network"
  exact .of_keeps keeps rfl named (by simp) (by simp) (.of_lines rfl (by simp))

end BridgedDevice

section Networks

variable (config : NetworkConfig)

theorem Interface.bridged_isPort (interface : Interface) :
    (interface.bridged config).IsPort config interface.physicalName
      (interface.bridged config).port := by
  have keeps := cardNetwork_keeps ((interface.bridged config).gather_vlanLines config) interface
  have named := cardUnit_name config interface
  exact .of_keeps keeps rfl named (by simp [bridged]) (by simp) (.of_lines rfl (by simp))

theorem Bond.bridged_isPort (bond : Bond) :
    (bond.bridged config).IsPort config ("bn" ++ bond.name) (bond.bridged config).port := by
  have keeps := bondNetwork_keeps ((bond.bridged config).gather_vlanLines config) bond
  have named := unitName_tagged "21" "bn" bond.name ".network"
  exact .of_keeps keeps rfl named (by simp [bridged]) (by simp) (.of_lines rfl (by simp))

variable {config}

/-- The port of a device that has a bridge is the card or the bond that it is said to be. -/
theorem bridgedDevices_isPort :
    ∀ device ∈ config.bridgedDevices, device.IsPort config device.other device.port := by
  simp only [NetworkConfig.bridgedDevices, List.forall_mem_append, List.forall_mem_map]
  exact ⟨fun interface _ => interface.bridged_isPort config,
    fun bond _ => bond.bridged_isPort config⟩

theorem bridgedDevices_names : config.bridgedDevices.map (·.name) = config.parents := by
  simp only [NetworkConfig.bridgedDevices, NetworkConfig.parents, List.map_append, List.map_map]
  rfl

theorem NetworkConfig.WellFormed.bridgedDevices_allowed (rules : config.WellFormed) :
    ∀ device ∈ config.bridgedDevices, PortAllowed device.native device.tags := by
  simp only [NetworkConfig.bridgedDevices, List.forall_mem_append, List.forall_mem_map]
  exact ⟨rules.interface_ports, rules.bond_ports⟩

end Networks

/-! ### What the units attach -/

/-- A unit makes its device a port of no bridge, and attaches some VLANs to it. -/
structure Unbridged (vlans : List String) (file : UnitFile) : Prop where
  bridge : file.meantValues "Network" "Bridge" = []
  stacked : file.meantValues "Network" "VLAN" = vlans

section Unbridged

variable (config : NetworkConfig)

theorem endNetwork_unbridged (rank device : String) (addresses : List String) (routes : List Route)
    (policy : Option OnlinePolicy) (stacked : List Vlan) :
    Unbridged (stacked.map (·.name))
      (endNetwork config rank device addresses routes policy stacked) where
  bridge := endNetwork_attaching config (by decide) rank device addresses routes policy stacked
  stacked := by
    have keeps := endNetwork_keeps config rank device addresses routes policy stacked
    have shared : settingsOf (networkSettings config stacked) "VLAN" = stacked.map (·.name) := by
      cases dns : config.dns <;> cases ntp : config.ntp <;>
        simp [networkSettings, dns, ntp, settingsOf_ite]
    have addressed : settingsOf (addressSettings addresses) "VLAN" = [] := by
      simp [addressSettings, settingsOf_ite]
    simp [keeps.meantValues_eq, UnitTemplate.ownEnd, matching, valuesOf_routes, shared, addressed]

theorem bridgeNetwork_unbridged (rank device : String) :
    Unbridged [] (bridgeNetwork rank device) := by
  have keeps := bridgeNetwork_keeps rank device
  constructor <;> simp [keeps.meantValues_eq, UnitTemplate.bridgeItself, matching]

theorem memberNetwork_unbridged (bond : Bond) (index : Nat) (hwaddr : String) :
    Unbridged [] (memberNetwork bond index hwaddr) := by
  have keeps := memberNetwork_keeps bond index hwaddr
  constructor <;> simp [keeps.meantValues_eq, UnitTemplate.member, matching]

end Unbridged

/-! ### Ports by bridges -/

section Joins

variable {config : NetworkConfig} {name : String}

theorem BridgedDevice.IsPort.joins_iff {device : BridgedDevice} {own : String} {file : UnitFile}
    (port : device.IsPort config own file) :
    file.Joins UnitFile.meantValues name ↔ device.name = name := by
  rw [UnitFile.Joins, port.bridge, List.mem_singleton, (tagged_injective "br").eq_iff, eq_comm]

theorem Unbridged.not_joins {vlans : List String} {file : UnitFile} (off : Unbridged vlans file) :
    ¬ file.Joins UnitFile.meantValues name := by
  simp [UnitFile.Joins, off.bridge]

/-- Of the units of a device, those of its ports join its bridge. -/
theorem BridgedDevice.filter_units {device : BridgedDevice}
    (port : device.IsPort config device.other device.port) :
    (device.units config).filter (UnitFile.Joins UnitFile.meantValues name) =
      if device.name = name then device.ports config else [] := by
  have own := endNetwork_unbridged config device.rank device.name device.addresses device.routes
    device.policy (config.vlansOn device.name)
  have peer := device.peer_isPort config
  have bridge := bridgeNetwork_unbridged device.rank device.name
  obtain rfl | apart := eq_or_ne device.name name
  · simp [units, ports, own.not_joins, peer.joins_iff, port.joins_iff, bridge.not_joins]
  · simp [units, ports, own.not_joins, peer.joins_iff, port.joins_iff, bridge.not_joins, apart]

/-- A device's VLANs are attached by its own end alone. -/
theorem BridgedDevice.units_stacked {device : BridgedDevice}
    (port : device.IsPort config device.other device.port) :
    (device.units config).flatMap (·.meantValues "Network" "VLAN") =
      (config.vlansOn device.name).map (·.name) := by
  have own := endNetwork_unbridged config device.rank device.name device.addresses device.routes
    device.policy (config.vlansOn device.name)
  have peer := device.peer_isPort config
  have bridge := bridgeNetwork_unbridged device.rank device.name
  simp [units, ports, own.stacked, peer.stacked, port.stacked, bridge.stacked]

end Joins

namespace NetworkConfig

variable {config : NetworkConfig}

/-- What is collected from the units that configure devices is collected from those of the devices
that have a bridge, if the other units, which attach nothing, contribute nothing. -/
theorem flatMap_unitsOfKind_network {β : Type} {collect : UnitFile → List β}
    (none : ∀ file, Unbridged [] file → collect file = []) :
    (config.unitsOfKind ".network").flatMap collect =
      config.bridgedDevices.flatMap fun device => (device.units config).flatMap collect := by
  have members (bond : Bond) :
      (bond.members.mapIdx (memberNetwork bond)).flatMap collect = [] := by
    refine List.flatMap_eq_nil_iff.mpr fun file inside => ?_
    obtain ⟨index, _, rfl⟩ := List.mem_mapIdx.mp inside
    exact none _ (memberNetwork_unbridged bond index _)
  have vlans : (config.vlans.map (vlanNetwork config)).flatMap collect = [] := by
    refine List.flatMap_eq_nil_iff.mpr (List.forall_mem_map.mpr fun vlan _ => none _ ?_)
    exact endNetwork_unbridged config "22" vlan.name vlan.addresses vlan.routes
      vlan.requiredForOnline []
  have interfaceUnits : ∀ interface, interfaceNetworks config interface =
      (interface.bridged config).units config := fun _ => rfl
  have bondUnits : ∀ bond, bondNetworks config bond =
      (bond.bridged config).units config ++ bond.members.mapIdx (memberNetwork bond) := fun _ => rfl
  simp only [unitsOfKind_network, networkUnits, bridgedDevices, List.flatMap_append,
    List.flatMap_assoc, List.flatMap_map, interfaceUnits, bondUnits, members, vlans,
    List.append_nil]

/-- **The ports of a bridge are those of the devices with its name.** -/
theorem bridgePorts_eq (config : NetworkConfig) (name : String) :
    config.bridgePorts UnitFile.meantValues name =
      config.bridgedDevices.flatMap fun device =>
        if device.name = name then device.ports config else [] := by
  rw [bridgePorts, filter_eq_flatMap,
    flatMap_unitsOfKind_network fun file off => if_neg off.not_joins]
  simp only [← filter_eq_flatMap]
  refine List.flatMap_congr fun device inside => ?_
  exact device.filter_units (bridgedDevices_isPort device inside)

namespace WellFormed

theorem bridgedDevices_nodup (rules : config.WellFormed) :
    (config.bridgedDevices.map (·.name)).Nodup :=
  bridgedDevices_names ▸ rules.parents_nodup

/-- A bridge has the two ports of its device. -/
theorem bridgePorts_eq_ports (rules : config.WellFormed) {device : BridgedDevice}
    (inside : device ∈ config.bridgedDevices) :
    config.bridgePorts UnitFile.meantValues device.name = device.ports config := by
  rw [bridgePorts_eq]
  exact flatMap_of_key (·.name) (·.ports config) rules.bridgedDevices_nodup inside

/-- Both ports of the bridge of a device admit what they are to admit. -/
theorem ports_agree (rules : config.WellFormed) {device : BridgedDevice}
    (inside : device ∈ config.bridgedDevices) :
    config.PortsAgree UnitFile.meantValues device.rank device.name device.other
      (device.ids config) := by
  have allowed := rules.bridgedDevices_allowed device inside
  have peer := device.peer_isPort config
  have port := bridgedDevices_isPort device inside
  have ports := rules.bridgePorts_eq_ports inside
  have admits : AdmitsExactly (device.ids config)
      (valuesOf (device.vlanSections config) "BridgeVLAN" "VLAN") := admits_portSections allowed
  constructor
  · exact ⟨_, _, _, ⟨ports, peer.is_for, port.is_for, peer.ends, port.ends⟩,
      vlanText_portVlanLines allowed⟩
  · rw [ports, BridgedDevice.ports, List.forall_mem_cons, List.forall_mem_singleton, peer.admits,
      port.admits]
    exact ⟨admits, admits⟩

/-- Each VLAN is attached once. -/
theorem vlansOn_perm (rules : config.WellFormed) :
    (config.parents.flatMap config.vlansOn).Perm config.vlans :=
  flatMap_filter_perm Vlan.parent rules.parents_nodup fun vlan inside =>
    mem_parents.mpr (rules.parents_declared vlan inside)

/-- Both ports of the parent of a VLAN admit it. -/
theorem stacked_admitted (rules : config.WellFormed) {vlan : Vlan} (inside : vlan ∈ config.vlans) :
    ∃ peer port, config.bridgePorts UnitFile.meantValues vlan.parent = [peer, port] ∧
      ∀ file ∈ [peer, port], toString vlan.id.toNat ∈ file.meantValues "BridgeVLAN" "VLAN" := by
  have declared : vlan.parent ∈ config.bridgedDevices.map (·.name) := by
    rw [bridgedDevices_names]
    exact mem_parents.mpr (rules.parents_declared vlan inside)
  obtain ⟨device, found, same⟩ := List.mem_map.mp declared
  have ports : config.bridgePorts UnitFile.meantValues vlan.parent = device.ports config :=
    same ▸ rules.bridgePorts_eq_ports found
  have own : device.ids config vlan.id := .inr (.inr ⟨vlan, inside, same.symm, rfl⟩)
  refine ⟨_, _, ports, fun file member => ?_⟩
  have whole := (rules.ports_agree found).whole file (by rwa [same, ports])
  exact (whole _).mpr ⟨vlan.id, own, rfl⟩

/-- The units attach each VLAN once. -/
theorem attached_perm (rules : config.WellFormed) :
    ((config.unitsOfKind ".network").flatMap (·.meantValues "Network" "VLAN")).Perm
      (config.vlans.map (·.name)) := by
  have each : (config.unitsOfKind ".network").flatMap (·.meantValues "Network" "VLAN") =
      (config.parents.flatMap config.vlansOn).map (·.name) := by
    rw [flatMap_unitsOfKind_network fun file off => off.stacked, ← bridgedDevices_names,
      List.flatMap_map, List.map_flatMap]
    exact List.flatMap_congr fun device inside =>
      device.units_stacked (bridgedDevices_isPort device inside)
  rw [each]
  exact rules.vlansOn_perm.map _

end WellFormed

/-- What the units are meant to say about VLANs. -/
theorem WellFormed.vlansCarried (rules : config.WellFormed) :
    config.VlansCarried UnitFile.meantValues := by
  constructor
  · have attached := rules.vlansOn_perm
    rwa [parents, List.flatMap_append, List.flatMap_map, List.flatMap_map] at attached
  · exact rules.attached_perm
  · exact fun interface declared =>
      rules.ports_agree (List.mem_append_left _ (List.mem_map_of_mem declared))
  · exact fun bond declared =>
      rules.ports_agree (List.mem_append_right _ (List.mem_map_of_mem declared))
  · exact fun vlan inside => rules.stacked_admitted inside

/-- **Each VLAN of a configuration that passes the check is attached once, and both ports of its
parent let it through**; the ports of every interface and bond admit what they are to admit. The units
are always meant to say so, and their texts do if the names of the devices, the search domains and the
servers are one line each. -/
theorem vlans_carried (passed : config.validate = .ok ()) :
    config.VlansCarried UnitFile.meantValues ∧
      (config.Unbroken → config.VlansCarried UnitFile.values) := by
  have rules := WellFormed.of_validate passed
  exact ⟨rules.vlansCarried, fun unbroken =>
    rules.vlansCarried.congr (rules.networks_values unbroken)⟩

/-- An interface with a native VLAN and a tag, a bond of it, and a VLAN on each. -/
def trunked : NetworkConfig where
  interfaces :=
    [{ name := "eth0", hwaddr := "aa:00:00:00:00:01", vlan := some 10, vlanTags := [20] }]
  bonds := [{ name := "uplink", members := ["aa:00:00:00:00:01"], mode := .linkAggregation }]
  vlans := [{ name := "office", id := 7, parent := "eth0" },
    { name := "guests", id := 20, parent := "uplink" }]

theorem trunked_vlans_carried :
    trunked.validate = .ok () ∧ trunked.VlansCarried UnitFile.meantValues ∧
      trunked.VlansCarried UnitFile.values ∧
      (trunked.bridgePorts UnitFile.values "eth0").map (·.values "BridgeVLAN" "VLAN") =
        [["7", "10", "20"], ["7", "10", "20"]] := by
  have passed : trunked.validate = .ok () := by decide +kernel
  have unbroken : trunked.Unbroken := ⟨by decide +kernel, fun _ => ⟨nofun, nofun, nofun⟩⟩
  obtain ⟨meant, written⟩ := vlans_carried passed
  refine ⟨passed, meant, written unbroken, ?_⟩
  have same := (WellFormed.of_validate passed).networks_values unbroken
  have admitted : (trunked.bridgePorts UnitFile.meantValues "eth0").map
      (·.meantValues "BridgeVLAN" "VLAN") = [["7", "10", "20"], ["7", "10", "20"]] := by
    decide +kernel
  rw [← bridgePorts_congr same, ← admitted]
  exact List.map_congr_left fun file port => by rw [same file (List.mem_of_mem_filter port)]

end NetworkConfig

end HostNet
