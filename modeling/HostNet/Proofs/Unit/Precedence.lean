/-
**Which unit is used for the card of a bond's member.**

For each device the host uses one unit of each kind: of the units that fit the device, the one whose
name comes first. A member of a bond is also a declared interface, since the check asks for that. So
there are two units that name its card, one that keeps its address and one that makes it random, and
two that configure it, one that attaches it to the bond and one that makes it a port of the
interface's bridge. The units of interfaces have lower ranks than those of bonds; so those of the
member are never used.

Which device a unit fits and what it does is read off its text. The units that name cards hold
hardware addresses only, and their texts say what they are meant to say. The units that configure
devices do so if no name, domain or server of the configuration holds a line feed.

* `IsFirst`: a unit that fits and comes before all others that fit;
* `Used`: there is such a unit, and each does something;
* `Used.of_front`: it is enough to look at the units of the lowest rank in which one fits;
* `NetworkConfig.CardKept`, `NetworkConfig.CardJoins`: the units that a member is given are used;
* `NetworkConfig.AddressOverruled`, `NetworkConfig.BondOverruled`: those of the interface are used in
  their place;
* `NetworkConfig.members_overruled`: this is so for each member of a configuration that passes the
  check.
-/

import HostNet.Proofs.Unit.Names
import HostNet.Proofs.Unit.Settings
import Mathlib.Data.String.Basic

namespace HostNet

/-! ### The first unit that fits -/

/-- A unit that fits, and before which no other unit that fits comes in the order of names. -/
structure IsFirst (files : List UnitFile) (fits : UnitFile → Prop) (file : UnitFile) : Prop where
  member : file ∈ files
  fit : fits file
  least : ∀ other ∈ files, fits other → file.name ≤ other.name

/-- **The unit that is used does something**: there is a first unit that fits, and each does it. Units
of one name may both be first. -/
structure Used (files : List UnitFile) (fits does : UnitFile → Prop) : Prop where
  found : ∃ file, IsFirst files fits file
  each : ∀ file, IsFirst files fits file → does file

theorem isFirst_iff {files : List UnitFile} {fits : UnitFile → Prop} {file : UnitFile} :
    IsFirst files fits file ↔
      file ∈ files ∧ fits file ∧ ∀ other ∈ files, fits other → file.name ≤ other.name := by
  constructor
  · exact fun first => ⟨first.member, first.fit, first.least⟩
  · rintro ⟨member, fit, least⟩
    exact ⟨member, fit, least⟩

instance (files : List UnitFile) (fits : UnitFile → Prop) [DecidablePred fits] (file : UnitFile) :
    Decidable (IsFirst files fits file) :=
  decidable_of_iff _ isFirst_iff.symm

section First

variable {front back : List UnitFile} {fits does : UnitFile → Prop}

/-- A unit that fits is first if the units that fit in its group share its name and the other groups
come later. -/
theorem IsFirst.of_front {file : UnitFile} (member : file ∈ front) (fit : fits file)
    (named : ∀ other ∈ front, fits other → other.name = file.name)
    (later : ∀ other ∈ back, file.name < other.name) : IsFirst (front ++ back) fits file where
  member := List.mem_append_left _ member
  fit := fit
  least := by
    intro other inside fitting
    obtain inFront | inBack := List.mem_append.mp inside
    · exact (named other inFront fitting).ge
    · exact (later other inBack).le

/-- If a unit of the front fits, no unit that comes later is used. -/
theorem IsFirst.mem_front {file other : UnitFile} (first : IsFirst (front ++ back) fits file)
    (member : other ∈ front) (fit : fits other) (later : ∀ third ∈ back, other.name < third.name) :
    file ∈ front := by
  refine (List.mem_append.mp first.member).resolve_right fun inBack => ?_
  have before := first.least other (List.mem_append_left _ member) fit
  exact absurd (later file inBack) (not_lt.mpr before)

/-- It is enough to look at a group of units in which one fits and after which all others come. -/
theorem Used.of_front {file : UnitFile} (member : file ∈ front) (fit : fits file)
    (named : ∀ other ∈ front, fits other → other.name = file.name)
    (later : ∀ other ∈ back, file.name < other.name)
    (each : ∀ other ∈ front, fits other → does other) : Used (front ++ back) fits does where
  found := ⟨file, .of_front member fit named later⟩
  each := fun other first => each other (first.mem_front member fit later) first.fit

end First

/-! ### The order of ranks -/

theorem append_lt_append {first second : List Char} (lengths : first.length = second.length)
    (below : first < second) (rest other : List Char) : first ++ rest < second ++ other := by
  induction first generalizing second with
  | nil =>
    obtain rfl := List.length_eq_zero_iff.mp lengths.symm
    exact absurd below (lt_irrefl _)
  | cons character first ih =>
    cases second with
    | nil => cases lengths
    | cons characterSecond second =>
      rw [List.cons_append, List.cons_append, List.cons_lt_cons_iff]
      obtain less | ⟨same, later⟩ := List.cons_lt_cons_iff.mp below
      · exact .inl less
      · exact .inr ⟨same, ih (Nat.succ.inj lengths) later⟩

/-- Units of a lower rank come first. -/
theorem unitName_lt {rank other : String} (lengths : rank.toList.length = other.toList.length)
    (below : rank < other) (stem kind stemOther kindOther : String) :
    unitName rank stem kind < unitName other stemOther kindOther := by
  rw [String.lt_iff_toList_lt] at below ⊢
  simp only [unitName, String.toList_append, List.append_assoc]
  exact append_lt_append lengths below _ _

/-! ### Units about a card -/

namespace UnitFile

/-- A unit is about the card with a hardware address, in whatever letter case. -/
def NamesCard (hwaddr : String) (file : UnitFile) : Prop :=
  ∃ own ∈ file.values "Match" "PermanentMACAddress", Hwaddr.key own = Hwaddr.key hwaddr

/-- A unit makes the address of a card random. -/
def TakesRandomAddress (file : UnitFile) : Prop := "random" ∈ file.values "Link" "MACAddressPolicy"

/-- A unit configures a device. -/
def Configures (device : String) (file : UnitFile) : Prop := device ∈ file.values "Match" "Name"

/-- A unit attaches its device to a bond, and to no bridge. -/
def Attaches (bond : String) (file : UnitFile) : Prop :=
  "bn" ++ bond ∈ file.values "Network" "Bond" ∧ file.values "Network" "Bridge" = []

instance (hwaddr : String) : DecidablePred (NamesCard hwaddr) :=
  fun _ => inferInstanceAs (Decidable (∃ own ∈ _, _))

instance : DecidablePred TakesRandomAddress :=
  fun _ => inferInstanceAs (Decidable (_ ∈ _))

instance (device : String) : DecidablePred (Configures device) :=
  fun _ => inferInstanceAs (Decidable (_ ∈ _))

end UnitFile

section Values

theorem namesCard_linkUnit_iff (rank hwaddr : String) {own : String} (random : Bool)
    (formed : Hwaddr.Formed own) :
    (linkUnit rank own random).NamesCard hwaddr ↔ Hwaddr.key own = Hwaddr.key hwaddr := by
  have told := linkUnit_told rank random formed
  have keeps := linkUnit_keeps rank own random
  simp [UnitFile.NamesCard, told.values_eq, keeps.meantValues_eq, UnitTemplate.link]

theorem takesRandomAddress_linkUnit_iff (rank : String) {own : String} (random : Bool)
    (formed : Hwaddr.Formed own) :
    (linkUnit rank own random).TakesRandomAddress ↔ random = true := by
  have told := linkUnit_told rank random formed
  have keeps := linkUnit_keeps rank own random
  cases random <;>
    simp [UnitFile.TakesRandomAddress, told.values_eq, keeps.meantValues_eq, UnitTemplate.link]

/-- The keys that attach a device to a bond or to a bridge. -/
def attachingKeys : List String := ["Bond", "Bridge"]

/-- Servers, domains and stacked VLANs attach a device to nothing. -/
theorem settingsOf_networkSettings_attaching {key : String} (attaching : key ∈ attachingKeys)
    (config : NetworkConfig) (stacked : List Vlan) :
    settingsOf (networkSettings config stacked) key = [] := by
  obtain rfl | rfl : key = "Bond" ∨ key = "Bridge" := by simpa [attachingKeys] using attaching
  all_goals
    cases dns : config.dns <;> cases ntp : config.ntp <;>
      simp [networkSettings, dns, ntp, settingsOf_ite]

/-- Addresses attach a device to nothing. -/
theorem settingsOf_addressSettings_attaching {key : String} (attaching : key ∈ attachingKeys)
    (addresses : List String) : settingsOf (addressSettings addresses) key = [] := by
  obtain rfl | rfl : key = "Bond" ∨ key = "Bridge" := by simpa [attachingKeys] using attaching
  all_goals simp [addressSettings, settingsOf_ite]

theorem valuesOf_routes {title key : String} (routes : List Route) (other : "Route" ≠ title) :
    valuesOf (routes.map routeSection) title key = [] :=
  valuesOf_eq_nil (List.forall_mem_map.mpr fun _ _ => other)

theorem valuesOf_ports {title key : String} (config : NetworkConfig) (device : String)
    (native : Option UInt16) (tags : List UInt16) (other : "BridgeVLAN" ≠ title) :
    valuesOf (portSections config device native tags) title key = [] := by
  refine valuesOf_eq_nil ?_
  simp only [portSections, List.forall_mem_append, List.forall_mem_map]
  exact ⟨fun _ _ => other, fun _ _ => other⟩

variable (config : NetworkConfig)

/-- The unit of the end that carries a device's own name attaches it to nothing. -/
theorem endNetwork_attaching {key : String} (attaching : key ∈ attachingKeys) (rank device : String)
    (addresses : List String) (routes : List Route) (policy : Option OnlinePolicy)
    (stacked : List Vlan) :
    (endNetwork config rank device addresses routes policy stacked).meantValues "Network" key =
      [] := by
  have keeps := endNetwork_keeps config rank device addresses routes policy stacked
  simp [keeps.meantValues_eq, UnitTemplate.ownEnd, matching, valuesOf_routes,
    settingsOf_networkSettings_attaching attaching, settingsOf_addressSettings_attaching attaching]

/-- The units of an interface are meant for one device each, show its name, and attach it to no
bond. -/
theorem interfaceNetworks_unbonded {interface : Interface} {file : UnitFile}
    (member : file ∈ interfaceNetworks config interface) :
    ∃ device, file.name = unitName "20" device ".network" ∧
      file.meantValues "Match" "Name" = [device] ∧ file.meantValues "Network" "Bond" = [] := by
  have carried := gather_portVlanLines config interface.name interface.vlan interface.vlanTags
  simp only [interfaceNetworks, List.mem_cons, List.not_mem_nil, or_false] at member
  obtain rfl | rfl | rfl | rfl := member
  · have keeps := endNetwork_keeps config "20" interface.name interface.addresses interface.routes
      interface.requiredForOnline (config.vlansOn interface.name)
    refine ⟨interface.name, rfl, ?_, endNetwork_attaching config (by decide) _ _ _ _ _ _⟩
    simp [keeps.meantValues_eq, UnitTemplate.ownEnd, matching, valuesOf_routes]
  · have keeps := peerNetwork_keeps carried "20" interface.name
    refine ⟨"vt" ++ interface.name, unitName_tagged "20" "vt" interface.name ".network", ?_, ?_⟩
    · simp [keeps.meantValues_eq, UnitTemplate.peerEnd, matching, valuesOf_ports]
    · simp [keeps.meantValues_eq, UnitTemplate.peerEnd, matching, valuesOf_ports]
  · have keeps := cardNetwork_keeps carried interface
    refine ⟨interface.physicalName, rfl, ?_, ?_⟩
    · simp [keeps.meantValues_eq, UnitTemplate.card, matching, valuesOf_ports]
    · simp [keeps.meantValues_eq, UnitTemplate.card, matching, valuesOf_ports]
  · have keeps := bridgeNetwork_keeps "20" interface.name
    refine ⟨"br" ++ interface.name, unitName_tagged "20" "br" interface.name ".network", ?_, ?_⟩
    · simp [keeps.meantValues_eq, UnitTemplate.bridgeItself, matching]
    · simp [keeps.meantValues_eq, UnitTemplate.bridgeItself, matching]

/-- The unit that configures the card of an interface. -/
def cardUnit (interface : Interface) : UnitFile :=
  cardNetwork interface (portVlanLines config interface.name interface.vlan interface.vlanTags)

theorem cardUnit_mem {interface : Interface} (declared : interface ∈ config.interfaces) :
    cardUnit config interface ∈ config.interfaces.flatMap (interfaceNetworks config) :=
  List.mem_flatMap.mpr ⟨interface, declared, by simp [interfaceNetworks, cardUnit]⟩

theorem cardUnit_name (interface : Interface) :
    (cardUnit config interface).name = unitName "20" interface.physicalName ".network" := rfl

theorem cardUnit_values (interface : Interface) :
    (cardUnit config interface).meantValues "Match" "Name" = [interface.physicalName] ∧
      (cardUnit config interface).meantValues "Network" "Bridge" = ["br" ++ interface.name] := by
  have carried := gather_portVlanLines config interface.name interface.vlan interface.vlanTags
  have keeps := cardNetwork_keeps carried interface
  simp [cardUnit, keeps.meantValues_eq, UnitTemplate.card, matching, valuesOf_ports]

theorem memberNetwork_values {bond : Bond} {index : Nat} {hwaddr : String}
    (told : (memberNetwork bond index hwaddr).Told) :
    (memberNetwork bond index hwaddr).Configures (Hwaddr.deviceName hwaddr) ∧
      (memberNetwork bond index hwaddr).Attaches bond.name := by
  have keeps := memberNetwork_keeps bond index hwaddr
  simp [UnitFile.Configures, UnitFile.Attaches, told.values_eq, keeps.meantValues_eq,
    UnitTemplate.member, matching]

/-- The units that configure the devices of bonds and VLANs come after those of interfaces. -/
theorem interfaceNetwork_lt (stem : String) :
    ∀ file ∈ config.bonds.flatMap (bondNetworks config) ++ config.vlans.map (vlanNetwork config),
      unitName "20" stem ".network" < file.name := by
  simp only [List.forall_mem_append, List.forall_mem_map, List.forall_mem_flatMap]
  constructor
  · intro bond _ file member
    have named : file.name ∈ (bondNetworks config bond).map (·.name) := List.mem_map_of_mem member
    rw [bondNetworks_names] at named
    obtain ⟨other, _, same⟩ := List.mem_map.mp named
    rw [← same]
    exact unitName_lt (by decide) (by decide) _ _ _ _
  · intro vlan _
    exact unitName_lt (by decide) (by decide) _ _ _ ".network"

end Values

/-! ### The units of a member -/

namespace NetworkConfig

/-- **The card of a member keeps its address**: the unit that is used for it does not make it random. -/
def CardKept (config : NetworkConfig) (member : String) : Prop :=
  Used (config.unitsOfKind ".link") (UnitFile.NamesCard member) (¬ ·.TakesRandomAddress)

/-- **The card of a member joins its bond**: the unit that is used for it attaches it to the bond, and
to no bridge. -/
def CardJoins (config : NetworkConfig) (bond : Bond) (member : String) : Prop :=
  Used (config.unitsOfKind ".network") (UnitFile.Configures (Hwaddr.deviceName member))
    (UnitFile.Attaches bond.name)

/-- **The unit of the interface is used in place of that which keeps the address**: the card of the
member takes a random address, although there is a unit that does not make it random. -/
structure AddressOverruled (config : NetworkConfig) (member : String) : Prop where
  random : Used (config.unitsOfKind ".link") (UnitFile.NamesCard member) UnitFile.TakesRandomAddress
  meant_kept : ∃ file ∈ config.unitsOfKind ".link", file.NamesCard member ∧ ¬ file.TakesRandomAddress

/-- **The unit of the interface is used in place of that of the bond**: what configures the card of the
member attaches it to no bond, and a unit of the interface that comes first makes it a port of the
interface's bridge, although there is a unit that attaches it to the bond. -/
structure BondOverruled (config : NetworkConfig) (bond : Bond) (member : String) : Prop where
  unattached : Used (config.unitsOfKind ".network") (UnitFile.Configures (Hwaddr.deviceName member))
    (·.values "Network" "Bond" = [])
  bridged : ∃ interface ∈ config.interfaces, ∃ file,
    IsFirst (config.unitsOfKind ".network") (UnitFile.Configures (Hwaddr.deviceName member)) file ∧
      file.values "Network" "Bridge" = ["br" ++ interface.name]
  meant_attached : ∃ file ∈ config.unitsOfKind ".network",
    file.Configures (Hwaddr.deviceName member) ∧ file.Attaches bond.name

variable {config : NetworkConfig}

theorem AddressOverruled.not_kept {member : String} (overruled : config.AddressOverruled member) :
    ¬ config.CardKept member := by
  intro kept
  obtain ⟨file, first⟩ := overruled.random.found
  exact kept.each file first (overruled.random.each file first)

theorem BondOverruled.not_joins {bond : Bond} {member : String}
    (overruled : config.BondOverruled bond member) : ¬ config.CardJoins bond member := by
  intro joins
  obtain ⟨file, first⟩ := overruled.unattached.found
  have attached := (joins.each file first).1
  rw [overruled.unattached.each file first] at attached
  cases attached

/-- The units that a member is given are written. -/
theorem memberLink_mem {bond : Bond} (declared : bond ∈ config.bonds) {member : String}
    (claims : member ∈ bond.members) :
    linkUnit "01" member false ∈ config.unitsOfKind ".link" := by
  rw [unitsOfKind_link, linkUnits]
  exact List.mem_append_right _
    (List.mem_map_of_mem (List.mem_flatMap.mpr ⟨bond, declared, claims⟩))

theorem memberNetwork_mem {bond : Bond} (declared : bond ∈ config.bonds) {index : Nat}
    (within : index < bond.members.length) :
    memberNetwork bond index bond.members[index] ∈ config.unitsOfKind ".network" := by
  have inside : memberNetwork bond index bond.members[index] ∈ bondNetworks config bond :=
    List.mem_append_right _ (List.mem_mapIdx.mpr ⟨index, within, rfl⟩)
  rw [unitsOfKind_network, networkUnits]
  exact List.mem_append_left _
    (List.mem_append_right _ (List.mem_flatMap.mpr ⟨bond, declared, inside⟩))

section Links

variable {interface : Interface}

/-- Of the units that name the card of an interface, the one that makes its address random is used. -/
theorem link_used (rules : config.WellFormed) (declared : interface ∈ config.interfaces)
    {member : String} (same : Hwaddr.key interface.hwaddr = Hwaddr.key member) :
    Used (config.unitsOfKind ".link") (UnitFile.NamesCard member) UnitFile.TakesRandomAddress := by
  have formed := rules.hwaddrs_formed
  rw [unitsOfKind_link, linkUnits]
  refine .of_front (List.mem_map_of_mem declared)
    ((namesCard_linkUnit_iff _ _ _ (formed interface declared)).mpr same) ?_ ?_ ?_
  -- A second interface with this address would have a unit of the same name; the check rules it out,
  -- but nothing here depends on that.
  · simp only [List.forall_mem_map]
    intro other inside fits
    have sameOther := (namesCard_linkUnit_iff _ _ _ (formed other inside)).mp fits
    have names : Hwaddr.deviceName other.hwaddr = Hwaddr.deviceName interface.hwaddr :=
      Hwaddr.deviceName_eq_of_key_eq (sameOther.trans same.symm)
    simp only [linkUnit, names]
  · simp only [List.forall_mem_map]
    exact fun _ _ => unitName_lt (by decide) (by decide) _ ".link" _ ".link"
  · simp only [List.forall_mem_map]
    exact fun other inside _ =>
      (takesRandomAddress_linkUnit_iff _ _ (formed other inside)).mpr rfl

/-- The card of a member takes a random address. -/
theorem addressOverruled (rules : config.WellFormed) (inside : interface ∈ config.interfaces)
    {bond : Bond} (declared : bond ∈ config.bonds) {member : String} (claims : member ∈ bond.members)
    (same : Hwaddr.key interface.hwaddr = Hwaddr.key member) : config.AddressOverruled member := by
  have formed := rules.members_formed member (List.mem_flatMap.mpr ⟨bond, declared, claims⟩)
  refine ⟨link_used rules inside same, _, memberLink_mem declared claims, ?_, ?_⟩
  · exact (namesCard_linkUnit_iff _ _ _ formed).mpr rfl
  · rw [takesRandomAddress_linkUnit_iff _ _ formed]
    exact Bool.false_ne_true

end Links

section Networks

-- The units of interfaces come first, and it is their texts that count.
variable {interface : Interface}
  (told : ∀ file ∈ config.interfaces.flatMap (interfaceNetworks config), file.Told)

include told

theorem cardUnit_configures (declared : interface ∈ config.interfaces) :
    (cardUnit config interface).Configures interface.physicalName := by
  rw [UnitFile.Configures, (told _ (cardUnit_mem config declared)).values_eq,
    (cardUnit_values config interface).1]
  exact List.mem_singleton_self _

/-- The units of interfaces that configure a card share the name of the unit that is meant to. -/
theorem name_of_configures {file : UnitFile}
    (member : file ∈ config.interfaces.flatMap (interfaceNetworks config))
    (configures : file.Configures interface.physicalName) :
    file.name = (cardUnit config interface).name ∧ file.values "Network" "Bond" = [] := by
  have own := told file member
  obtain ⟨other, _, inside⟩ := List.mem_flatMap.mp member
  obtain ⟨device, named, about, unbonded⟩ := interfaceNetworks_unbonded config inside
  rw [UnitFile.Configures, own.values_eq, about, List.mem_singleton] at configures
  rw [named, cardUnit_name, ← configures, own.values_eq]
  exact ⟨rfl, unbonded⟩

/-- Of the units that configure the card of an interface, one that attaches it to no bond is used. -/
theorem network_used (declared : interface ∈ config.interfaces) :
    Used (config.unitsOfKind ".network") (UnitFile.Configures interface.physicalName)
      (·.values "Network" "Bond" = []) := by
  rw [unitsOfKind_network, networkUnits, List.append_assoc]
  exact .of_front (cardUnit_mem config declared) (cardUnit_configures told declared)
    (fun _ member configures => (name_of_configures told member configures).1)
    (interfaceNetwork_lt config interface.physicalName)
    fun _ member configures => (name_of_configures told member configures).2

/-- The unit of an interface's card is first among those that configure it. -/
theorem cardUnit_isFirst (declared : interface ∈ config.interfaces) :
    IsFirst (config.unitsOfKind ".network") (UnitFile.Configures interface.physicalName)
      (cardUnit config interface) := by
  rw [unitsOfKind_network, networkUnits, List.append_assoc]
  exact .of_front (cardUnit_mem config declared) (cardUnit_configures told declared)
    (fun _ member configures => (name_of_configures told member configures).1)
    (interfaceNetwork_lt config interface.physicalName)

end Networks

/-- The card of a member does not join the bond. -/
theorem bondOverruled {interface : Interface} (inside : interface ∈ config.interfaces) {bond : Bond}
    (declared : bond ∈ config.bonds) {member : String} (claims : member ∈ bond.members)
    (named : interface.physicalName = Hwaddr.deviceName member)
    (told : ∀ file ∈ config.unitsOfKind ".network", file.Told) : config.BondOverruled bond member := by
  have front : ∀ file ∈ config.interfaces.flatMap (interfaceNetworks config), file.Told := by
    intro file early
    refine told file ?_
    rw [unitsOfKind_network, networkUnits, List.append_assoc]
    exact List.mem_append_left _ early
  obtain ⟨index, within, rfl⟩ := List.mem_iff_getElem.mp claims
  have attached := memberNetwork_mem declared within
  refine ⟨named ▸ network_used front inside, ⟨interface, inside, cardUnit config interface,
    named ▸ cardUnit_isFirst front inside, ?_⟩, _, attached, memberNetwork_values (told _ attached)⟩
  rw [(front _ (cardUnit_mem config inside)).values_eq]
  exact (cardUnit_values config interface).2

theorem WellFormed.member_overruled (rules : config.WellFormed) {bond : Bond}
    (declared : bond ∈ config.bonds) {member : String} (claims : member ∈ bond.members) :
    config.AddressOverruled member ∧ (config.Unbroken → config.BondOverruled bond member) := by
  obtain ⟨interface, inside, same⟩ :=
    rules.members_declared member (List.mem_flatMap.mpr ⟨bond, declared, claims⟩)
  have named : interface.physicalName = Hwaddr.deviceName member :=
    Hwaddr.deviceName_eq_of_key_eq same
  exact ⟨addressOverruled rules inside declared claims same, fun unbroken =>
    bondOverruled inside declared claims named (rules.networks_told unbroken)⟩

/-- **For each member of a bond of a configuration that passes the check, the units of the interface are
used in place of those of the member.** The card never keeps its address; and it does not join the
bond, if the names of the devices, the search domains and the servers are one line each. -/
theorem members_overruled (passed : config.validate = .ok ()) {bond : Bond}
    (declared : bond ∈ config.bonds) {member : String} (claims : member ∈ bond.members) :
    config.AddressOverruled member ∧ (config.Unbroken → config.BondOverruled bond member) :=
  (WellFormed.of_validate passed).member_overruled declared claims

theorem bonded_member_overruled :
    bonded.validate = .ok () ∧ ∃ bond ∈ bonded.bonds, "AA:00:00:00:00:02" ∈ bond.members ∧
      bonded.AddressOverruled "AA:00:00:00:00:02" ∧
        bonded.BondOverruled bond "AA:00:00:00:00:02" := by
  have passed : bonded.validate = .ok () := by decide +kernel
  have unbroken : bonded.Unbroken := ⟨by decide +kernel, fun _ => ⟨nofun, nofun, nofun⟩⟩
  obtain ⟨address, joined⟩ := members_overruled passed (List.mem_singleton_self _)
    (by decide : "AA:00:00:00:00:02" ∈ _)
  exact ⟨passed, _, List.mem_singleton_self _, by decide, address, joined unbroken⟩

/-- The card of the first member takes a random address and does not join the bond. -/
theorem bonded_member_not_joined :
    bonded.validate = .ok () ∧ ∃ bond ∈ bonded.bonds, "aa:00:00:00:00:01" ∈ bond.members ∧
      ¬ bonded.CardKept "aa:00:00:00:00:01" ∧ ¬ bonded.CardJoins bond "aa:00:00:00:00:01" := by
  have passed : bonded.validate = .ok () := by decide +kernel
  have unbroken : bonded.Unbroken := ⟨by decide +kernel, fun _ => ⟨nofun, nofun, nofun⟩⟩
  obtain ⟨address, joined⟩ := (WellFormed.of_validate passed).member_overruled
    (List.mem_singleton_self _) (by decide : "aa:00:00:00:00:01" ∈ _)
  exact ⟨passed, _, List.mem_singleton_self _, by decide, address.not_kept,
    (joined unbroken).not_joins⟩

end NetworkConfig

end HostNet
