/-
**When the units of a configuration can be read back.**

A unit is read back as it was meant if no text that it takes from the configuration holds a line
feed. The check of a configuration sees to that for hardware addresses, addresses and routes, because
it takes them apart. It does not look into the names of devices, search domains and servers.

* `templates_legible`: the keys of all units are such that a reader finds their ends;
* `NetworkConfig.Unbroken`: the names, domains and servers of a configuration are one line each;
* `WellFormed.templates_unbroken_iff`: the values of the units are one line each exactly if these are;
* `NetworkConfig.units_read_iff_unbroken`: a configuration that passes the check has units that say
  what they should exactly if these are.
-/

import HostNet.Proofs.Address
import HostNet.Proofs.Unit.Template
import HostNet.Proofs.Validation.WellFormed

namespace HostNet

open HostNet.Text UnitLine UnitSection

/-! ### Settings -/

/-- Something holds of the line of each of some settings. -/
def AllSettings (holds : UnitLine → Prop) (settings : UnitSettings) : Prop :=
  ∀ setting ∈ settings, holds (settingLine setting)

section AllSettings

variable {holds : UnitLine → Prop} {settings : UnitSettings}

@[simp] theorem allSettings_nil : AllSettings holds [] := nofun

@[simp] theorem allSettings_cons {setting : String × String} :
    AllSettings holds (setting :: settings) ↔
      holds (.setting setting.1 setting.2) ∧ AllSettings holds settings :=
  List.forall_mem_cons

@[simp] theorem allSettings_append {others : UnitSettings} :
    AllSettings holds (settings ++ others) ↔ AllSettings holds settings ∧ AllSettings holds others :=
  List.forall_mem_append

@[simp] theorem allSettings_map {α : Type} {items : List α} {setting : α → String × String} :
    AllSettings holds (items.map setting) ↔ ∀ item ∈ items, holds (settingLine (setting item)) :=
  List.forall_mem_map

/-- What may be said about the addresses of a device without an entry. -/
def addressingWords : UnitSettings :=
  [("LinkLocalAddressing", "no"), ("LinkLocalAddressing", "ipv6"), ("ConfigureWithoutCarrier", "yes"),
    ("IPv6AcceptRA", "true"), ("IPv6AcceptRA", "false"),
    ("DHCP", "yes"), ("DHCP", "ipv4"), ("DHCP", "ipv6")]

/-- Something holds of how a device gets its addresses if it holds of all that is said without an
entry and of the line of each entry. -/
theorem allSettings_addressSettings {addresses : List String}
    (words : AllSettings holds addressingWords)
    (entries : ∀ entry ∈ addresses, holds (.setting "Address" entry)) :
    AllSettings holds (addressSettings addresses) := by
  simp only [addressingWords, allSettings_cons, allSettings_nil, and_true] at words
  unfold addressSettings
  simp only [allSettings_append, allSettings_map]
  refine ⟨⟨⟨?_, fun entry literal => entries entry (List.mem_filter.mp literal).1⟩, ?_⟩, ?_⟩
  · split <;> simp [words]
  · split <;> simp [words]
  · split
    · simp [words]
    · split
      · simp [words]
      · split <;> simp [words]

end AllSettings

/-! ### Texts of one line -/

theorem oneLine_toString (number : Nat) : OneLine (toString number) :=
  fun inside => absurd (isDigit_of_mem_toString inside) (by decide)

theorem Hwaddr.Formed.oneLine {hwaddr : String} (formed : Hwaddr.Formed hwaddr) : OneLine hwaddr :=
  fun inside => absurd (formed.mem inside) (by decide)

theorem Hwaddr.Formed.oneLine_deviceName {hwaddr : String} (formed : Hwaddr.Formed hwaddr) :
    OneLine (Hwaddr.deviceName hwaddr) :=
  fun inside => absurd (formed.mem_deviceName inside) (by decide)

theorem oneLine_of_isAddressPrefix {value : String} (accepted : isAddressPrefix value = true) :
    OneLine value :=
  fun inside => absurd (isAddressPrefix_written accepted _ inside) (by
    unfold IsAddressCharacter
    decide)

theorem AddressAllowed.oneLine {entry : String} (allowed : AddressAllowed entry) : OneLine entry := by
  obtain rfl | rfl | rfl | accepted := allowed
  · decide
  · decide
  · decide
  · exact oneLine_of_isAddressPrefix accepted

/-- The section of a route that the check lets pass is unbroken. -/
theorem RouteAllowed.unbroken {route : Route} (allowed : RouteAllowed route) :
    (routeSection route).Unbroken := by
  obtain ⟨destination, via⟩ := allowed
  have whole : OneLine route.via := by
    obtain word | word | ⟨address, read⟩ := via
    · rw [word]
      decide
    · rw [word]
      decide
    · exact fun inside => absurd (IpAddr.parse?_written read _ inside) (by
        unfold IsAddressCharacter
        decide)
  have gateway : OneLine (if route.via = "dhcp4" then "_dhcp4"
      else if route.via = "slaac" then "_ipv6ra" else route.via) := by
    split
    · decide
    · split
      · decide
      · exact whole
  simp [UnitSection.Unbroken, routeSection, gateway, oneLine_of_isAddressPrefix destination]

/-- Joined texts are one line exactly if each of them is. -/
theorem oneLine_joinWith_iff (texts : List String) :
    OneLine (joinWith " " texts) ↔ ∀ text ∈ texts, OneLine text := by
  induction texts with
  | nil => simp [joinWith, OneLine]
  | cons text texts ih =>
    have blank : OneLine " " := by decide
    cases texts with
    | nil => simp [joinWith]
    | cons next others =>
      rw [joinWith, List.forall_mem_cons, ← ih]
      · simp [blank]
      · exact List.cons_ne_nil next others

/-! ### Legible templates -/

/-- The titles and the keys of a template are such that a reader finds their ends. -/
def UnitTemplate.Legible (template : UnitTemplate) : Prop :=
  ∀ part ∈ template.sections, part.Each UnitLine.Legible

@[simp] theorem legible_setting_iff {key value : String} :
    UnitLine.Legible (.setting key value) ↔ LegibleKey key := Iff.rfl

@[simp] theorem legible_settingLine_iff {setting : String × String} :
    UnitLine.Legible (settingLine setting) ↔ LegibleKey setting.1 := Iff.rfl

@[simp] theorem legible_section_iff {title : String} {settings : UnitSettings} :
    Each UnitLine.Legible ⟨title, settings⟩ ↔
      OneLine title ∧ AllSettings UnitLine.Legible settings := Iff.rfl

theorem onlineSettings_legible (addresses : List String) (policy : Option OnlinePolicy) :
    AllSettings UnitLine.Legible (onlineSettings addresses policy) := by
  unfold onlineSettings
  split <;> simp +decide

theorem networkSettings_legible (config : NetworkConfig) (stacked : List Vlan) :
    AllSettings UnitLine.Legible (networkSettings config stacked) := by
  have domains : ∀ dns : Dns, AllSettings UnitLine.Legible (if dns.searchDomains = [] then []
      else [("Domains", joinWith " " dns.searchDomains)]) := by
    intro dns
    split <;> simp +decide
  unfold networkSettings
  cases config.dns <;> cases config.ntp <;> simp +decide [domains]

theorem addressSettings_legible (addresses : List String) :
    AllSettings UnitLine.Legible (addressSettings addresses) := by
  have key : LegibleKey "Address" := by decide
  exact allSettings_addressSettings (by simp +decide [addressingWords]) fun _ _ => key

theorem routeSections_legible (routes : List Route) :
    ∀ part ∈ routes.map routeSection, part.Each UnitLine.Legible := by
  simp +decide [routeSection]

theorem portSections_legible (config : NetworkConfig) (device : String) (native : Option UInt16)
    (tags : List UInt16) :
    ∀ part ∈ portSections config device native tags, part.Each UnitLine.Legible := by
  simp only [portSections, List.forall_mem_append, List.forall_mem_map]
  simp +decide

theorem newDevice_legible {name kind : String} {more : UnitSettings} (mtu : Option UInt32)
    (others : AllSettings UnitLine.Legible more) :
    (newDevice name kind more mtu).Each UnitLine.Legible := by
  simp +decide [newDevice, others]

theorem matching_legible (name : String) : (matching name).Each UnitLine.Legible := by
  simp +decide [matching]

namespace UnitTemplate

theorem link_legible (rank hwaddr : String) {random : UnitSettings}
    (legible : AllSettings UnitLine.Legible random) : (link rank hwaddr random).Legible := by
  simp +decide [Legible, link, legible]

theorem bridge_legible (rank device : String) (mtu : Option UInt32) :
    (bridge rank device mtu).Legible := by
  simp +decide [Legible, bridge, newDevice_legible]

theorem pair_legible (rank device hwaddr : String) (mtu : Option UInt32) :
    (pair rank device hwaddr mtu).Legible := by
  simp +decide [Legible, pair, newDevice_legible]

theorem bond_legible (bond : Bond) : (UnitTemplate.bond bond).Legible := by
  simp +decide [Legible, UnitTemplate.bond, newDevice_legible]

theorem vlan_legible (vlan : Vlan) : (UnitTemplate.vlan vlan).Legible := by
  simp +decide [Legible, UnitTemplate.vlan, newDevice_legible]

theorem ownEnd_legible (config : NetworkConfig) (rank device : String) (addresses : List String)
    (routes : List Route) (policy : Option OnlinePolicy) (stacked : List Vlan) :
    (ownEnd config rank device addresses routes policy stacked).Legible := by
  rw [Legible, ownEnd, List.forall_mem_append, and_iff_left (routeSections_legible routes)]
  simp +decide [matching_legible, onlineSettings_legible, networkSettings_legible,
    addressSettings_legible]

theorem ofInterface_legible (config : NetworkConfig) (interface : Interface) :
    ∀ template ∈ ofInterface config interface, template.Legible := by
  have ports := portSections_legible config interface.name interface.vlan interface.vlanTags
  simp only [ofInterface, List.forall_mem_cons, ownEnd_legible, true_and]
  simpa +decide [Legible, peerEnd, card, bridgeItself, matching_legible] using ports

theorem ofBond_legible (config : NetworkConfig) (bond : Bond) :
    ∀ template ∈ ofBond config bond, template.Legible := by
  have ports := portSections_legible config bond.name bond.vlan bond.vlanTags
  have members : ∀ template ∈ bond.members.mapIdx (member bond), template.Legible := by
    intro template inside
    obtain ⟨index, _, rfl⟩ := List.mem_mapIdx.mp inside
    simp +decide [Legible, member, matching_legible]
  rw [ofBond, List.forall_mem_append, and_iff_left members]
  simp only [List.forall_mem_cons, ownEnd_legible, true_and]
  simpa +decide [Legible, peerEnd, bondPort, bridgeItself, matching_legible] using ports

end UnitTemplate

open UnitTemplate in
/-- **The units of a configuration are legible**, whatever the configuration says. -/
theorem templates_legible (config : NetworkConfig) :
    ∀ template ∈ config.templates, template.Legible := by
  simp only [NetworkConfig.templates, List.forall_mem_append, List.forall_mem_map,
    List.forall_mem_flatMap, List.forall_mem_cons]
  simp +decide [link_legible, bridge_legible, pair_legible, bond_legible, vlan_legible, ownEnd_legible]
  exact ⟨fun interface _ => ofInterface_legible config interface,
    fun bond _ => ofBond_legible config bond⟩

/-! ### Unbroken templates -/

@[simp] theorem unbroken_setting_iff {key value : String} :
    UnitLine.Unbroken (.setting key value) ↔ OneLine value := Iff.rfl

@[simp] theorem unbroken_settingLine_iff {setting : String × String} :
    UnitLine.Unbroken (settingLine setting) ↔ OneLine setting.2 := Iff.rfl

@[simp] theorem unbroken_section_iff {title : String} {settings : UnitSettings} :
    UnitSection.Unbroken ⟨title, settings⟩ ↔ AllSettings UnitLine.Unbroken settings := Iff.rfl

/-- The values of a template are one line each. -/
def UnitTemplate.Unbroken (template : UnitTemplate) : Prop :=
  ∀ part ∈ template.sections, part.Unbroken

/-- The search domains and the servers are one line each. -/
structure NetworkConfig.ServersUnbroken (config : NetworkConfig) : Prop where
  domains : ∀ dns, config.dns = some dns → ∀ domain ∈ dns.searchDomains, OneLine domain
  nameservers : ∀ dns, config.dns = some dns → ∀ server ∈ dns.nameservers, OneLine server
  timeservers : ∀ ntp, config.ntp = some ntp → ∀ server ∈ ntp.timeservers, OneLine server

theorem onlineSettings_whole (addresses : List String) (policy : Option OnlinePolicy) :
    AllSettings UnitLine.Unbroken (onlineSettings addresses policy) := by
  have family : OneLine (policy.getD .any).text := by
    cases policy.getD .any <;> decide
  unfold onlineSettings
  split <;> simp +decide [family]

theorem addressSettings_whole {addresses : List String}
    (allowed : ∀ entry ∈ addresses, AddressAllowed entry) :
    AllSettings UnitLine.Unbroken (addressSettings addresses) :=
  allSettings_addressSettings (by simp +decide [addressingWords]) fun entry inside =>
    (allowed entry inside).oneLine

theorem networkSettings_whole_iff (config : NetworkConfig) (stacked : List Vlan) :
    AllSettings UnitLine.Unbroken (networkSettings config stacked) ↔
      (∀ vlan ∈ stacked, OneLine vlan.name) ∧ config.ServersUnbroken := by
  have domains : ∀ dns : Dns, AllSettings UnitLine.Unbroken (if dns.searchDomains = [] then []
        else [("Domains", joinWith " " dns.searchDomains)]) ↔
      ∀ domain ∈ dns.searchDomains, OneLine domain := by
    intro dns
    rw [← oneLine_joinWith_iff]
    split
    · rename_i none
      simp [none, joinWith, OneLine]
    · simp
  have dns : AllSettings UnitLine.Unbroken (config.dns.toList.flatMap fun dns =>
        (if dns.searchDomains = [] then [] else [("Domains", joinWith " " dns.searchDomains)]) ++
          dns.nameservers.map fun server => ("DNS", server)) ↔
      ∀ dns, config.dns = some dns → (∀ domain ∈ dns.searchDomains, OneLine domain) ∧
        ∀ server ∈ dns.nameservers, OneLine server := by
    cases config.dns <;> simp [domains]
  have ntp : AllSettings UnitLine.Unbroken (config.ntp.toList.flatMap fun ntp =>
        ntp.timeservers.map fun server => ("NTP", server)) ↔
      ∀ ntp, config.ntp = some ntp → ∀ server ∈ ntp.timeservers, OneLine server := by
    cases config.ntp <;> simp
  unfold networkSettings
  rw [allSettings_append, allSettings_append, allSettings_map, dns, ntp, and_assoc]
  refine and_congr_right fun _ => ⟨?_, fun servers => ⟨fun found same => ?_, ?_⟩⟩
  · rintro ⟨names, times⟩
    exact ⟨fun dns found => (names dns found).1, fun dns found => (names dns found).2, times⟩
  · exact ⟨servers.domains found same, servers.nameservers found same⟩
  · exact servers.timeservers

theorem portSections_unbroken (config : NetworkConfig) (device : String) (native : Option UInt16)
    (tags : List UInt16) : ∀ part ∈ portSections config device native tags, part.Unbroken := by
  simp only [portSections, List.forall_mem_append, List.forall_mem_map, unbroken_section_iff,
    allSettings_cons, unbroken_setting_iff, allSettings_nil, oneLine_toString, implies_true, and_true]

@[simp] theorem matching_unbroken_iff (name : String) : (matching name).Unbroken ↔ OneLine name := by
  simp [matching]

theorem newDevice_unbroken_iff {name kind : String} {more : UnitSettings} (mtu : Option UInt32)
    (whole : OneLine kind) (others : AllSettings UnitLine.Unbroken more) :
    (newDevice name kind more mtu).Unbroken ↔ OneLine name := by
  simp only [newDevice, unbroken_section_iff, allSettings_append, allSettings_cons,
    unbroken_setting_iff, allSettings_nil, allSettings_map, unbroken_settingLine_iff,
    oneLine_toString, whole, others, implies_true, and_true]

theorem tags_oneLine : OneLine "br" ∧ OneLine "vt" ∧ OneLine "bn" := by decide

theorem flag_oneLine (value : Bool) : OneLine (UnitLine.flag value) := by
  cases value <;> decide

namespace UnitTemplate

variable {config : NetworkConfig} {rank device hwaddr : String} {ports : List UnitSection}

theorem link_unbroken (formed : Hwaddr.Formed hwaddr) {random : UnitSettings}
    (whole : AllSettings UnitLine.Unbroken random) : (link rank hwaddr random).Unbroken := by
  have empty : OneLine "" := by decide
  simp [Unbroken, link, formed.oneLine, formed.oneLine_deviceName, whole, empty]

theorem bridge_unbroken_iff (mtu : Option UInt32) :
    (bridge rank device mtu).Unbroken ↔ OneLine device := by
  have kind : OneLine "bridge" ∧ OneLine "true" := by decide
  simp [Unbroken, bridge, newDevice_unbroken_iff mtu kind.1 allSettings_nil, tags_oneLine, kind]

theorem pair_unbroken_iff (mtu : Option UInt32) (whole : OneLine hwaddr) :
    (pair rank device hwaddr mtu).Unbroken ↔ OneLine device := by
  have kind : OneLine "veth" := by decide
  have address : AllSettings UnitLine.Unbroken [("MACAddress", hwaddr)] := by simpa using whole
  simp [Unbroken, pair, newDevice_unbroken_iff mtu kind address, tags_oneLine]

theorem bond_unbroken_iff (bond : Bond) : (UnitTemplate.bond bond).Unbroken ↔ OneLine bond.name := by
  have kind : OneLine "bond" := by decide
  have mode : OneLine bond.mode.text := by cases bond.mode <;> decide
  simp [Unbroken, UnitTemplate.bond, newDevice_unbroken_iff bond.mtu kind allSettings_nil,
    tags_oneLine, mode]

theorem vlan_unbroken_iff (vlan : Vlan) : (UnitTemplate.vlan vlan).Unbroken ↔ OneLine vlan.name := by
  have kind : OneLine "vlan" := by decide
  simp only [Unbroken, UnitTemplate.vlan, List.forall_mem_cons, List.not_mem_nil, false_implies,
    implies_true, and_true, newDevice_unbroken_iff vlan.mtu kind allSettings_nil,
    unbroken_section_iff, allSettings_cons, unbroken_setting_iff, allSettings_nil, oneLine_toString]

theorem ownEnd_unbroken_iff {addresses : List String} {routes : List Route}
    (policy : Option OnlinePolicy) (stacked : List Vlan)
    (addressesAllowed : ∀ entry ∈ addresses, AddressAllowed entry)
    (routesAllowed : ∀ route ∈ routes, RouteAllowed route) :
    (ownEnd config rank device addresses routes policy stacked).Unbroken ↔
      OneLine device ∧ (∀ vlan ∈ stacked, OneLine vlan.name) ∧ config.ServersUnbroken := by
  have dhcp : OneLine "mac" ∧ OneLine "100" ∧ OneLine "true" := by decide
  have paths : ∀ part ∈ routes.map routeSection, part.Unbroken :=
    List.forall_mem_map.mpr fun route inside => (routesAllowed route inside).unbroken
  rw [Unbroken, ownEnd, List.forall_mem_append, and_iff_left paths]
  simp [onlineSettings_whole, networkSettings_whole_iff, addressSettings_whole addressesAllowed, dhcp]

theorem peerEnd_unbroken_iff (whole : ∀ part ∈ ports, part.Unbroken) :
    (peerEnd rank device ports).Unbroken ↔ OneLine device := by
  rw [Unbroken, peerEnd, List.forall_mem_append, and_iff_left whole]
  simp [tags_oneLine]

theorem bridgeItself_unbroken_iff : (bridgeItself rank device).Unbroken ↔ OneLine device := by
  have words : OneLine "no" ∧ OneLine "yes" := by decide
  simp [Unbroken, bridgeItself, words, tags_oneLine]

theorem card_unbroken_iff {interface : Interface} (formed : Hwaddr.Formed interface.hwaddr)
    (whole : ∀ part ∈ ports, part.Unbroken) :
    (card interface ports).Unbroken ↔ OneLine interface.name := by
  have named : OneLine interface.physicalName := formed.oneLine_deviceName
  rw [Unbroken, card, List.forall_mem_append, and_iff_left whole]
  simp [tags_oneLine, flag_oneLine, named]

theorem bondPort_unbroken_iff {bond : Bond} (whole : ∀ part ∈ ports, part.Unbroken) :
    (bondPort bond ports).Unbroken ↔ OneLine bond.name := by
  have words : OneLine "no" ∧ OneLine "yes" := by decide
  rw [Unbroken, bondPort, List.forall_mem_append, and_iff_left whole]
  simp [tags_oneLine, words]

theorem member_unbroken_iff {bond : Bond} (index : Nat) (formed : Hwaddr.Formed hwaddr) :
    (member bond index hwaddr).Unbroken ↔ OneLine bond.name := by
  simp [Unbroken, member, tags_oneLine, flag_oneLine, formed.oneLine_deviceName]

/-- The units about the addresses and ports of an interface are unbroken exactly if its name, the
names of the VLANs on it, and the servers are. -/
theorem ofInterface_unbroken_iff {interface : Interface} (formed : Hwaddr.Formed interface.hwaddr)
    (allowed : DeviceAllowed interface.mtu interface.addresses interface.routes) :
    (∀ template ∈ ofInterface config interface, template.Unbroken) ↔
      OneLine interface.name ∧ (∀ vlan ∈ config.vlansOn interface.name, OneLine vlan.name) ∧
        config.ServersUnbroken := by
  have ports := portSections_unbroken config interface.name interface.vlan interface.vlanTags
  simp only [ofInterface, List.forall_mem_cons, List.not_mem_nil, false_implies, implies_true,
    and_true, ownEnd_unbroken_iff _ _ allowed.addresses allowed.routes, peerEnd_unbroken_iff ports,
    card_unbroken_iff formed ports, bridgeItself_unbroken_iff]
  exact ⟨fun ⟨user, _⟩ => user, fun user => ⟨user, user.1, user.1, user.1⟩⟩

/-- The same for a bond. -/
theorem ofBond_unbroken_iff {bond : Bond} (members : ∀ hwaddr ∈ bond.members, Hwaddr.Formed hwaddr)
    (allowed : DeviceAllowed bond.mtu bond.addresses bond.routes) :
    (∀ template ∈ ofBond config bond, template.Unbroken) ↔
      OneLine bond.name ∧ (∀ vlan ∈ config.vlansOn bond.name, OneLine vlan.name) ∧
        config.ServersUnbroken := by
  have ports := portSections_unbroken config bond.name bond.vlan bond.vlanTags
  have joined : OneLine bond.name →
      ∀ template ∈ bond.members.mapIdx (member bond), template.Unbroken := by
    intro whole template inside
    obtain ⟨index, bound, rfl⟩ := List.mem_mapIdx.mp inside
    exact (member_unbroken_iff index (members _ (List.getElem_mem bound))).mpr whole
  simp only [ofBond, List.forall_mem_append, List.forall_mem_cons, List.not_mem_nil, false_implies,
    implies_true, and_true, ownEnd_unbroken_iff _ _ allowed.addresses allowed.routes,
    peerEnd_unbroken_iff ports, bondPort_unbroken_iff ports, bridgeItself_unbroken_iff]
  exact ⟨fun ⟨⟨user, _⟩, _⟩ => user,
    fun user => ⟨⟨user, user.1, user.1, user.1⟩, joined user.1⟩⟩

end UnitTemplate

/-! ### Unbroken configurations -/

/-- The sections of a unit are read back exactly if its template is unbroken. -/
theorem Keeps.read_iff {template : UnitTemplate} {file : UnitFile} (keeps : Keeps template file)
    (legible : template.Legible) :
    (file.name, readUnit? file.contents) = (template.name, some template.sections) ↔
      template.Unbroken := by
  rw [keeps.named, Prod.mk.injEq, and_iff_right rfl]
  exact readUnit?_render_iff legible keeps.gathered

namespace NetworkConfig

/-- **The texts of a configuration that the check does not look into are one line each.** The domains
and the servers matter as soon as there is a device. -/
structure Unbroken (config : NetworkConfig) : Prop where
  names : ∀ name ∈ config.deviceNames, OneLine name
  servers : config.deviceNames ≠ [] → config.ServersUnbroken

namespace WellFormed

variable {config : NetworkConfig}

theorem oneLine_effectiveHwaddr (rules : config.WellFormed) {bond : Bond}
    (inside : bond ∈ config.bonds) : OneLine (bond.effectiveHwaddr?.getD "") := by
  obtain ⟨hwaddr, effective, formed⟩ := rules.effectiveHwaddr_formed inside
  rw [effective]
  exact formed.oneLine

theorem interface_unbroken_iff (rules : config.WellFormed) {interface : Interface}
    (inside : interface ∈ config.interfaces) :
    (∀ template ∈ UnitTemplate.ofInterface config interface, template.Unbroken) ↔
      OneLine interface.name ∧ (∀ vlan ∈ config.vlansOn interface.name, OneLine vlan.name) ∧
        config.ServersUnbroken :=
  UnitTemplate.ofInterface_unbroken_iff (rules.hwaddrs_formed interface inside)
    (rules.interfaces_allowed interface inside)

theorem bond_unbroken_iff (rules : config.WellFormed) {bond : Bond} (inside : bond ∈ config.bonds) :
    (∀ template ∈ UnitTemplate.ofBond config bond, template.Unbroken) ↔
      OneLine bond.name ∧ (∀ vlan ∈ config.vlansOn bond.name, OneLine vlan.name) ∧
        config.ServersUnbroken :=
  UnitTemplate.ofBond_unbroken_iff
    (fun hwaddr member =>
      rules.members_formed hwaddr (List.mem_flatMap.mpr ⟨bond, inside, member⟩))
    (rules.bonds_allowed bond inside)

theorem vlan_unbroken_iff (rules : config.WellFormed) {vlan : Vlan} (inside : vlan ∈ config.vlans) :
    (UnitTemplate.ownEnd config "22" vlan.name vlan.addresses vlan.routes vlan.requiredForOnline
        []).Unbroken ↔ OneLine vlan.name ∧ config.ServersUnbroken := by
  have allowed := rules.vlans_allowed vlan inside
  rw [UnitTemplate.ownEnd_unbroken_iff _ _ allowed.addresses allowed.routes]
  simp

/-- Each device has a unit that tells its name and the servers. -/
theorem unbroken_of_templates (rules : config.WellFormed)
    (unbroken : ∀ template ∈ config.templates, template.Unbroken) : config.Unbroken := by
  simp only [templates, List.forall_mem_append, List.forall_mem_map, List.forall_mem_flatMap]
    at unbroken
  obtain ⟨⟨⟨_, interfaces⟩, bonds⟩, vlans⟩ := unbroken
  have told : ∀ name ∈ config.deviceNames, OneLine name ∧ config.ServersUnbroken := by
    simp only [deviceNames, List.forall_mem_append, List.forall_mem_map]
    refine ⟨⟨fun interface inside => ?_, fun bond inside => ?_⟩, fun vlan inside => ?_⟩
    · have user := (rules.interface_unbroken_iff inside).mp (interfaces interface inside)
      exact ⟨user.1, user.2.2⟩
    · have user := (rules.bond_unbroken_iff inside).mp (bonds bond inside)
      exact ⟨user.1, user.2.2⟩
    · exact (rules.vlan_unbroken_iff inside).mp (vlans vlan inside)
  refine ⟨fun name inside => (told name inside).1, fun some => ?_⟩
  obtain ⟨name, inside⟩ := List.exists_mem_of_ne_nil _ some
  exact (told name inside).2

open UnitTemplate in
theorem templates_of_unbroken (rules : config.WellFormed) (unbroken : config.Unbroken) :
    ∀ template ∈ config.templates, template.Unbroken := by
  have random : AllSettings UnitLine.Unbroken [("MACAddressPolicy", "random")] := by simp +decide
  have names := unbroken.names
  have servers : ∀ name ∈ config.deviceNames, config.ServersUnbroken := fun name inside =>
    unbroken.servers (List.ne_nil_of_mem inside)
  simp only [deviceNames, List.forall_mem_append, List.forall_mem_map] at names servers
  have stacked : ∀ device, ∀ vlan ∈ config.vlansOn device, OneLine vlan.name := fun device vlan on =>
    names.2 vlan (mem_vlansOn.mp on).1
  simp only [templates, List.forall_mem_append, List.forall_mem_map, List.forall_mem_flatMap,
    List.forall_mem_cons, List.not_mem_nil, false_implies, implies_true, and_true]
  refine ⟨⟨⟨⟨⟨⟨⟨fun interface inside => ?_, fun bond inside member joined => ?_⟩,
    fun interface inside => ?_⟩, fun bond inside => ?_⟩, fun vlan inside => ?_⟩,
    fun interface inside => ?_⟩, fun bond inside => ?_⟩, fun vlan inside => ?_⟩
  · exact link_unbroken (rules.hwaddrs_formed interface inside) random
  · exact link_unbroken (rules.members_formed member (List.mem_flatMap.mpr ⟨bond, inside, joined⟩))
      allSettings_nil
  · have whole := names.1.1 interface inside
    exact ⟨(bridge_unbroken_iff _).mpr whole,
      (pair_unbroken_iff _ (rules.hwaddrs_formed interface inside).oneLine).mpr whole⟩
  · have whole := names.1.2 bond inside
    exact ⟨(UnitTemplate.bond_unbroken_iff bond).mpr whole, (bridge_unbroken_iff _).mpr whole,
      (pair_unbroken_iff _ (rules.oneLine_effectiveHwaddr inside)).mpr whole⟩
  · exact (UnitTemplate.vlan_unbroken_iff vlan).mpr (names.2 vlan inside)
  · exact (rules.interface_unbroken_iff inside).mpr
      ⟨names.1.1 interface inside, stacked _, servers.1.1 interface inside⟩
  · exact (rules.bond_unbroken_iff inside).mpr
      ⟨names.1.2 bond inside, stacked _, servers.1.2 bond inside⟩
  · exact (rules.vlan_unbroken_iff inside).mpr ⟨names.2 vlan inside, servers.2 vlan inside⟩

/-- The values of the units are one line each exactly if the texts are that the check leaves alone. -/
theorem templates_unbroken_iff (rules : config.WellFormed) :
    (∀ template ∈ config.templates, template.Unbroken) ↔ config.Unbroken :=
  ⟨rules.unbroken_of_templates, rules.templates_of_unbroken⟩

end WellFormed

/-! ### Units read back -/

/-- **Each unit of a configuration that passes the check is read back as what it should say, section
by section and setting by setting, exactly if the names of the devices, the search domains and the
servers are one line each.** -/
theorem units_read_iff_unbroken {config : NetworkConfig} (passed : config.validate = .ok ()) :
    config.units.map (fun file => (file.name, readUnit? file.contents)) =
        config.templates.map (fun template => (template.name, some template.sections)) ↔
      config.Unbroken := by
  rw [← (WellFormed.of_validate passed).templates_unbroken_iff]
  have keep := units_keep config
  have legible := templates_legible config
  generalize config.units = files at keep
  generalize config.templates = parts at keep legible ⊢
  induction keep with
  | nil => simp
  | cons keeps _ ih =>
    rw [List.forall_mem_cons] at legible ⊢
    rw [List.map_cons, List.map_cons, List.cons.injEq]
    exact and_congr (keeps.read_iff legible.1) (ih legible.2)

/-- A host with an interface and a VLAN on it, which tells them where its servers are. -/
def served : NetworkConfig where
  interfaces := [{ name := "eth0", hwaddr := "aa:00:00:00:00:01",
                   addresses := ["dhcp4", "192.0.2.10/24"],
                   routes := [{ destination := "0.0.0.0/0", via := "192.0.2.1" }] }]
  vlans := [{ name := "lab", id := 7, parent := "eth0", addresses := ["slaac"] }]
  dns := some { searchDomains := ["example.org", "example.net"], nameservers := ["192.0.2.1"] }
  ntp := some { timeservers := ["ntp.example.org"] }

theorem served_read :
    served.validate = .ok () ∧
      served.units.map (fun file => (file.name, readUnit? file.contents)) =
        served.templates.map (fun template => (template.name, some template.sections)) := by
  have passed : served.validate = .ok () := by decide +kernel
  refine ⟨passed, (units_read_iff_unbroken passed).mpr ⟨by decide +kernel, fun _ => ?_⟩⟩
  refine ⟨fun dns told => ?_, fun dns told => ?_, fun ntp told => ?_⟩
  · cases told
    decide
  · cases told
    decide
  · cases told
    decide

/-- The name of a server that goes on in a second line, which joins the interface to a bridge. -/
def smuggled : NetworkConfig where
  interfaces := [{ name := "eth0", hwaddr := "aa:00:00:00:00:01" }]
  dns := some { nameservers := ["192.0.2.1\nBridge=other"] }

/-- The check passes the name, and a unit then holds a setting that no template has. -/
theorem smuggled_not_read :
    smuggled.validate = .ok () ∧
      smuggled.units.map (fun file => (file.name, readUnit? file.contents)) ≠
        smuggled.templates.map (fun template => (template.name, some template.sections)) ∧
      (∃ file ∈ smuggled.units,
        ("Bridge", "other") ∈ ((readUnit? file.contents).getD []).flatMap (·.settings)) ∧
      ∀ template ∈ smuggled.templates,
        ("Bridge", "other") ∉ template.sections.flatMap (·.settings) := by
  decide +kernel

end NetworkConfig

end HostNet
