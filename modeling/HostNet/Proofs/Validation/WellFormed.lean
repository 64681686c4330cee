/-
**Which configurations pass the check.**

The rules of a configuration are stated once as a predicate that knows nothing of the order of the
checks, of what has been seen earlier, or of who took which card. The check looks for the first
broken rule with lists of what it has seen; it passes exactly the configurations that satisfy the
predicate.

* `NetworkConfig.WellFormed`: the rules;
* `checkNames_ok_iff`, `checkInterfaces_ok_iff`, `checkBonds_ok_iff` and `checkVlan_ok_iff`: what
  each part of the check asks for, given what has been seen before it;
* `NetworkConfig.validate_ok_iff_wellFormed`: the check passes exactly the well-formed
  configurations.
-/

import HostNet.Proofs.Hwaddr
import HostNet.Validation.Basic

namespace HostNet

open Verdict

/-! ### The rules -/

/-- An MTU that is set lies between 68 and 65535. -/
def MtuAllowed (mtu : Option UInt32) : Prop :=
  ∀ value, mtu = some value → 68 ≤ value.toNat ∧ value.toNat ≤ 65535

/-- A VLAN id lies between 1 and 4094. -/
def VlanIdAllowed (id : UInt16) : Prop := 1 ≤ id.toNat ∧ id.toNat ≤ 4094

/-- An address entry is one of three words or an address with its prefix length. -/
def AddressAllowed (entry : String) : Prop :=
  entry = "dhcp4" ∨ entry = "dhcp6" ∨ entry = "slaac" ∨ isAddressPrefix entry = true

/-- A route leads to an address with its prefix length, by one of two words or an address. -/
def RouteAllowed (route : Route) : Prop :=
  isAddressPrefix route.destination = true ∧
    (route.via = "dhcp4" ∨ route.via = "slaac" ∨ ∃ address, IpAddr.parse? route.via = some address)

/-- What the three kinds of device have in common. -/
structure DeviceAllowed (mtu : Option UInt32) (addresses : List String) (routes : List Route) :
    Prop where
  mtu : MtuAllowed mtu
  addresses : ∀ entry ∈ addresses, AddressAllowed entry
  routes : ∀ route ∈ routes, RouteAllowed route

/-- The native VLAN and the tagged VLANs of a bridge port have ids that a VLAN may have. -/
structure PortAllowed (native : Option UInt16) (tags : List UInt16) : Prop where
  native : ∀ id, native = some id → VlanIdAllowed id
  tags : ∀ id ∈ tags, VlanIdAllowed id

/-- The names of all devices: interfaces, then bonds, then VLANs. -/
def NetworkConfig.deviceNames (config : NetworkConfig) : List String :=
  config.interfaces.map (·.name) ++ config.bonds.map (·.name) ++ config.vlans.map (·.name)

/-- The members of all bonds taken together. -/
def NetworkConfig.bondMembers (config : NetworkConfig) : List String :=
  config.bonds.flatMap (·.members)

/-- **The rules of a configuration.** Hardware addresses are compared by their keys, which do not
show letter case. -/
structure NetworkConfig.WellFormed (config : NetworkConfig) : Prop where
  named : ∀ name ∈ config.deviceNames, name ≠ ""
  names_distinct : config.deviceNames.Nodup
  hwaddrs_formed : ∀ interface ∈ config.interfaces, Hwaddr.Formed interface.hwaddr
  hwaddrs_distinct : config.declaredKeys.Nodup
  bonds_filled : ∀ bond ∈ config.bonds, bond.members ≠ []
  members_declared : ∀ member ∈ config.bondMembers,
    ∃ interface ∈ config.interfaces, Hwaddr.key interface.hwaddr = Hwaddr.key member
  members_distinct : (config.bondMembers.map Hwaddr.key).Nodup
  bond_hwaddrs_formed : ∀ bond ∈ config.bonds, ∀ hwaddr,
    bond.hwaddr = some hwaddr → hwaddr ≠ "" → Hwaddr.Formed hwaddr
  parents_declared : ∀ vlan ∈ config.vlans,
    (∃ interface ∈ config.interfaces, interface.name = vlan.parent) ∨
      ∃ bond ∈ config.bonds, bond.name = vlan.parent
  vlan_ids : ∀ vlan ∈ config.vlans, VlanIdAllowed vlan.id
  interface_ports : ∀ interface ∈ config.interfaces,
    PortAllowed interface.vlan interface.vlanTags
  bond_ports : ∀ bond ∈ config.bonds, PortAllowed bond.vlan bond.vlanTags
  interfaces_allowed : ∀ interface ∈ config.interfaces,
    DeviceAllowed interface.mtu interface.addresses interface.routes
  bonds_allowed : ∀ bond ∈ config.bonds, DeviceAllowed bond.mtu bond.addresses bond.routes
  vlans_allowed : ∀ vlan ∈ config.vlans, DeviceAllowed vlan.mtu vlan.addresses vlan.routes

/-! ### Rules of one device -/

theorem checkMtu_ok_iff (device : String) (mtu : Option UInt32) :
    checkMtu device mtu = .ok () ↔ MtuAllowed mtu := by
  cases mtu with
  | none => simp [checkMtu, MtuAllowed]
  | some value =>
    simp [checkMtu, MtuAllowed, isMtu, UInt32.le_iff_toNat_le]

theorem checkVlanId_ok_iff (device : String) (id : UInt16) :
    checkVlanId device id = .ok () ↔ VlanIdAllowed id := by
  simp [checkVlanId, VlanIdAllowed, isVlanId, UInt16.le_iff_toNat_le]

theorem checkPortVlans_ok_iff (device : String) (native : Option UInt16) (tags : List UInt16) :
    checkPortVlans device native tags = .ok () ↔ PortAllowed native tags := by
  simp only [checkPortVlans, checkEach_ok_iff, checkVlanId_ok_iff, List.mem_append,
    Option.mem_toList]
  constructor
  · intro each
    exact ⟨fun id set => each id (Or.inl set), fun id tagged => each id (Or.inr tagged)⟩
  · rintro allowed id (set | tagged)
    · exact allowed.native id set
    · exact allowed.tags id tagged

theorem isAddressEntry_iff (entry : String) :
    isAddressEntry entry = true ↔ AddressAllowed entry := by
  unfold isAddressEntry AddressAllowed AddressToken.ofText
  by_cases four : entry = "dhcp4"
  · simp [four]
  · by_cases six : entry = "dhcp6"
    · simp [six]
    · by_cases auto : entry = "slaac"
      · simp [auto]
      · simp [four, six, auto]

theorem isGateway_iff (via : String) :
    isGateway via = true ↔
      via = "dhcp4" ∨ via = "slaac" ∨ ∃ address, IpAddr.parse? via = some address := by
  unfold isGateway Gateway.ofText
  by_cases four : via = "dhcp4"
  · simp [four]
  · by_cases auto : via = "slaac"
    · simp [auto]
    · simp [four, auto, Option.isSome_iff_exists]

theorem checkAddresses_ok_iff (device : String) (addresses : List String) :
    checkAddresses device addresses = .ok () ↔ ∀ entry ∈ addresses, AddressAllowed entry := by
  simp [checkAddresses, isAddressEntry_iff]

theorem checkRoutes_ok_iff (device : String) (routes : List Route) :
    checkRoutes device routes = .ok () ↔ ∀ route ∈ routes, RouteAllowed route := by
  simp [checkRoutes, checkRoute, RouteAllowed, isGateway_iff]

theorem deviceAllowed_iff (mtu : Option UInt32) (addresses : List String) (routes : List Route) :
    DeviceAllowed mtu addresses routes ↔
      MtuAllowed mtu ∧ (∀ entry ∈ addresses, AddressAllowed entry) ∧
        ∀ route ∈ routes, RouteAllowed route :=
  ⟨fun allowed => ⟨allowed.mtu, allowed.addresses, allowed.routes⟩,
    fun ⟨mtu, addresses, routes⟩ => ⟨mtu, addresses, routes⟩⟩

theorem checkPort_ok_iff (device : String) (mtu : Option UInt32) (native : Option UInt16)
    (tags : List UInt16) (addresses : List String) (routes : List Route) :
    checkPort device mtu native tags addresses routes = .ok () ↔
      PortAllowed native tags ∧ DeviceAllowed mtu addresses routes := by
  rw [deviceAllowed_iff]
  simp only [checkPort, all_ok_iff, List.forall_mem_cons, checkMtu_ok_iff, checkPortVlans_ok_iff,
    checkAddresses_ok_iff, checkRoutes_ok_iff, List.not_mem_nil, false_implies, implies_true,
    and_true]
  exact and_left_comm

/-! ### Without repetition -/

/-- Keys of which none repeats another and none has been seen earlier. -/
def Fresh (seen keys : List String) : Prop := keys.Nodup ∧ ∀ key ∈ keys, key ∉ seen

theorem fresh_nil (seen : List String) : Fresh seen [] := by simp [Fresh]

theorem fresh_cons_iff {seen keys : List String} {key : String} :
    Fresh seen (key :: keys) ↔ key ∉ seen ∧ Fresh (key :: seen) keys := by
  constructor
  · rintro ⟨distinct, avoid⟩
    rw [List.nodup_cons] at distinct
    refine ⟨avoid key List.mem_cons_self, distinct.2, fun other member => ?_⟩
    rw [List.mem_cons, not_or]
    refine ⟨?_, avoid other (List.mem_cons_of_mem key member)⟩
    rintro rfl
    exact distinct.1 member
  · rintro ⟨new, distinct, avoid⟩
    refine ⟨List.nodup_cons.mpr ⟨fun member => ?_, distinct⟩, fun other member => ?_⟩
    · exact avoid key member List.mem_cons_self
    · rcases List.mem_cons.mp member with rfl | later
      · exact new
      · exact fun earlier => avoid other later (List.mem_cons_of_mem key earlier)

theorem fresh_append_iff {seen front back : List String} :
    Fresh seen (front ++ back) ↔ Fresh seen front ∧ Fresh (front.reverse ++ seen) back := by
  induction front generalizing seen with
  | nil => simp [fresh_nil]
  | cons key front ih =>
    rw [List.cons_append, fresh_cons_iff, fresh_cons_iff, ih, List.reverse_cons,
      List.append_assoc, List.singleton_append, and_assoc]

theorem fresh_nil_iff {keys : List String} : Fresh [] keys ↔ keys.Nodup := by simp [Fresh]

theorem lookup_eq_none_iff_notMem {entries : List (String × String)} {key : String} :
    entries.lookup key = none ↔ key ∉ entries.map (·.1) := by
  rw [List.lookup_eq_none_iff]
  constructor
  · intro unequal member
    obtain ⟨entry, inside, rfl⟩ := List.mem_map.mp member
    simpa using unequal entry inside
  · intro absent entry inside
    simp only [bne_iff_ne, ne_eq]
    rintro rfl
    exact absent (List.mem_map_of_mem inside)

/-! ### The four parts of the check -/

/-- The names pass if none is empty and all are fresh. -/
theorem checkNames_ok_iff (earlier : List String) (names : List (DeviceKind × String)) :
    checkNames earlier names = .ok () ↔
      (∀ entry ∈ names, entry.2 ≠ "") ∧ Fresh earlier (names.map (·.2)) := by
  induction names generalizing earlier with
  | nil => simp [checkNames, fresh_nil]
  | cons entry rest ih =>
    obtain ⟨kind, name⟩ := entry
    rw [List.map_cons, fresh_cons_iff, List.forall_mem_cons]
    by_cases empty : name = ""
    · simp [checkNames, empty]
    · by_cases seen : name ∈ earlier
      · simp [checkNames, empty, seen]
      · simp [checkNames, empty, seen, ih]

/-- What the check asks of an interface on its own. -/
def InterfaceAllowed (interface : Interface) : Prop :=
  Hwaddr.Formed interface.hwaddr ∧ PortAllowed interface.vlan interface.vlanTags ∧
    DeviceAllowed interface.mtu interface.addresses interface.routes

/-- The interfaces pass if each is allowed on its own and their keys are fresh. -/
theorem checkInterfaces_ok_iff (earlier : List (String × String)) (interfaces : List Interface) :
    checkInterfaces earlier interfaces = .ok () ↔
      (∀ interface ∈ interfaces, InterfaceAllowed interface) ∧
        Fresh (earlier.map (·.1)) (interfaces.map fun interface => Hwaddr.key interface.hwaddr) := by
  induction interfaces generalizing earlier with
  | nil => simp [checkInterfaces, fresh_nil]
  | cons interface rest ih =>
    rw [List.map_cons, fresh_cons_iff, List.forall_mem_cons, InterfaceAllowed,
      ← Hwaddr.isWellFormed_iff]
    by_cases formed : Hwaddr.isWellFormed interface.hwaddr = true
    · by_cases seen : Hwaddr.key interface.hwaddr ∈ earlier.map (·.1)
      · cases found : earlier.lookup (Hwaddr.key interface.hwaddr) with
        | none => exact absurd seen (lookup_eq_none_iff_notMem.mp found)
        | some first => simp only [checkInterfaces, formed, found, seen, if_true, not_true_eq_false,
            false_and, and_false, reduceCtorEq]
      · simp only [checkInterfaces, formed, lookup_eq_none_iff_notMem.mpr seen, seen, if_true,
          both_ok_iff, checkPort_ok_iff, ih, List.map_cons, not_false_eq_true, true_and, and_assoc]
    · simp [checkInterfaces, formed]

/-- The members of a bond pass if each is a declared card and their keys are fresh; from then on they
are taken. -/
theorem claimMembers_ok_iff (declared : List String) (bond : String)
    (taken : List (String × String)) (members : List String) (after : List (String × String)) :
    claimMembers declared bond taken members = .ok after ↔
      (∀ member ∈ members, Hwaddr.Formed member ∧ Hwaddr.key member ∈ declared) ∧
        Fresh (taken.map (·.1)) (members.map Hwaddr.key) ∧
          after = (members.map fun member => (Hwaddr.key member, bond)).reverse ++ taken := by
  induction members generalizing taken with
  | nil => simp [claimMembers, fresh_nil, eq_comm]
  | cons member rest ih =>
    rw [List.map_cons, fresh_cons_iff, List.forall_mem_cons, ← Hwaddr.isWellFormed_iff]
    by_cases known : Hwaddr.isWellFormed member = true ∧ Hwaddr.key member ∈ declared
    · by_cases seen : Hwaddr.key member ∈ taken.map (·.1)
      · cases found : taken.lookup (Hwaddr.key member) with
        | none => exact absurd seen (lookup_eq_none_iff_notMem.mp found)
        | some first => simp only [claimMembers, known, found, seen, List.contains_eq_mem,
            decide_true, Bool.and_self, if_true, not_true_eq_false, false_and, and_false,
            reduceCtorEq]
      · simp [claimMembers, known, lookup_eq_none_iff_notMem.mpr seen, seen, ih]
    · have refused : (Hwaddr.isWellFormed member && declared.contains (Hwaddr.key member)) = false := by
        simpa using known
      simp only [claimMembers, refused, known, Bool.false_eq_true, if_false, false_and,
        reduceCtorEq]

theorem checkBondHwaddr_ok_iff (bond : Bond) :
    checkBondHwaddr bond = .ok () ↔
      ∀ hwaddr, bond.hwaddr = some hwaddr → hwaddr ≠ "" → Hwaddr.Formed hwaddr := by
  unfold checkBondHwaddr Bond.explicitHwaddr?
  cases bond.hwaddr with
  | none => simp
  | some hwaddr =>
    by_cases empty : hwaddr = ""
    · simp [Option.filter, empty]
    · simp [Option.filter, empty, Hwaddr.isWellFormed_iff]

/-- What the check asks of a bond on its own, given the keys of the declared interfaces. -/
def BondAllowed (declared : List String) (bond : Bond) : Prop :=
  bond.members ≠ [] ∧
    (∀ member ∈ bond.members, Hwaddr.Formed member ∧ Hwaddr.key member ∈ declared) ∧
      (∀ hwaddr, bond.hwaddr = some hwaddr → hwaddr ≠ "" → Hwaddr.Formed hwaddr) ∧
        PortAllowed bond.vlan bond.vlanTags ∧ DeviceAllowed bond.mtu bond.addresses bond.routes

/-- The bonds pass if each is allowed on its own and the keys of all members are fresh. -/
theorem checkBonds_ok_iff (declared : List String) (taken : List (String × String))
    (bonds : List Bond) :
    checkBonds declared taken bonds = .ok () ↔
      (∀ bond ∈ bonds, BondAllowed declared bond) ∧
        Fresh (taken.map (·.1)) ((bonds.flatMap (·.members)).map Hwaddr.key) := by
  induction bonds generalizing taken with
  | nil => simp [checkBonds, fresh_nil]
  | cons bond rest ih =>
    rw [List.flatMap_cons, List.map_append, fresh_append_iff, List.forall_mem_cons, BondAllowed]
    by_cases empty : bond.members = []
    · simp [checkBonds, empty]
    · have filled : bond.members.isEmpty = false := by simpa using empty
      simp only [checkBonds, filled, Bool.false_eq_true, if_false]
      cases claimed : claimMembers declared bond.name taken bond.members with
      | error problem =>
        have refused : ∀ after, claimMembers declared bond.name taken bond.members ≠ .ok after := by
          simp [claimed]
        simp only [reduceCtorEq, false_iff]
        rintro ⟨⟨⟨_, members, _⟩, _⟩, fresh, _⟩
        exact refused _ ((claimMembers_ok_iff _ _ _ _ _).mpr ⟨members, fresh, rfl⟩)
      | ok after =>
        obtain ⟨members, fresh, rfl⟩ := (claimMembers_ok_iff _ _ _ _ _).mp claimed
        have keys : ((bond.members.map fun member => (Hwaddr.key member, bond.name)).reverse ++
            taken).map (·.1) = (bond.members.map Hwaddr.key).reverse ++ taken.map (·.1) := by
          simp [Function.comp_def]
        simp only [both_ok_iff, checkBondHwaddr_ok_iff, checkPort_ok_iff, ih, keys, fresh, empty,
          ne_eq, not_false_eq_true, true_and, and_assoc]
        exact (and_iff_right members).symm

theorem checkVlan_ok_iff (parents : List String) (vlan : Vlan) :
    checkVlan parents vlan = .ok () ↔
      vlan.parent ∈ parents ∧ VlanIdAllowed vlan.id ∧
        DeviceAllowed vlan.mtu vlan.addresses vlan.routes := by
  simp [checkVlan, deviceAllowed_iff, checkVlanId_ok_iff, checkMtu_ok_iff, checkAddresses_ok_iff,
    checkRoutes_ok_iff]

/-! ### The whole check -/

theorem NetworkConfig.map_names (config : NetworkConfig) :
    config.names.map (·.2) = config.deviceNames := by
  simp [names, deviceNames, Function.comp_def]

theorem NetworkConfig.mem_parents {config : NetworkConfig} {parent : String} :
    parent ∈ config.parents ↔
      (∃ interface ∈ config.interfaces, interface.name = parent) ∨
        ∃ bond ∈ config.bonds, bond.name = parent := by
  simp [parents]

theorem NetworkConfig.mem_declaredKeys {config : NetworkConfig} {key : String} :
    key ∈ config.declaredKeys ↔
      ∃ interface ∈ config.interfaces, Hwaddr.key interface.hwaddr = key := by
  simp [declaredKeys]

theorem NetworkConfig.checkNames_nil_ok_iff (config : NetworkConfig) :
    checkNames [] config.names = .ok () ↔
      (∀ name ∈ config.deviceNames, name ≠ "") ∧ config.deviceNames.Nodup := by
  rw [checkNames_ok_iff, config.map_names, fresh_nil_iff, ← config.map_names,
    List.forall_mem_map]

/-- What passes the check is allowed device by device. -/
theorem NetworkConfig.validate_ok_iff_parts (config : NetworkConfig) :
    config.validate = .ok () ↔
      ((∀ name ∈ config.deviceNames, name ≠ "") ∧ config.deviceNames.Nodup) ∧
        ((∀ interface ∈ config.interfaces, InterfaceAllowed interface) ∧
          config.declaredKeys.Nodup) ∧
          ((∀ bond ∈ config.bonds, BondAllowed config.declaredKeys bond) ∧
            (config.bondMembers.map Hwaddr.key).Nodup) ∧
            ∀ vlan ∈ config.vlans, vlan.parent ∈ config.parents ∧ VlanIdAllowed vlan.id ∧
              DeviceAllowed vlan.mtu vlan.addresses vlan.routes := by
  rw [validate_ok_iff, checkNames_nil_ok_iff, checkInterfaces_ok_iff, checkBonds_ok_iff, checkVlans,
    checkEach_ok_iff]
  simp only [checkVlan_ok_iff, List.map_nil, fresh_nil_iff]
  exact Iff.rfl

namespace NetworkConfig.WellFormed

variable {config : NetworkConfig}

/-- A configuration that passes the check satisfies the rules. -/
theorem of_validate (passed : config.validate = .ok ()) : config.WellFormed := by
  obtain ⟨⟨named, distinct⟩, ⟨interfaces, keys⟩, ⟨bonds, members⟩, vlans⟩ :=
    (validate_ok_iff_parts config).mp passed
  exact {
    named := named
    names_distinct := distinct
    hwaddrs_formed := fun interface member => (interfaces interface member).1
    hwaddrs_distinct := keys
    bonds_filled := fun bond member => (bonds bond member).1
    members_declared := by
      intro member inside
      obtain ⟨bond, declared, claims⟩ := List.mem_flatMap.mp inside
      exact mem_declaredKeys.mp ((bonds bond declared).2.1 member claims).2
    members_distinct := members
    bond_hwaddrs_formed := fun bond member => (bonds bond member).2.2.1
    parents_declared := fun vlan member => mem_parents.mp (vlans vlan member).1
    vlan_ids := fun vlan member => (vlans vlan member).2.1
    interface_ports := fun interface member => (interfaces interface member).2.1
    bond_ports := fun bond member => (bonds bond member).2.2.2.1
    interfaces_allowed := fun interface member => (interfaces interface member).2.2
    bonds_allowed := fun bond member => (bonds bond member).2.2.2.2
    vlans_allowed := fun vlan member => (vlans vlan member).2.2 }

/-- A member in any letter case is as well formed as the address that an interface declares. -/
theorem members_formed (rules : config.WellFormed) :
    ∀ member ∈ config.bondMembers, Hwaddr.Formed member := by
  intro member inside
  obtain ⟨interface, declared, same⟩ := rules.members_declared member inside
  exact (rules.hwaddrs_formed interface declared).of_key_eq same.symm

/-- A bond has an address, its own or that of its first member, and the address is well-formed. -/
theorem effectiveHwaddr_formed (rules : config.WellFormed) {bond : Bond}
    (inside : bond ∈ config.bonds) :
    ∃ hwaddr, bond.effectiveHwaddr? = some hwaddr ∧ Hwaddr.Formed hwaddr := by
  unfold Bond.effectiveHwaddr?
  cases explicit : bond.explicitHwaddr? with
  | some hwaddr =>
    rw [Bond.explicitHwaddr?, Option.filter_eq_some_iff] at explicit
    have given : hwaddr ≠ "" := by simpa using explicit.2
    exact ⟨hwaddr, rfl, rules.bond_hwaddrs_formed bond inside hwaddr explicit.1 given⟩
  | none =>
    obtain ⟨first, others, members⟩ :=
      List.exists_cons_of_ne_nil (rules.bonds_filled bond inside)
    have joined : first ∈ config.bondMembers :=
      List.mem_flatMap.mpr ⟨bond, inside, by simp [members]⟩
    exact ⟨first, by simp [members], rules.members_formed first joined⟩

/-- A configuration that satisfies the rules passes the check. -/
theorem validate (rules : config.WellFormed) : config.validate = .ok () := by
  have claimed : ∀ bond ∈ config.bonds, ∀ member ∈ bond.members,
      Hwaddr.Formed member ∧ Hwaddr.key member ∈ config.declaredKeys := by
    intro bond declared member claims
    have inside : member ∈ config.bondMembers := List.mem_flatMap.mpr ⟨bond, declared, claims⟩
    exact ⟨rules.members_formed member inside,
      mem_declaredKeys.mpr (rules.members_declared member inside)⟩
  refine (validate_ok_iff_parts config).mpr ⟨⟨rules.named, rules.names_distinct⟩,
    ⟨fun interface member => ?_, rules.hwaddrs_distinct⟩,
    ⟨fun bond member => ?_, rules.members_distinct⟩, fun vlan member => ?_⟩
  · exact ⟨rules.hwaddrs_formed interface member, rules.interface_ports interface member,
      rules.interfaces_allowed interface member⟩
  · exact ⟨rules.bonds_filled bond member, claimed bond member,
      rules.bond_hwaddrs_formed bond member, rules.bond_ports bond member,
      rules.bonds_allowed bond member⟩
  · exact ⟨mem_parents.mpr (rules.parents_declared vlan member), rules.vlan_ids vlan member,
      rules.vlans_allowed vlan member⟩

end NetworkConfig.WellFormed

/-- **The check passes exactly the well-formed configurations.** -/
theorem NetworkConfig.validate_ok_iff_wellFormed (config : NetworkConfig) :
    config.validate = .ok () ↔ config.WellFormed :=
  ⟨WellFormed.of_validate, WellFormed.validate⟩

end HostNet
