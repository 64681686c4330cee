/-
**What the check reports of a configuration is true of it.**

The check has four parts, one for the names of all devices and one for each kind of device. A fault
is a place in a configuration where a rule of a part is broken, together with the problem that names
the place: the device, or the two devices that get in each other's way, and the value. The check
makes its parts one after the other and remembers what it has seen, so that the problem it reports
may be about an entry far in front of the one at which it stops. The problem is a fault of the part
that reports it, and the parts before that one have none.

* `NetworkConfig.Fault`: the faults of a configuration, part by part;
* `checkNames_reports`, `checkInterfaces_reports`, `claimMembers_reports` and `checkBonds_reports`:
  what a part reports of what it has seen and what is left, by induction on what is left;
* `names_fault_free`, `interfaces_fault_free`, `bonds_fault_free` and `vlans_fault_free`: a part that
  is passed finds no fault because there is none;
* `NetworkConfig.validate_reports`: a configuration is reported to have one of its first faults.
-/

import HostNet.Proofs.Validation.WellFormed

namespace HostNet

open Verdict

/-! ### Faults of one device -/

/-- **Faults in what the three kinds of device have in common**: an MTU that is out of range, an
address entry that is neither a word nor an address with its prefix length, and a route whose
destination is no address with its prefix length or whose gateway is neither a word nor an address. -/
inductive DeviceFault (device : String) (mtu : Option UInt32) (addresses : List String)
    (routes : List Route) : Problem → Prop
  | mtu {value : UInt32} (set : mtu = some value)
      (outside : value.toNat < 68 ∨ 65535 < value.toNat) :
      DeviceFault device mtu addresses routes (.invalidMtu device value)
  | address {entry : String} (listed : entry ∈ addresses) (refused : ¬ AddressAllowed entry) :
      DeviceFault device mtu addresses routes (.invalidAddress device entry)
  | destination {route : Route} (listed : route ∈ routes)
      (refused : ¬ isAddressPrefix route.destination) :
      DeviceFault device mtu addresses routes (.invalidRouteDestination device route.destination)
  | gateway {route : Route} (listed : route ∈ routes)
      (refused : route.via ≠ "dhcp4" ∧ route.via ≠ "slaac" ∧ IpAddr.parse? route.via = none) :
      DeviceFault device mtu addresses routes (.invalidRouteGateway device route.via)

/-- A VLAN of a bridge port, the native one or a tagged one, whose id no VLAN may have. -/
inductive PortFault (device : String) (native : Option UInt16) (tags : List UInt16) : Problem → Prop
  | vlan {id : UInt16} (carried : native = some id ∨ id ∈ tags)
      (outside : id.toNat < 1 ∨ 4094 < id.toNat) :
      PortFault device native tags (.invalidVlanId device id)

section Device

variable {device : String} {mtu : Option UInt32} {addresses : List String} {routes : List Route}
  {native : Option UInt16} {tags : List UInt16} {problem : Problem}

theorem checkMtu_reports (refused : checkMtu device mtu = .error problem) :
    DeviceFault device mtu addresses routes problem := by
  cases mtu with
  | none => cases refused
  | some value =>
    obtain ⟨outside, rfl⟩ := require_error_iff.mp refused
    refine .mtu rfl ?_
    simp only [isMtu, Bool.and_eq_false_iff, decide_eq_false_iff_not, UInt32.le_iff_toNat_le,
      Nat.not_le] at outside
    exact outside

theorem checkVlanId_reports {id : UInt16} (refused : checkVlanId device id = .error problem) :
    (id.toNat < 1 ∨ 4094 < id.toNat) ∧ problem = .invalidVlanId device id := by
  obtain ⟨outside, rfl⟩ := require_error_iff.mp refused
  simp only [isVlanId, Bool.and_eq_false_iff, decide_eq_false_iff_not, UInt16.le_iff_toNat_le,
    Nat.not_le] at outside
  exact ⟨outside, rfl⟩

theorem checkPortVlans_reports (refused : checkPortVlans device native tags = .error problem) :
    PortFault device native tags problem := by
  obtain ⟨id, carried, refused⟩ := exists_of_checkEach_error refused
  obtain ⟨outside, rfl⟩ := checkVlanId_reports refused
  rw [List.mem_append, Option.mem_toList] at carried
  exact .vlan carried outside

theorem checkAddresses_reports (refused : checkAddresses device addresses = .error problem) :
    DeviceFault device mtu addresses routes problem := by
  obtain ⟨entry, listed, refused⟩ := exists_of_checkEach_error refused
  obtain ⟨unknown, rfl⟩ := require_error_iff.mp refused
  refine .address listed fun allowed => ?_
  rw [(isAddressEntry_iff entry).mpr allowed] at unknown
  cases unknown

theorem checkRoutes_reports (refused : checkRoutes device routes = .error problem) :
    DeviceFault device mtu addresses routes problem := by
  obtain ⟨route, listed, refused⟩ := exists_of_checkEach_error refused
  obtain destination | ⟨_, gateway⟩ := both_error_iff.mp refused
  · obtain ⟨unknown, rfl⟩ := require_error_iff.mp destination
    exact .destination listed (Bool.not_eq_true _ ▸ unknown)
  · obtain ⟨unknown, rfl⟩ := require_error_iff.mp gateway
    have refused := mt (isGateway_iff route.via).mpr (Bool.not_eq_true _ ▸ unknown)
    rw [not_or, not_or, ← Option.isSome_iff_exists, Option.not_isSome_iff_eq_none] at refused
    exact .gateway listed refused

theorem checkPort_reports
    (refused : checkPort device mtu native tags addresses routes = .error problem) :
    PortFault device native tags problem ∨ DeviceFault device mtu addresses routes problem := by
  have reported := exists_of_all_error refused
  simp only [List.mem_cons, List.not_mem_nil, or_false] at reported
  obtain range | ids | entries | ways := reported
  · exact .inr (checkMtu_reports range.symm)
  · exact .inl (checkPortVlans_reports ids.symm)
  · exact .inr (checkAddresses_reports entries.symm)
  · exact .inr (checkRoutes_reports ways.symm)

/-- A device that is allowed has no fault. -/
theorem DeviceAllowed.fault_free (allowed : DeviceAllowed mtu addresses routes) :
    ¬ DeviceFault device mtu addresses routes problem := by
  intro fault
  cases fault with
  | mtu set outside =>
    have inside := allowed.mtu _ set
    omega
  | address listed refused => exact refused (allowed.addresses _ listed)
  | destination listed refused => exact refused (allowed.routes _ listed).1
  | gateway listed refused =>
    obtain four | auto | ⟨address, read⟩ := (allowed.routes _ listed).2
    · exact refused.1 four
    · exact refused.2.1 auto
    · rw [refused.2.2] at read
      cases read

theorem PortAllowed.fault_free (allowed : PortAllowed native tags) :
    ¬ PortFault device native tags problem := by
  intro fault
  cases fault with
  | vlan carried outside =>
    have inside : VlanIdAllowed _ := carried.elim (allowed.native _) (allowed.tags _)
    unfold VlanIdAllowed at inside
    omega

end Device

/-! ### Faults of a configuration -/

/-- A name that is empty, or that stands in two places. -/
inductive NameFault (names : List (DeviceKind × String)) : Problem → Prop
  | empty {kind : DeviceKind} (unnamed : (kind, "") ∈ names) : NameFault names (.emptyName kind)
  | repeated {kind other : DeviceKind} {name : String}
      (twice : [(kind, name), (other, name)].Sublist names) : NameFault names (.duplicateName name)

/-- **Faults of interfaces**: a hardware address that is not well-formed, one that an earlier
interface has in some letter case, and what is wrong with an interface on its own. -/
inductive InterfaceFault (interfaces : List Interface) : Problem → Prop
  | hwaddr {interface : Interface} (declared : interface ∈ interfaces)
      (refused : ¬ Hwaddr.Formed interface.hwaddr) :
      InterfaceFault interfaces (.invalidHwaddr interface.name interface.hwaddr)
  | shared {first second : Interface} (both : [first, second].Sublist interfaces)
      (same : Hwaddr.key first.hwaddr = Hwaddr.key second.hwaddr) :
      InterfaceFault interfaces (.duplicateHwaddr second.hwaddr first.name second.name)
  | port {interface : Interface} {problem : Problem} (declared : interface ∈ interfaces)
      (fault : PortFault interface.name interface.vlan interface.vlanTags problem) :
      InterfaceFault interfaces problem
  | device {interface : Interface} {problem : Problem} (declared : interface ∈ interfaces)
      (fault : DeviceFault interface.name interface.mtu interface.addresses interface.routes
        problem) :
      InterfaceFault interfaces problem

/-- The members of all bonds, each with the name of its bond. -/
def memberships (bonds : List Bond) : List (String × String) :=
  bonds.flatMap fun bond => bond.members.map fun member => (bond.name, member)

/-- **Faults of bonds**: a bond without members, a member that is no interface's card, a member that
has occurred earlier in some letter case, in this bond or another, a hardware address of the bond
that is not well-formed, and what is wrong with a bond on its own. -/
inductive BondFault (interfaces : List Interface) (bonds : List Bond) : Problem → Prop
  | empty {bond : Bond} (declared : bond ∈ bonds) (none : bond.members = []) :
      BondFault interfaces bonds (.emptyBond bond.name)
  | stranger {bond : Bond} {member : String} (declared : bond ∈ bonds)
      (claimed : member ∈ bond.members)
      (nobody : ∀ interface ∈ interfaces, Hwaddr.key interface.hwaddr ≠ Hwaddr.key member) :
      BondFault interfaces bonds (.unknownBondMember bond.name member)
  | shared {first second earlier member : String}
      (both : [(first, earlier), (second, member)].Sublist (memberships bonds))
      (same : Hwaddr.key earlier = Hwaddr.key member) :
      BondFault interfaces bonds (.duplicateBondMember member first second)
  | hwaddr {bond : Bond} {hwaddr : String} (declared : bond ∈ bonds)
      (set : bond.hwaddr = some hwaddr) (filled : hwaddr ≠ "")
      (refused : ¬ Hwaddr.Formed hwaddr) :
      BondFault interfaces bonds (.invalidHwaddr bond.name hwaddr)
  | port {bond : Bond} {problem : Problem} (declared : bond ∈ bonds)
      (fault : PortFault bond.name bond.vlan bond.vlanTags problem) :
      BondFault interfaces bonds problem
  | device {bond : Bond} {problem : Problem} (declared : bond ∈ bonds)
      (fault : DeviceFault bond.name bond.mtu bond.addresses bond.routes problem) :
      BondFault interfaces bonds problem

/-- **Faults of VLANs**: a parent that is neither an interface nor a bond, an id that no VLAN may
have, and what is wrong with a VLAN on its own. -/
inductive VlanFault (config : NetworkConfig) : Problem → Prop
  | orphan {vlan : Vlan} (declared : vlan ∈ config.vlans)
      (noInterface : ∀ interface ∈ config.interfaces, interface.name ≠ vlan.parent)
      (noBond : ∀ bond ∈ config.bonds, bond.name ≠ vlan.parent) :
      VlanFault config (.unknownVlanParent vlan.name vlan.parent)
  | id {vlan : Vlan} (declared : vlan ∈ config.vlans)
      (outside : vlan.id.toNat < 1 ∨ 4094 < vlan.id.toNat) :
      VlanFault config (.invalidVlanId vlan.name vlan.id)
  | device {vlan : Vlan} {problem : Problem} (declared : vlan ∈ config.vlans)
      (fault : DeviceFault vlan.name vlan.mtu vlan.addresses vlan.routes problem) :
      VlanFault config problem

/-- The parts of the check. -/
inductive CheckPart where
  | names
  | interfaces
  | bonds
  | vlans
  deriving Repr, DecidableEq

/-- The parts that are made before a part. -/
def CheckPart.earlier : CheckPart → List CheckPart
  | .names => []
  | .interfaces => [.names]
  | .bonds => [.names, .interfaces]
  | .vlans => [.names, .interfaces, .bonds]

/-- **The faults of a configuration**, by the part of the check whose rules they break. -/
def NetworkConfig.Fault (config : NetworkConfig) : CheckPart → Problem → Prop
  | .names => NameFault config.names
  | .interfaces => InterfaceFault config.interfaces
  | .bonds => BondFault config.interfaces config.bonds
  | .vlans => VlanFault config

/-! ### What the parts report

Each part has gone through the entries in `done`, remembers them, and goes on with `rest`. -/

/-- An entry that has been seen stands before the one at which the check stops. -/
theorem pair_sublist {α : Type} {first second : α} {done rest : List α} (seen : first ∈ done) :
    [first, second].Sublist (done ++ second :: rest) :=
  (List.singleton_sublist.mpr seen).append (List.singleton_sublist.mpr List.mem_cons_self)

/-- What is looked up among remembered entries is remembered of one of them. -/
theorem exists_of_lookup_remembered {α : Type} {remember : α → String × String} {done : List α}
    {key found : String} (looked : (done.map remember).reverse.lookup key = some found) :
    ∃ entry ∈ done, remember entry = (key, found) := by
  obtain ⟨front, back, whole, _⟩ := List.lookup_eq_some_iff.mp looked
  have inside : (key, found) ∈ (done.map remember).reverse := by simp [whole]
  exact List.mem_map.mp (List.mem_reverse.mp inside)

section Reports

variable {problem : Problem}

theorem checkNames_reports {done rest : List (DeviceKind × String)}
    (refused : checkNames (done.map (·.2)).reverse rest = .error problem) :
    NameFault (done ++ rest) problem := by
  induction rest generalizing done with
  | nil => cases refused
  | cons entry rest ih =>
    obtain ⟨kind, name⟩ := entry
    by_cases empty : name = ""
    · rw [checkNames, if_pos empty] at refused
      cases refused
      exact .empty (by simp [empty])
    · by_cases seen : name ∈ done.map (·.2)
      · have known : (done.map (·.2)).reverse.contains name = true := by simpa using seen
        rw [checkNames, if_neg empty, if_pos known] at refused
        cases refused
        obtain ⟨⟨other, _⟩, earlier, rfl⟩ := List.mem_map.mp seen
        exact .repeated (pair_sublist earlier)
      · have unknown : ¬ (done.map (·.2)).reverse.contains name = true := by simpa using seen
        rw [checkNames, if_neg empty, if_neg unknown] at refused
        have later := @ih (done ++ [(kind, name)]) (by simpa using refused)
        simpa using later

theorem checkInterfaces_reports {done rest : List Interface}
    (refused : checkInterfaces
      (done.map fun interface => (Hwaddr.key interface.hwaddr, interface.name)).reverse rest =
        .error problem) :
    InterfaceFault (done ++ rest) problem := by
  induction rest generalizing done with
  | nil => cases refused
  | cons interface rest ih =>
    have declared : interface ∈ done ++ interface :: rest := by simp
    by_cases formed : Hwaddr.isWellFormed interface.hwaddr
    · rw [checkInterfaces, if_pos formed] at refused
      split at refused
      · rename_i first looked
        cases refused
        obtain ⟨other, earlier, entry⟩ := exists_of_lookup_remembered looked
        obtain ⟨same, rfl⟩ := Prod.mk.inj entry
        exact .shared (pair_sublist earlier) same
      · obtain own | ⟨_, later⟩ := both_error_iff.mp refused
        · obtain port | device := checkPort_reports own
          · exact .port declared port
          · exact .device declared device
        · have further := @ih (done ++ [interface]) (by simpa using later)
          simpa using further
    · rw [checkInterfaces, if_neg formed] at refused
      cases refused
      exact .hwaddr declared (mt (Hwaddr.isWellFormed_iff _).mpr formed)

/-- What is reported of the members of a bond, of which `claimed` have been gone through: a member
that is no interface's card, or one that has occurred earlier. -/
theorem claimMembers_reports {declared : List String} {bond : String}
    {done : List (String × String)} {rest : List String}
    (refused : claimMembers declared bond
      (done.map fun entry => (Hwaddr.key entry.2, entry.1)).reverse rest = .error problem) :
    (∃ member ∈ rest, (¬ Hwaddr.Formed member ∨ Hwaddr.key member ∉ declared) ∧
        problem = .unknownBondMember bond member) ∨
      ∃ first earlier member,
        [(first, earlier), (bond, member)].Sublist (done ++ rest.map fun member => (bond, member)) ∧
          Hwaddr.key earlier = Hwaddr.key member ∧
            problem = .duplicateBondMember member first bond := by
  induction rest generalizing done with
  | nil => cases refused
  | cons member rest ih =>
    by_cases known : Hwaddr.Formed member ∧ Hwaddr.key member ∈ declared
    · have accepted : (Hwaddr.isWellFormed member && declared.contains (Hwaddr.key member)) = true := by
        simpa [Hwaddr.isWellFormed_iff] using known
      rw [claimMembers, if_pos accepted] at refused
      split at refused
      · rename_i first looked
        cases refused
        obtain ⟨⟨_, other⟩, earlier, entry⟩ := exists_of_lookup_remembered looked
        obtain ⟨same, rfl⟩ := Prod.mk.inj entry
        exact .inr ⟨_, other, member, pair_sublist earlier, same, rfl⟩
      · obtain ⟨other, inside, stranger⟩ | twice :=
          @ih (done ++ [(bond, member)]) (by simpa using refused)
        · exact .inl ⟨other, List.mem_cons_of_mem member inside, stranger⟩
        · exact .inr (by simpa using twice)
    · have unknown : ¬ (Hwaddr.isWellFormed member && declared.contains (Hwaddr.key member)) = true := by
        simpa [Hwaddr.isWellFormed_iff] using known
      rw [claimMembers, if_neg unknown] at refused
      cases refused
      exact .inl ⟨member, List.mem_cons_self, not_and_or.mp known, rfl⟩

theorem checkBondHwaddr_reports {bond : Bond} (refused : checkBondHwaddr bond = .error problem) :
    ∃ hwaddr, bond.hwaddr = some hwaddr ∧ hwaddr ≠ "" ∧ ¬ Hwaddr.Formed hwaddr ∧
      problem = .invalidHwaddr bond.name hwaddr := by
  unfold checkBondHwaddr at refused
  split at refused
  · rename_i hwaddr explicit
    obtain ⟨unformed, rfl⟩ := require_error_iff.mp refused
    obtain ⟨set, filled⟩ := Option.filter_eq_some_iff.mp explicit
    refine ⟨hwaddr, set, by simpa using filled, fun formed => ?_, rfl⟩
    rw [(Hwaddr.isWellFormed_iff hwaddr).mpr formed] at unformed
    cases unformed
  · cases refused

theorem checkBonds_reports {interfaces : List Interface}
    (formed : ∀ interface ∈ interfaces, Hwaddr.Formed interface.hwaddr) {done rest : List Bond}
    (refused : checkBonds (interfaces.map fun interface => Hwaddr.key interface.hwaddr)
      ((memberships done).map fun entry => (Hwaddr.key entry.2, entry.1)).reverse rest =
        .error problem) :
    BondFault interfaces (done ++ rest) problem := by
  induction rest generalizing done with
  | nil => cases refused
  | cons bond rest ih =>
    have declared : bond ∈ done ++ bond :: rest := by simp
    by_cases empty : bond.members = []
    · have none : bond.members.isEmpty = true := by simpa using empty
      rw [checkBonds, if_pos none] at refused
      cases refused
      exact .empty declared empty
    have some : ¬ bond.members.isEmpty = true := by simpa using empty
    rw [checkBonds, if_neg some] at refused
    split at refused
    · rename_i reported claims
      cases refused
      obtain ⟨member, claimed, stranger, rfl⟩ | ⟨first, earlier, member, both, same, rfl⟩ :=
        claimMembers_reports claims
      · -- a member that is not well-formed is no card either, since the cards are well-formed
        refine .stranger declared claimed fun interface inside same => ?_
        obtain unformed | missing := stranger
        · exact unformed ((formed interface inside).of_key_eq same.symm)
        · exact missing (List.mem_map.mpr ⟨interface, inside, same⟩)
      · refine .shared (both.trans ?_) same
        simp [memberships]
    · rename_i taken claims
      obtain own | ⟨_, others⟩ := both_error_iff.mp refused
      · obtain ⟨hwaddr, set, filled, unformed, rfl⟩ := checkBondHwaddr_reports own
        exact .hwaddr declared set filled unformed
      · obtain own | ⟨_, later⟩ := both_error_iff.mp others
        · obtain port | device := checkPort_reports own
          · exact .port declared port
          · exact .device declared device
        · obtain ⟨_, _, rfl⟩ := (claimMembers_ok_iff _ _ _ _ _).mp claims
          have further := @ih (done ++ [bond])
            (by simpa [memberships, Function.comp_def] using later)
          simpa using further

theorem checkVlans_reports {config : NetworkConfig}
    (refused : checkVlans config.parents config.vlans = .error problem) :
    VlanFault config problem := by
  obtain ⟨vlan, declared, refused⟩ := exists_of_checkEach_error refused
  have reported := exists_of_all_error refused
  simp only [List.mem_cons, List.not_mem_nil, or_false] at reported
  obtain parent | id | range | entries | ways := reported
  · obtain ⟨unknown, rfl⟩ := require_error_iff.mp parent.symm
    have nobody : vlan.parent ∉ config.parents := by simpa using unknown
    rw [NetworkConfig.mem_parents, not_or] at nobody
    exact .orphan declared (fun interface inside same => nobody.1 ⟨interface, inside, same⟩)
      fun bond inside same => nobody.2 ⟨bond, inside, same⟩
  · obtain ⟨outside, rfl⟩ := checkVlanId_reports id.symm
    exact .id declared outside
  · exact .device declared (checkMtu_reports range.symm)
  · exact .device declared (checkAddresses_reports entries.symm)
  · exact .device declared (checkRoutes_reports ways.symm)

end Reports

/-! ### What passes has no fault -/

section Passed

variable {config : NetworkConfig} {problem : Problem}

theorem names_fault_free (passed : checkNames [] config.names = .ok ()) :
    ¬ config.Fault .names problem := by
  obtain ⟨named, distinct⟩ := config.checkNames_nil_ok_iff.mp passed
  rw [← config.map_names] at named distinct
  intro fault
  cases fault with
  | empty unnamed => exact named "" (List.mem_map_of_mem unnamed) rfl
  | repeated twice => simpa using distinct.sublist (twice.map (·.2))

theorem interfaces_fault_free (passed : checkInterfaces [] config.interfaces = .ok ()) :
    ¬ config.Fault .interfaces problem := by
  obtain ⟨allowed, fresh⟩ := (checkInterfaces_ok_iff [] config.interfaces).mp passed
  intro fault
  cases fault with
  | hwaddr declared refused => exact refused (allowed _ declared).1
  | shared both same =>
    simpa [same] using
      fresh.1.sublist (both.map fun interface : Interface => Hwaddr.key interface.hwaddr)
  | port declared fault => exact (allowed _ declared).2.1.fault_free fault
  | device declared fault => exact (allowed _ declared).2.2.fault_free fault

theorem bonds_fault_free (passed : checkBonds config.declaredKeys [] config.bonds = .ok ()) :
    ¬ config.Fault .bonds problem := by
  obtain ⟨allowed, fresh⟩ := (checkBonds_ok_iff config.declaredKeys [] config.bonds).mp passed
  have distinct : ((memberships config.bonds).map fun entry => Hwaddr.key entry.2).Nodup := by
    simpa [memberships, List.map_flatMap, Function.comp_def] using fresh.1
  intro fault
  cases fault with
  | empty declared none => exact (allowed _ declared).1 none
  | stranger declared claimed nobody =>
    obtain ⟨interface, inside, same⟩ :=
      NetworkConfig.mem_declaredKeys.mp ((allowed _ declared).2.1 _ claimed).2
    exact nobody interface inside same
  | shared both same =>
    simpa [same] using
      distinct.sublist (both.map fun entry : String × String => Hwaddr.key entry.2)
  | hwaddr declared set filled refused => exact refused ((allowed _ declared).2.2.1 _ set filled)
  | port declared fault => exact (allowed _ declared).2.2.2.1.fault_free fault
  | device declared fault => exact (allowed _ declared).2.2.2.2.fault_free fault

theorem vlans_fault_free (passed : checkVlans config.parents config.vlans = .ok ()) :
    ¬ config.Fault .vlans problem := by
  have allowed := fun vlan inside =>
    (checkVlan_ok_iff config.parents vlan).mp ((checkEach_ok_iff _ _).mp passed vlan inside)
  intro fault
  cases fault with
  | orphan declared noInterface noBond =>
    obtain ⟨interface, inside, same⟩ | ⟨bond, inside, same⟩ :=
      NetworkConfig.mem_parents.mp (allowed _ declared).1
    · exact noInterface interface inside same
    · exact noBond bond inside same
  | id declared outside =>
    have inside : VlanIdAllowed _ := (allowed _ declared).2.1
    unfold VlanIdAllowed at inside
    omega
  | device declared fault => exact (allowed _ declared).2.2.fault_free fault

end Passed

/-- **A verdict is true of a configuration.** One that lets it pass says that it has no fault. One that
refuses it names a fault of some part of the check, and the parts before that one find none. -/
def NetworkConfig.TrueVerdict (config : NetworkConfig) : Verdict → Prop
  | .ok _ => ∀ part problem, ¬ config.Fault part problem
  | .error problem => ∃ part, config.Fault part problem ∧
      ∀ earlier ∈ part.earlier, ∀ other, ¬ config.Fault earlier other

/-- **The verdict of the check is true of every configuration.** What is reported is a fault of the
configuration, and of the first part that has one: names are reported before interfaces, these before
bonds, and bonds before VLANs. -/
theorem NetworkConfig.validate_reports (config : NetworkConfig) :
    config.TrueVerdict config.validate := by
  cases reported : config.validate with
  | ok _ =>
    obtain ⟨names, interfaces, bonds, vlans⟩ := config.validate_ok_iff.mp reported
    intro part problem
    cases part with
    | names => exact names_fault_free names
    | interfaces => exact interfaces_fault_free interfaces
    | bonds => exact bonds_fault_free bonds
    | vlans => exact vlans_fault_free vlans
  | error problem =>
    simp only [validate, all, both_error_iff, reduceCtorEq, and_false, or_false] at reported
    obtain names | ⟨named, interfaces | ⟨carded, bonds | ⟨bonded, vlans⟩⟩⟩ := reported
    · refine ⟨.names, @checkNames_reports problem [] config.names names, fun earlier before => ?_⟩
      exact absurd before List.not_mem_nil
    · refine ⟨.interfaces, @checkInterfaces_reports problem [] config.interfaces interfaces, ?_⟩
      intro earlier before other
      obtain rfl := List.mem_singleton.mp before
      exact names_fault_free named
    · have formed := fun interface inside =>
        ((checkInterfaces_ok_iff _ _).mp carded).1 interface inside |>.1
      refine ⟨.bonds, @checkBonds_reports problem config.interfaces formed [] config.bonds bonds, ?_⟩
      intro earlier before other
      simp only [CheckPart.earlier, List.mem_cons, List.not_mem_nil, or_false] at before
      obtain rfl | rfl := before
      · exact names_fault_free named
      · exact interfaces_fault_free carded
    · refine ⟨.vlans, checkVlans_reports vlans, ?_⟩
      intro earlier before other
      simp only [CheckPart.earlier, List.mem_cons, List.not_mem_nil, or_false] at before
      obtain rfl | rfl | rfl := before
      · exact names_fault_free named
      · exact interfaces_fault_free carded
      · exact bonds_fault_free bonded

/-- The bond at which the check stops is the second one; the member is reported as it is written there. -/
example : NetworkConfig.validate
    { interfaces := [{ name := "eth0", hwaddr := "aa:00:00:00:00:01" }]
      bonds := [{ name := "uplink", members := ["aa:00:00:00:00:01"], mode := .linkAggregation },
        { name := "spare", members := ["AA:00:00:00:00:01"], mode := .activeBackup }] } =
    .error (.duplicateBondMember "AA:00:00:00:00:01" "uplink" "spare") := by
  decide +kernel

end HostNet
