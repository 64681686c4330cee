/-
**Letter case does not matter.**

Hardware addresses are given in either letter case. The check compares them in lower case, and the
devices of cards are named in lower case, so two configurations that differ only in the letter case
of their addresses are accepted alike and have units of the same names. Only the lines that state an
address keep the case in which it is given.

* `NetworkConfig.lowered`: a configuration with its hardware addresses in lower case;
* `validate_lowered`: the check does not see letter case;
* `networkUnits_lowered`: neither do the units that configure devices;
* `SameButCase`: two texts that are the same but for the letter case of an address;
* `units_sameButCase`: the units of two configurations that differ only in letter case.
-/

import HostNet.Proofs.Unit.Reading
import HostNet.Proofs.Validation.WellFormed
import HostNet.Unit.Basic
import Mathlib.Data.List.Forall2

namespace HostNet

/-! ### Lower case -/

/-- An interface with its hardware address in lower case. -/
def Interface.lowered (interface : Interface) : Interface :=
  { interface with hwaddr := Hwaddr.key interface.hwaddr }

/-- A bond with its hardware addresses in lower case. -/
def Bond.lowered (bond : Bond) : Bond :=
  { bond with hwaddr := bond.hwaddr.map Hwaddr.key, members := bond.members.map Hwaddr.key }

/-- A configuration with its hardware addresses in lower case. Two configurations differ only in
letter case if they are the same in lower case. -/
def NetworkConfig.lowered (config : NetworkConfig) : NetworkConfig :=
  { config with
    interfaces := config.interfaces.map Interface.lowered
    bonds := config.bonds.map Bond.lowered }

theorem Hwaddr.key_eq_empty_iff {hwaddr : String} : Hwaddr.key hwaddr = "" ↔ hwaddr = "" := by
  rw [← String.toList_inj, Hwaddr.toList_key, String.toList_empty, List.map_eq_nil_iff,
    ← String.toList_empty, String.toList_inj]

theorem Hwaddr.formed_key_iff {hwaddr : String} :
    Hwaddr.Formed (Hwaddr.key hwaddr) ↔ Hwaddr.Formed hwaddr := by
  rw [← Hwaddr.isWellFormed_iff, Hwaddr.isWellFormed_key, Hwaddr.isWellFormed_iff]

theorem Bond.explicitHwaddr?_lowered (bond : Bond) :
    bond.lowered.explicitHwaddr? = bond.explicitHwaddr?.map Hwaddr.key := by
  unfold Bond.explicitHwaddr? Bond.lowered
  cases bond.hwaddr with
  | none => rfl
  | some hwaddr =>
    by_cases empty : hwaddr = "" <;> simp [Option.filter, Hwaddr.key_eq_empty_iff, empty]

/-- The address that a bond takes over is the same card in either case. -/
theorem Bond.effectiveHwaddr?_lowered (bond : Bond) :
    bond.lowered.effectiveHwaddr? = bond.effectiveHwaddr?.map Hwaddr.key := by
  unfold Bond.effectiveHwaddr?
  rw [Bond.explicitHwaddr?_lowered]
  have first : bond.lowered.members.head? = bond.members.head?.map Hwaddr.key := List.head?_map
  rw [first]
  cases bond.explicitHwaddr? <;> rfl

/-! ### The check -/

section Check

variable (config : NetworkConfig)

theorem declaredKeys_lowered : config.lowered.declaredKeys = config.declaredKeys := by
  simp [NetworkConfig.declaredKeys, NetworkConfig.lowered, Interface.lowered, Hwaddr.key_key,
    Function.comp_def]

theorem bondMembers_lowered : config.lowered.bondMembers = config.bondMembers.map Hwaddr.key := by
  simp [NetworkConfig.bondMembers, NetworkConfig.lowered, Bond.lowered, List.flatMap_map,
    List.map_flatMap]

theorem deviceNames_lowered : config.lowered.deviceNames = config.deviceNames := by
  simp [NetworkConfig.deviceNames, NetworkConfig.lowered, Interface.lowered, Bond.lowered,
    Function.comp_def]

theorem parents_lowered : config.lowered.parents = config.parents := by
  simp [NetworkConfig.parents, NetworkConfig.lowered, Interface.lowered, Bond.lowered,
    Function.comp_def]

theorem interfaceAllowed_lowered_iff {interface : Interface} :
    InterfaceAllowed interface.lowered ↔ InterfaceAllowed interface :=
  and_congr_left fun _ => Hwaddr.formed_key_iff

theorem bondAllowed_lowered_iff {declared : List String} {bond : Bond} :
    BondAllowed declared bond.lowered ↔ BondAllowed declared bond := by
  simp [BondAllowed, Bond.lowered, Hwaddr.formed_key_iff, Hwaddr.key_key, Hwaddr.key_eq_empty_iff]

/-- **The check does not see letter case.** -/
theorem validate_lowered : config.lowered.validate = .ok () ↔ config.validate = .ok () := by
  have keys : config.lowered.bondMembers.map Hwaddr.key = config.bondMembers.map Hwaddr.key := by
    simp [bondMembers_lowered, Hwaddr.key_key, Function.comp_def]
  rw [NetworkConfig.validate_ok_iff_parts, NetworkConfig.validate_ok_iff_parts, keys,
    declaredKeys_lowered, deviceNames_lowered, parents_lowered]
  have interfaces : (∀ interface ∈ config.lowered.interfaces, InterfaceAllowed interface) ↔
      ∀ interface ∈ config.interfaces, InterfaceAllowed interface := by
    simp [NetworkConfig.lowered, interfaceAllowed_lowered_iff]
  have bonds : (∀ bond ∈ config.lowered.bonds, BondAllowed config.declaredKeys bond) ↔
      ∀ bond ∈ config.bonds, BondAllowed config.declaredKeys bond := by
    simp [NetworkConfig.lowered, bondAllowed_lowered_iff]
  rw [interfaces, bonds]
  rfl

end Check

/-! ### Units without an address -/

theorem interfaceNetworks_lowered (config : NetworkConfig) (interface : Interface) :
    interfaceNetworks config.lowered interface.lowered = interfaceNetworks config interface := by
  have named : interface.lowered.physicalName = interface.physicalName :=
    Hwaddr.deviceName_key interface.hwaddr
  simp only [interfaceNetworks, cardNetwork, named]
  rfl

theorem bondNetworks_lowered (config : NetworkConfig) (bond : Bond) :
    bondNetworks config.lowered bond.lowered = bondNetworks config bond := by
  have members : bond.lowered.members.mapIdx (memberNetwork bond.lowered) =
      bond.members.mapIdx (memberNetwork bond) := by
    refine List.ext_getElem (by simp [Bond.lowered]) fun index _ _ => ?_
    simp [Bond.lowered, memberNetwork, Hwaddr.deviceName_key]
  unfold bondNetworks
  rw [members]
  rfl

/-- **The units that configure devices do not see letter case.** -/
theorem networkUnits_lowered (config : NetworkConfig) :
    networkUnits config.lowered = networkUnits config := by
  have interfaces :
      (config.interfaces.map Interface.lowered).flatMap (interfaceNetworks config.lowered) =
        config.interfaces.flatMap (interfaceNetworks config) := by
    simp only [List.flatMap_map, interfaceNetworks_lowered]
  have bonds :
      (config.bonds.map Bond.lowered).flatMap (bondNetworks config.lowered) =
        config.bonds.flatMap (bondNetworks config) := by
    simp only [List.flatMap_map, bondNetworks_lowered]
  have vlans : vlanNetwork config.lowered = vlanNetwork config := rfl
  unfold networkUnits
  rw [vlans]
  exact congrArg₂ (fun front back => front ++ back ++ config.vlans.map (vlanNetwork config))
    interfaces bonds

/-! ### Units with an address -/

/-- The keys of the lines that state a hardware address. -/
def addressKeys : List String := ["PermanentMACAddress", "MACAddress"]

/-- Two texts that are the same, but for the letter case of the value of a line that states a
hardware address. -/
def SameButCase (text other : String) : Prop :=
  text = other ∨ ∃ key ∈ addressKeys, ∃ front hwaddr spelled back,
    Hwaddr.key hwaddr = Hwaddr.key spelled ∧
    text = UnitLine.render front ++ (key ++ "=" ++ hwaddr ++ "\n") ++ back ∧
      other = UnitLine.render front ++ (key ++ "=" ++ spelled ++ "\n") ++ back

/-- Two units of one name whose texts are the same but for the letter case of an address. -/
def Respelled (file other : UnitFile) : Prop :=
  file.name = other.name ∧ SameButCase file.contents other.contents

theorem Respelled.refl (file : UnitFile) : Respelled file file := ⟨rfl, .inl rfl⟩

theorem sameButCase_of_setting {key hwaddr spelled : String} (stated : key ∈ addressKeys)
    (same : Hwaddr.key hwaddr = Hwaddr.key spelled) (front back : List UnitLine) :
    SameButCase (UnitLine.render (front ++ .setting key hwaddr :: back))
      (UnitLine.render (front ++ .setting key spelled :: back)) := by
  refine .inr ⟨key, stated, front, hwaddr, spelled, UnitLine.render back, same, ?_, ?_⟩ <;>
    simp [UnitLine.render_append, UnitLine.render, UnitLine.text, String.append_assoc]

variable {hwaddr spelled : String}

theorem linkUnit_respelled (same : Hwaddr.key hwaddr = Hwaddr.key spelled) (rank : String)
    (random : Bool) : Respelled (linkUnit rank hwaddr random) (linkUnit rank spelled random) := by
  have named := Hwaddr.deviceName_eq_of_key_eq same
  refine ⟨by simp only [linkUnit, named], ?_⟩
  simp only [UnitFile.contents, linkUnit, named]
  exact sameButCase_of_setting (by decide) same [.header "Match"] _

theorem pairNetDev_respelled (same : Hwaddr.key hwaddr = Hwaddr.key spelled) (rank device : String)
    (mtu : Option UInt32) :
    Respelled (pairNetDev rank device hwaddr mtu) (pairNetDev rank device spelled mtu) :=
  ⟨rfl, sameButCase_of_setting (by decide) same
    [.header "NetDev", .setting "Name" device, .setting "Kind" "veth"] _⟩

/-- Lists that become the same one are related member by member. -/
theorem forall₂_of_map_eq {α β : Type} {change : α → β} {items others : List α}
    (same : items.map change = others.map change) :
    List.Forall₂ (fun item other => change item = change other) items others := by
  have alike : List.Forall₂ (· = ·) (items.map change) (others.map change) :=
    List.forall₂_eq_eq_eq ▸ same
  rwa [List.forall₂_map_left_iff, List.forall₂_map_right_iff] at alike

section Pair

variable {config other : NetworkConfig}

theorem interfaces_of_lowered_eq (same : config.lowered = other.lowered) :
    List.Forall₂ (fun interface twin => interface.lowered = twin.lowered) config.interfaces
      other.interfaces :=
  forall₂_of_map_eq (congrArg NetworkConfig.interfaces same)

theorem bonds_of_lowered_eq (same : config.lowered = other.lowered) :
    List.Forall₂ (fun bond twin => bond.lowered = twin.lowered) config.bonds other.bonds :=
  forall₂_of_map_eq (congrArg NetworkConfig.bonds same)

theorem members_of_lowered_eq (same : config.lowered = other.lowered) :
    List.Forall₂ (fun member twin => Hwaddr.key member = Hwaddr.key twin)
      (config.bonds.flatMap (·.members)) (other.bonds.flatMap (·.members)) := by
  refine forall₂_of_map_eq ?_
  have keys : config.lowered.bondMembers = other.lowered.bondMembers := congrArg _ same
  rwa [bondMembers_lowered, bondMembers_lowered] at keys

theorem linkUnits_respelled (same : config.lowered = other.lowered) :
    List.Forall₂ Respelled (linkUnits config) (linkUnits other) := by
  refine List.rel_append (List.rel_map ?_ (interfaces_of_lowered_eq same))
    (List.rel_map ?_ (members_of_lowered_eq same))
  · intro interface twin alike
    exact linkUnit_respelled (congrArg Interface.hwaddr alike) "00" true
  · intro member twin alike
    exact linkUnit_respelled alike "01" false

theorem interfaceNetDevs_respelled {interface twin : Interface}
    (same : interface.lowered = twin.lowered) :
    List.Forall₂ Respelled (interfaceNetDevs interface) (interfaceNetDevs twin) := by
  obtain ⟨named, keys, sized, -⟩ := Interface.mk.inj same
  unfold interfaceNetDevs
  rw [named, sized]
  exact .cons (.refl _) <| .cons (pairNetDev_respelled keys _ _ _) .nil

theorem bondNetDevs_respelled {bond twin : Bond} (same : bond.lowered = twin.lowered) :
    List.Forall₂ Respelled (bondNetDevs bond) (bondNetDevs twin) := by
  obtain ⟨named, -, -, spread, sized, -⟩ := Bond.mk.inj same
  have created : bondNetDev bond = bondNetDev twin := by
    unfold bondNetDev
    rw [named, sized, spread]
  have addressed : Hwaddr.key (bond.effectiveHwaddr?.getD "") =
      Hwaddr.key (twin.effectiveHwaddr?.getD "") := by
    have keys := congrArg Bond.effectiveHwaddr? same
    rw [Bond.effectiveHwaddr?_lowered, Bond.effectiveHwaddr?_lowered] at keys
    rw [← Option.getD_map Hwaddr.key, ← Option.getD_map Hwaddr.key, keys]
  unfold bondNetDevs
  rw [created, named, sized]
  exact .cons (.refl _) <| .cons (.refl _) <| .cons (pairNetDev_respelled addressed _ _ _) .nil

theorem netDevUnits_respelled (same : config.lowered = other.lowered) :
    List.Forall₂ Respelled (netDevUnits config) (netDevUnits other) := by
  obtain ⟨-, -, vlans, -⟩ := NetworkConfig.mk.inj same
  unfold netDevUnits
  rw [vlans]
  refine List.rel_append (List.rel_append ?_ ?_) (List.forall₂_same.mpr fun file _ => .refl file)
  · exact List.rel_flatMap (interfaces_of_lowered_eq same) fun _ _ => interfaceNetDevs_respelled
  · exact List.rel_flatMap (bonds_of_lowered_eq same) fun _ _ => bondNetDevs_respelled

theorem networkUnits_eq_of_lowered_eq (same : config.lowered = other.lowered) :
    networkUnits config = networkUnits other := by
  rw [← networkUnits_lowered config, same, networkUnits_lowered]

/-- The units of two configurations that differ only in letter case, one by one. -/
theorem units_respelled (same : config.lowered = other.lowered) :
    List.Forall₂ Respelled config.units other.units := by
  unfold NetworkConfig.units
  rw [networkUnits_eq_of_lowered_eq same]
  exact List.rel_append (List.rel_append (linkUnits_respelled same) (netDevUnits_respelled same))
    (List.forall₂_same.mpr fun file _ => .refl file)

end Pair

/-- **Letter case does not matter.** Of two configurations that differ only in the letter case of
hardware addresses, both are accepted or neither; and their units have the same names in the same
order, and texts that are the same but for the letter case of the address that they state. -/
theorem NetworkConfig.units_sameButCase {config other : NetworkConfig}
    (same : config.lowered = other.lowered) :
    (config.validate = .ok () ↔ other.validate = .ok ()) ∧
      config.units.map (·.name) = other.units.map (·.name) ∧
      List.Forall₂ SameButCase (config.units.map (·.contents)) (other.units.map (·.contents)) := by
  have respelled := units_respelled same
  refine ⟨?_, ?_, ?_⟩
  · rw [← validate_lowered config, same, validate_lowered]
  · rw [← List.forall₂_eq_eq_eq, List.forall₂_map_left_iff, List.forall₂_map_right_iff]
    exact respelled.imp fun _ _ alike => alike.1
  · rw [List.forall₂_map_left_iff, List.forall₂_map_right_iff]
    exact respelled.imp fun _ _ alike => alike.2

/-- A bond and its card, with addresses in capitals. -/
def NetworkConfig.capitals : NetworkConfig where
  interfaces := [{ name := "eth0", hwaddr := "AA:BB:CC:DD:EE:0F" }]
  bonds := [{
    name := "uplink", hwaddr := some "02:00:00:00:00:0A", members := ["AA:BB:CC:DD:EE:0F"]
    mode := .activeBackup }]

/-- The same bond and card, with the addresses in capitals or not. -/
def NetworkConfig.mixedCase : NetworkConfig where
  interfaces := [{ name := "eth0", hwaddr := "aa:bb:CC:dd:ee:0f" }]
  bonds := [{
    name := "uplink", hwaddr := some "02:00:00:00:00:0a", members := ["aa:BB:cc:dd:ee:0F"]
    mode := .activeBackup }]

/-- Both are accepted, and their units are not the same, but have the same names. -/
theorem NetworkConfig.mixedCase_sameButCase : capitals.lowered = mixedCase.lowered ∧
    capitals.validate = .ok () ∧ mixedCase.validate = .ok () ∧
    capitals.units ≠ mixedCase.units ∧
    capitals.units.map (·.name) = mixedCase.units.map (·.name) := by
  have same : capitals.lowered = mixedCase.lowered := by decide +kernel
  have accepted : capitals.validate = .ok () := by decide +kernel
  obtain ⟨alike, names, -⟩ := units_sameButCase same
  exact ⟨same, accepted, alike.mp accepted, by decide +kernel, names⟩

end HostNet
