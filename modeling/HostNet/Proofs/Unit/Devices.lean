/-
**The devices that the units of a configuration bring into being.**

A unit that creates a device names it, and one that creates a pair of ends names both; the units that
name cards add the cards of the interfaces. All these share one space of names in the kernel. Four
kinds of name are made from declared ones, with a tag of two letters each, so two made names never
meet. A declared name may look like a made one, whatever device that is made from; the check does not
ask about it.

What counts is the text of a unit. A name with a line feed in it may add settings to its text, and
then the device has another name than the declared one; so all this is about names of one line.

* `UnitFile.createdDevices`: the devices that a unit creates, as its text says;
* `NetworkConfig.kernelDevices`: all devices that the units of a configuration create or name;
* `kernelDevices_perm`: these are the declared names and the made ones;
* `NetworkConfig.DevicesApart`: no declared name looks like a made one;
* `NetworkConfig.kernelDevices_nodup_iff`: for a configuration that passes the check this is exactly
  what keeps the devices apart.
-/

import HostNet.Proofs.Unit.Names
import HostNet.Proofs.Unit.Settings

namespace HostNet

/-! ### Devices of a unit -/

/-- **The devices that a unit creates**, by its text: the one that it is about, and the other end of a
pair. -/
def UnitFile.createdDevices (file : UnitFile) : List String :=
  file.values "NetDev" "Name" ++ file.values "Peer" "Name"

/-- The devices that a unit is meant to create. -/
def UnitFile.meantDevices (file : UnitFile) : List String :=
  file.meantValues "NetDev" "Name" ++ file.meantValues "Peer" "Name"

theorem UnitFile.Told.createdDevices_eq {file : UnitFile} (told : file.Told) :
    file.createdDevices = file.meantDevices := by
  rw [createdDevices, meantDevices, told.values_eq, told.values_eq]

section Created

variable (rank device hwaddr : String) (mtu : Option UInt32)

theorem meantDevices_bridge : (bridgeNetDev rank device mtu).meantDevices = ["br" ++ device] := by
  have keeps := bridgeNetDev_keeps rank device mtu
  simp [UnitFile.meantDevices, keeps.meantValues_eq, UnitTemplate.bridge, newDevice]

theorem meantDevices_pair :
    (pairNetDev rank device hwaddr mtu).meantDevices = [device, "vt" ++ device] := by
  have keeps := pairNetDev_keeps rank device hwaddr mtu
  simp [UnitFile.meantDevices, keeps.meantValues_eq, UnitTemplate.pair, newDevice]

theorem meantDevices_bond (bond : Bond) :
    (bondNetDev bond).meantDevices = ["bn" ++ bond.name] := by
  have keeps := bondNetDev_keeps bond
  simp [UnitFile.meantDevices, keeps.meantValues_eq, UnitTemplate.bond, newDevice]

theorem meantDevices_vlan (vlan : Vlan) : (vlanNetDev vlan).meantDevices = [vlan.name] := by
  have keeps := vlanNetDev_keeps vlan
  simp [UnitFile.meantDevices, keeps.meantValues_eq, UnitTemplate.vlan, newDevice]

end Created

/-! ### Devices of a configuration -/

namespace NetworkConfig

/-- **The devices that the units of a configuration bring into being**: those that they create, and
the cards of the interfaces. -/
def kernelDevices (config : NetworkConfig) : List String :=
  (config.unitsOfKind ".netdev").flatMap (·.createdDevices) ++
    config.interfaces.map (·.physicalName)

/-- The names made from declared ones: bridges and peers of the devices that may have them, bond
devices, and cards. -/
def madeDevices (config : NetworkConfig) : List String :=
  (config.parents.map fun port => "br" ++ port) ++ ((config.parents.map fun port => "vt" ++ port) ++
    ((config.bonds.map fun bond => "bn" ++ bond.name) ++ config.interfaces.map (·.physicalName)))

theorem meantDevices_eq (config : NetworkConfig) :
    (config.unitsOfKind ".netdev").flatMap (·.meantDevices) =
      (config.interfaces.flatMap fun interface =>
        ["br" ++ interface.name, interface.name, "vt" ++ interface.name]) ++
      (config.bonds.flatMap fun bond =>
        ["bn" ++ bond.name, "br" ++ bond.name, bond.name, "vt" ++ bond.name]) ++
      config.vlans.map (·.name) := by
  simp only [unitsOfKind_netdev, netDevUnits, List.flatMap_append, List.flatMap_assoc,
    List.flatMap_map, interfaceNetDevs, bondNetDevs, List.flatMap_cons, List.flatMap_nil,
    meantDevices_bridge, meantDevices_pair, meantDevices_bond, meantDevices_vlan,
    List.cons_append, List.nil_append, ← List.map_eq_flatMap]

theorem count_flatMap_cons {α : Type} (items : List α) (first : α → String)
    (others : α → List String) (name : String) :
    (items.flatMap fun item => first item :: others item).count name =
      (items.map fun item => first item).count name + (items.flatMap others).count name := by
  rw [(flatMap_cons_perm items first others).count_eq, List.count_append]

/-- **The devices are the declared names and the made ones**, each as often as it is declared or
made, if the declared names are one line each. -/
theorem WellFormed.kernelDevices_perm {config : NetworkConfig} (rules : config.WellFormed)
    (names : ∀ name ∈ config.deviceNames, OneLine name) :
    config.kernelDevices.Perm (config.deviceNames ++ config.madeDevices) := by
  have created : (config.unitsOfKind ".netdev").flatMap (·.createdDevices) =
      (config.unitsOfKind ".netdev").flatMap (·.meantDevices) :=
    List.flatMap_congr fun file inside => (rules.netDevs_told names file inside).createdDevices_eq
  -- The units list the names device by device, the right side kind by kind; so names are counted.
  refine List.perm_iff_count.mpr fun name => ?_
  simp only [kernelDevices, created, meantDevices_eq, deviceNames, madeDevices, parents,
    List.map_append, List.map_map, Function.comp_def, List.count_append, count_flatMap_cons,
    ← List.map_eq_flatMap]
  omega

/-! ### What keeps the devices of a configuration apart -/

/-- **No declared name looks like a made one**: no device, of whatever kind, is named like the bridge
or the peer of an interface or of a bond, like a bond device, or like the card of an interface. -/
structure DevicesApart (config : NetworkConfig) : Prop where
  bridges : ∀ name ∈ config.deviceNames, ∀ port ∈ config.parents, name ≠ "br" ++ port
  peers : ∀ name ∈ config.deviceNames, ∀ port ∈ config.parents, name ≠ "vt" ++ port
  bonds : ∀ name ∈ config.deviceNames, ∀ bond ∈ config.bonds, name ≠ "bn" ++ bond.name
  cards : ∀ name ∈ config.deviceNames, ∀ interface ∈ config.interfaces,
    name ≠ interface.physicalName

variable {config : NetworkConfig}

theorem devicesApart_iff :
    config.DevicesApart ↔ ∀ name ∈ config.deviceNames, name ∉ config.madeDevices := by
  simp only [madeDevices, List.mem_append, not_or, notMem_map_iff]
  constructor
  · intro apart name declared
    exact ⟨apart.bridges name declared, apart.peers name declared, apart.bonds name declared,
      apart.cards name declared⟩
  · intro apart
    exact {
      bridges := fun name declared => (apart name declared).1
      peers := fun name declared => (apart name declared).2.1
      bonds := fun name declared => (apart name declared).2.2.1
      cards := fun name declared => (apart name declared).2.2.2 }

namespace WellFormed

theorem parents_nodup (rules : config.WellFormed) : config.parents.Nodup :=
  rules.names_distinct.of_append_left

/-- The tags keep the made names of different kinds apart, and names made of different names differ. -/
theorem madeDevices_nodup (rules : config.WellFormed) : config.madeDevices.Nodup := by
  have ports := rules.parents_nodup
  have devices := (nodup_map_tagged "bn" rules.bond_names_nodup).append rules.physicalNames_nodup
    (disjoint_tagged (by decide) (by decide))
  have peers := (List.nodup_map_iff (tagged_injective "vt")).mpr ports
  have bridges := (List.nodup_map_iff (tagged_injective "br")).mpr ports
  refine bridges.append (peers.append devices (List.disjoint_append_right.mpr ⟨?_, ?_⟩))
    (List.disjoint_append_right.mpr ⟨?_, List.disjoint_append_right.mpr ⟨?_, ?_⟩⟩)
  · exact disjoint_tagged (by decide) (by decide)
  · exact disjoint_tagged (by decide) (by decide)
  · exact disjoint_tagged (by decide) (by decide)
  · exact disjoint_tagged (by decide) (by decide)
  · exact disjoint_tagged (by decide) (by decide)

end WellFormed

/-- **The units of a configuration that passes the check, with names of one line each, bring no two
devices of one name into being exactly if no declared name looks like a made one.** -/
theorem kernelDevices_nodup_iff (passed : config.validate = .ok ())
    (names : ∀ name ∈ config.deviceNames, OneLine name) :
    config.kernelDevices.Nodup ↔ config.DevicesApart := by
  have rules := WellFormed.of_validate passed
  rw [(rules.kernelDevices_perm names).nodup_iff,
    nodup_append_made_iff rules.names_distinct rules.madeDevices_nodup, devicesApart_iff]

theorem bonded_devices_nodup : bonded.validate = .ok () ∧ bonded.kernelDevices.Nodup := by
  have passed : bonded.validate = .ok () := by decide +kernel
  have names : ∀ name ∈ bonded.deviceNames, OneLine name := by decide +kernel
  refine ⟨passed, (kernelDevices_nodup_iff passed names).mpr ⟨?_, ?_, ?_, ?_⟩⟩
  · decide +kernel
  · decide +kernel
  · decide +kernel
  · decide +kernel

/-- A VLAN that bears the name of the bridge below it. -/
def vlanNamesake : NetworkConfig where
  interfaces := [{ name := "eth0", hwaddr := "aa:00:00:00:00:01" }]
  vlans := [{ name := "breth0", id := 7, parent := "eth0" }]

/-- The bridge and the VLAN are created under one name, by units whose names differ. -/
theorem vlanNamesake_devices_collide :
    vlanNamesake.validate = .ok () ∧ (vlanNamesake.units.map (·.name)).Nodup ∧
      ¬ vlanNamesake.kernelDevices.Nodup := by
  decide +kernel

end NetworkConfig

end HostNet
