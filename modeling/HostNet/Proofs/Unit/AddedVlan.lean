/-
**What a VLAN adds to the units of a configuration.**

A VLAN has two units of its own. Besides these it shows in three units of its parent and nowhere else:
the unit of the parent's own end attaches it, by one more line among those of the other VLANs, and the
units of the two ports of the parent's bridge admit its id, which makes a difference only if they have
not admitted it before. The other units stay what they are, and all units stay in their order.

* `NetworkConfig.addVlan`: a VLAN is declared in front of those from some position on;
* `vlansOn_addVlan_parent` and `vlansOn_addVlan_other`: what that stacks on the devices;
* `NetworkConfig.units_framed`: the units of a configuration around those of one parent;
* `fresh_of_notMem`: no unit has had the name of one that is added;
* `NetworkConfig.vlan_added`: what a VLAN adds to a configuration, if the check still lets it pass.
-/

import HostNet.Proofs.Unit.Parents
import HostNet.Proofs.Unit.Ports

namespace HostNet

/-- A VLAN is declared in front of those from some position on; past their end, behind them all. -/
def NetworkConfig.addVlan (config : NetworkConfig) (position : Nat) (vlan : Vlan) : NetworkConfig :=
  { config with vlans := config.vlans.take position ++ vlan :: config.vlans.drop position }

/-! ### What is stacked on the devices -/

section Stacked

variable {config : NetworkConfig} {position : Nat} {vlan : Vlan}

theorem vlansOn_addVlan_other {device : String} (other : device ≠ vlan.parent) :
    (config.addVlan position vlan).vlansOn device = config.vlansOn device := by
  rw [NetworkConfig.vlansOn, NetworkConfig.addVlan, List.filter_append,
    List.filter_cons_of_neg (by simpa using other.symm), ← List.filter_append,
    List.take_append_drop]
  rfl

/-- The units of devices that are not the parent are kept as they are. -/
theorem ParentDevice.units_addVlan_other {device : ParentDevice} (other : device.name ≠ vlan.parent) :
    device.units (config.addVlan position vlan) = device.units config :=
  device.units_congr ⟨rfl, rfl⟩ (vlansOn_addVlan_other other)

/-- The VLANs on the parent are those from before, with the new one among them. -/
theorem vlansOn_addVlan_parent (config : NetworkConfig) (position : Nat) (vlan : Vlan) :
    ∃ earlier later, config.vlansOn vlan.parent = earlier ++ later ∧
      (config.addVlan position vlan).vlansOn vlan.parent = earlier ++ vlan :: later := by
  refine ⟨(config.vlans.take position).filter (·.parent = vlan.parent),
    (config.vlans.drop position).filter (·.parent = vlan.parent), ?_, ?_⟩
  · rw [NetworkConfig.vlansOn, ← List.filter_append, List.take_append_drop]
  · rw [NetworkConfig.vlansOn, NetworkConfig.addVlan, List.filter_append,
      List.filter_cons_of_pos (by simp)]

/-- The ports of the parent carry the id of the new VLAN besides those from before. -/
theorem carries_addVlan_iff {parent : ParentDevice} (named : parent.name = vlan.parent) {id : UInt16} :
    parent.Carries (config.addVlan position vlan) id ↔ parent.Carries config id ∨ id = vlan.id := by
  obtain ⟨earlier, later, before, after⟩ := vlansOn_addVlan_parent config position vlan
  simp only [ParentDevice.Carries, CarriesVlan, named, before, after, List.map_append,
    List.map_cons, List.mem_append, List.mem_cons]
  tauto

theorem carries_addVlan_same_iff {parent : ParentDevice} (named : parent.name = vlan.parent) :
    (∀ id, parent.Carries (config.addVlan position vlan) id ↔ parent.Carries config id) ↔
      parent.Carries config vlan.id := by
  simp only [carries_addVlan_iff named, or_iff_left_iff_imp, forall_eq]

end Stacked

/-! ### The units around those of one parent -/

/-- **The units of a configuration around those of one parent**: cut at two places, where a VLAN
could be declared that creates a device and configures it, and at the units of the parent that depend
on VLANs. -/
theorem NetworkConfig.units_framed {config : NetworkConfig} {before after : List ParentDevice}
    {parent : ParentDevice} (parents : config.parentDevices = before ++ parent :: after)
    {front back : List Vlan} (vlans : config.vlans = front ++ back) :
    config.units =
      (linkUnits config ++ config.interfaces.flatMap interfaceNetDevs ++
        config.bonds.flatMap bondNetDevs ++ front.map vlanNetDev) ++
      back.map vlanNetDev ++ before.flatMap (·.units config) ++
      [parent.ownUnit config, parent.peerUnit config, parent.portUnit config] ++
      (parent.others ++ after.flatMap (·.units config) ++ front.map (vlanNetwork config)) ++
      back.map (vlanNetwork config) := by
  rw [units, netDevUnits, networkUnits_eq, parents, vlans]
  simp only [List.map_append, List.flatMap_append, List.flatMap_cons, ParentDevice.units,
    List.append_assoc]

/-! ### The main result -/

/-- A unit is rewritten: it keeps its name, and its text up to a place from which it reads otherwise. -/
structure Rewritten (back newBack : String) (old new : UnitFile) : Prop where
  named : new.name = old.name
  texts : ∃ front, old.contents = front ++ back ∧ new.contents = front ++ newBack

/-- A unit attaches one more VLAN: it gains one line among those of the other VLANs, which come first
in the section about the network. -/
structure Attached (vlan : Vlan) (earlier later : List Vlan) (old new : UnitFile) : Prop where
  named : new.name = old.name
  texts : ∃ front back,
    old.contents =
      front ++ "\n[Network]\n" ++ vlanEntries earlier ++ (vlanEntries later ++ back) ∧
    new.contents = front ++ "\n[Network]\n" ++ vlanEntries earlier ++
      ("VLAN=" ++ vlan.name ++ "\n") ++ (vlanEntries later ++ back)

/-- **A configuration is extended by a VLAN on a parent.** -/
structure NetworkConfig.VlanAdded (config extended : NetworkConfig) (vlan : Vlan)
    (parent : ParentDevice) : Prop where
  declared : parent ∈ config.parentDevices
  parent_named : parent.name = vlan.parent
  /-- The units stay in their order; two are added, and all but three are kept as they are. -/
  framed : ∃ first second third fourth,
    config.units = first ++ second ++
      [parent.ownUnit config, parent.peerUnit config, parent.portUnit config] ++ third ++ fourth ∧
    extended.units = first ++ [vlanNetDev vlan] ++ second ++
      [parent.ownUnit extended, parent.peerUnit extended, parent.portUnit extended] ++ third ++
        [vlanNetwork config vlan] ++ fourth
  /-- No unit has had the name of one that is added. -/
  fresh : ∀ file ∈ config.units,
    file.name ≠ "12-" ++ vlan.name ++ ".netdev" ∧ file.name ≠ "22-" ++ vlan.name ++ ".network"
  added : (vlanNetDev vlan).name = "12-" ++ vlan.name ++ ".netdev" ∧
    (vlanNetwork config vlan).name = "22-" ++ vlan.name ++ ".network"
  /-- The own end of the parent attaches the VLAN. -/
  own : (parent.ownUnit config).name = unitName parent.rank vlan.parent ".network" ∧
    ∃ earlier later, config.vlansOn vlan.parent = earlier ++ later ∧
      Attached vlan earlier later (parent.ownUnit config) (parent.ownUnit extended)
  /-- The ports of the parent's bridge differ at most in what they say about VLANs, in the end. -/
  peer : (parent.peerUnit config).name = unitName parent.rank ("vt" ++ vlan.parent) ".network" ∧
    Rewritten (UnitLine.render (parent.vlanLines config))
      (UnitLine.render (parent.vlanLines extended)) (parent.peerUnit config) (parent.peerUnit extended)
  port : (parent.portUnit config).name = unitName parent.rank parent.other ".network" ∧
    Rewritten (UnitLine.render (parent.vlanLines config))
      (UnitLine.render (parent.vlanLines extended)) (parent.portUnit config) (parent.portUnit extended)
  /-- They stay what they are if they have admitted the id, and only then. -/
  carried : parent.Carries config vlan.id →
    parent.peerUnit extended = parent.peerUnit config ∧
      parent.portUnit extended = parent.portUnit config
  uncarried : ¬ parent.Carries config vlan.id →
    (parent.peerUnit extended).contents ≠ (parent.peerUnit config).contents ∧
      (parent.portUnit extended).contents ≠ (parent.portUnit config).contents

section Added

variable {config : NetworkConfig} {position : Nat} {vlan : Vlan} {parent : ParentDevice}

/-- The units of the two configurations, cut alike. -/
theorem units_addVlan (distinct : config.parents.Nodup) (declared : parent ∈ config.parentDevices)
    (named : parent.name = vlan.parent) : ∃ first second third fourth,
    config.units = first ++ second ++
      [parent.ownUnit config, parent.peerUnit config, parent.portUnit config] ++ third ++ fourth ∧
    (config.addVlan position vlan).units = first ++ [vlanNetDev vlan] ++ second ++
      [parent.ownUnit (config.addVlan position vlan), parent.peerUnit (config.addVlan position vlan),
        parent.portUnit (config.addVlan position vlan)] ++ third ++
        [vlanNetwork config vlan] ++ fourth := by
  have same : config.SameServers (config.addVlan position vlan) := ⟨rfl, rfl⟩
  obtain ⟨before, after, parents⟩ := List.append_of_mem declared
  have apart : ∀ device ∈ before ++ after, device.name ≠ vlan.parent := by
    rw [← config.parentDevices_names, parents, (List.perm_middle.map _).nodup_iff, List.map_cons,
      List.nodup_cons] at distinct
    exact fun device inside alike => distinct.1 (named ▸ alike ▸ List.mem_map_of_mem inside)
  have kept : ∀ device ∈ before ++ after,
      device.units (config.addVlan position vlan) = device.units config := fun device inside =>
    ParentDevice.units_addVlan_other (apart device inside)
  rw [List.forall_mem_append] at kept
  have old := NetworkConfig.units_framed parents (List.take_append_drop position config.vlans).symm
  have new := @NetworkConfig.units_framed (config.addVlan position vlan) before after parent parents
    (config.vlans.take position) (vlan :: config.vlans.drop position) rfl
  rw [List.flatMap_congr kept.1, List.flatMap_congr kept.2, same.vlanNetwork] at new
  refine ⟨linkUnits config ++ config.interfaces.flatMap interfaceNetDevs ++
      config.bonds.flatMap bondNetDevs ++ (config.vlans.take position).map vlanNetDev,
    (config.vlans.drop position).map vlanNetDev ++ before.flatMap (·.units config),
    parent.others ++ after.flatMap (·.units config) ++
      (config.vlans.take position).map (vlanNetwork config),
    (config.vlans.drop position).map (vlanNetwork config), ?_, ?_⟩
  · rw [old]
    simp only [List.append_assoc]
  · rw [new]
    simp only [List.map_cons, List.append_assoc, List.cons_append, List.nil_append]
    rfl

/-- No unit has the name of one of a VLAN whose own name is new. -/
theorem fresh_of_notMem (new : vlan.name ∉ config.vlans.map (·.name)) : ∀ file ∈ config.units,
    file.name ≠ "12-" ++ vlan.name ++ ".netdev" ∧ file.name ≠ "22-" ++ vlan.name ++ ".network" := by
  intro file member
  have creates : ⟨"12", ".netdev", config.vlans.map (·.name)⟩ ∈ config.unitGroups := by
    simp [NetworkConfig.unitGroups]
  have configures : ⟨"22", ".network", config.vlans.map (·.name)⟩ ∈ config.unitGroups := by
    simp [NetworkConfig.unitGroups]
  constructor
  · exact fun named => new (NetworkConfig.mem_stems_of_named member creates named)
  · exact fun named => new (NetworkConfig.mem_stems_of_named member configures named)

theorem attached_addVlan (named : parent.name = vlan.parent) :
    ∃ earlier later, config.vlansOn vlan.parent = earlier ++ later ∧
      Attached vlan earlier later (parent.ownUnit config)
        (parent.ownUnit (config.addVlan position vlan)) := by
  obtain ⟨earlier, later, stacked, extended⟩ := vlansOn_addVlan_parent config position vlan
  have same : config.SameServers (config.addVlan position vlan) := ⟨rfl, rfl⟩
  obtain ⟨front, back, text, extendedText⟩ := parent.ownUnit_contents same
  refine ⟨earlier, later, stacked, rfl, front, back, ?_, ?_⟩
  · rw [text, named, stacked, vlanEntries_append]
    simp only [String.append_assoc]
  · rw [extendedText, named, extended, vlanEntries_append, vlanEntries_cons]
    simp only [String.append_assoc]

end Added

/-- **A VLAN that a configuration is extended by adds two units and rewrites at most three**, if the
check lets the extended configuration pass: its parent's own end attaches it, and the ports of the
parent's bridge admit its id unless they have done so before. -/
theorem NetworkConfig.vlan_added {config : NetworkConfig} {position : Nat} {vlan : Vlan}
    (passed : (config.addVlan position vlan).validate = .ok ()) :
    ∃ parent, config.VlanAdded (config.addVlan position vlan) vlan parent := by
  have rules := WellFormed.of_validate passed
  have declares : vlan ∈ (config.addVlan position vlan).vlans :=
    List.mem_append_right _ List.mem_cons_self
  have known : vlan.parent ∈ config.parentDevices.map (·.name) := by
    rw [parentDevices_names]
    exact mem_parents.mpr (rules.parents_declared vlan declares)
  obtain ⟨parent, declared, named⟩ := List.mem_map.mp known
  have new : vlan.name ∉ config.vlans.map (·.name) := by
    have distinct := rules.vlan_names_nodup
    rw [addVlan, (List.perm_middle.map _).nodup_iff, List.map_cons, List.take_append_drop,
      List.nodup_cons] at distinct
    exact distinct.1
  obtain ⟨peerFront, portFront, ends⟩ := parent.ports_end
  have told : (∀ id, parent.Carries (config.addVlan position vlan) id ↔ parent.Carries config id) ↔
      parent.Carries config vlan.id := carries_addVlan_same_iff named
  exact ⟨parent, {
    declared := declared
    parent_named := named
    framed := units_addVlan rules.parents_nodup declared named
    fresh := fresh_of_notMem new
    added := ⟨rfl, rfl⟩
    own := ⟨named ▸ rfl, attached_addVlan named⟩
    peer := ⟨named ▸ parent.peerUnit_name config, rfl, peerFront, (ends _).1, (ends _).1⟩
    port := ⟨parent.port_named _, (parent.port_named _).trans (parent.port_named _).symm, portFront,
      (ends _).2, (ends _).2⟩
    carried := fun carries => parent.ports_congr (told.mpr carries)
    uncarried := fun absent => by
      have differ := mt parent.vlanText_eq_iff.mp (mt told.mp absent)
      rw [(ends _).1, (ends _).1, (ends _).2, (ends _).2]
      exact ⟨mt (String.append_right_inj _).mp differ, mt (String.append_right_inj _).mp differ⟩ }⟩

/-- One more VLAN on the interface, whose id the ports of the interface admit anyway. -/
def Vlan.lab : Vlan := { name := "lab", id := 20, parent := "eth0" }

/-- The VLAN is attached behind another, and the ports of its parent stay what they are. -/
theorem NetworkConfig.trunked_vlan_added : (trunked.addVlan 1 .lab).validate = .ok () ∧
    (∃ parent, trunked.VlanAdded (trunked.addVlan 1 .lab) .lab parent) ∧
    ((trunked.addVlan 1 .lab).units.filter (· ∉ trunked.units)).map (·.name) =
      ["12-lab.netdev", "20-eth0.network", "22-lab.network"] := by
  have passed : (trunked.addVlan 1 .lab).validate = .ok () := by decide +kernel
  exact ⟨passed, vlan_added passed, by decide +kernel⟩

end HostNet
