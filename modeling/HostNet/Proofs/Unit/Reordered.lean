/-
**The units of a configuration whose devices are listed in another order.**

The order in which interfaces and bonds are listed shows in the order of the units and nowhere else.
So does that of the VLANs, but for one place: a parent attaches its VLANs in the order in which they
are listed. The ports of its bridge list the ids in ascending order, whatever the order of the VLANs.

* `NetworkConfig.Reordered`: another configuration lists the same devices;
* `ParentDevice.carries_reordered_iff`: the ports of a parent carry the same ids;
* `RestackedUnit`: two units differ in the order in which a parent attaches its VLANs;
* `units_alike`: the units of the two configurations, device by device;
* `NetworkConfig.units_reordered`: the units are the same up to their order and to that one place.
-/

import HostNet.Proofs.Unit.Parents
import HostNet.Proofs.Unit.Ports

namespace HostNet

/-- **Another configuration lists the same devices**, each list in an order of its own. -/
structure NetworkConfig.Reordered (config other : NetworkConfig) : Prop where
  interfaces : other.interfaces.Perm config.interfaces
  bonds : other.bonds.Perm config.bonds
  vlans : other.vlans.Perm config.vlans
  servers : config.SameServers other

section Reordered

variable {config other : NetworkConfig} (reordered : config.Reordered other)

include reordered

/-! ### Units that follow the order -/

theorem linkUnits_perm : (linkUnits config).Perm (linkUnits other) :=
  (reordered.interfaces.symm.map _).append ((reordered.bonds.symm.flatMap_right _).map _)

theorem netDevUnits_perm : (netDevUnits config).Perm (netDevUnits other) :=
  ((reordered.interfaces.symm.flatMap_right _).append
    (reordered.bonds.symm.flatMap_right _)).append (reordered.vlans.symm.map _)

theorem parentDevices_perm : config.parentDevices.Perm other.parentDevices :=
  (reordered.interfaces.symm.map _).append (reordered.bonds.symm.map _)

theorem vlansOn_perm (device : String) : (other.vlansOn device).Perm (config.vlansOn device) :=
  reordered.vlans.filter _

/-- The ports of a parent carry the same ids. -/
theorem ParentDevice.carries_reordered_iff (parent : ParentDevice) (id : UInt16) :
    parent.Carries other id ↔ parent.Carries config id := by
  simp only [Carries, CarriesVlan, ((vlansOn_perm reordered parent.name).map (·.id)).mem_iff]

end Reordered

/-! ### Units that show the order -/

/-- **Two units of the own end of a parent attach its VLANs in different orders**, and are the same
otherwise: the lines that attach VLANs come first in the section about the network. -/
structure RestackedUnit (config : NetworkConfig) (parent : ParentDevice) (old new : UnitFile) :
    Prop where
  declared : parent ∈ config.parentDevices
  own : old = parent.ownUnit config
  named : new.name = old.name
  texts : ∃ front stacked back, stacked.Perm (config.vlansOn parent.name) ∧
    old.contents =
      front ++ "\n[Network]\n" ++ vlanEntries (config.vlansOn parent.name) ++ back ∧
    new.contents = front ++ "\n[Network]\n" ++ vlanEntries stacked ++ back

/-- Two units are the same but for the order in which a parent attaches its VLANs. -/
def AlikeUnits (config : NetworkConfig) (old new : UnitFile) : Prop :=
  new = old ∨ ∃ parent, RestackedUnit config parent old new

theorem alikeUnits_refl (config : NetworkConfig) (files : List UnitFile) :
    List.Forall₂ (AlikeUnits config) files files :=
  List.forall₂_same.mpr fun _ _ => .inl rfl

section Alike

variable {config other : NetworkConfig} (reordered : config.Reordered other)

include reordered

theorem restackedUnit {parent : ParentDevice} (declared : parent ∈ config.parentDevices) :
    RestackedUnit config parent (parent.ownUnit config) (parent.ownUnit other) := by
  obtain ⟨front, back, text, otherText⟩ := parent.ownUnit_contents reordered.servers
  exact ⟨declared, rfl, rfl, front, other.vlansOn parent.name, back, vlansOn_perm reordered _, text,
    otherText⟩

/-- The units of a parent are the same but for that of its own end. -/
theorem parent_units_alike {parent : ParentDevice} (declared : parent ∈ config.parentDevices) :
    List.Forall₂ (AlikeUnits config) (parent.units config) (parent.units other) := by
  obtain ⟨peer, port⟩ := parent.ports_congr (parent.carries_reordered_iff reordered)
  exact .cons (.inr ⟨parent, restackedUnit reordered declared⟩) <| .cons (.inl peer) <|
    .cons (.inl port) <| alikeUnits_refl config parent.others

/-- The units of the other configuration, in the order in which this one lists its devices. -/
theorem units_perm_listed : (linkUnits config ++ netDevUnits config ++
    (config.parentDevices.flatMap (·.units other) ++ config.vlans.map (vlanNetwork other))).Perm
      other.units := by
  rw [NetworkConfig.units, networkUnits_eq]
  exact ((linkUnits_perm reordered).append (netDevUnits_perm reordered)).append <|
    ((parentDevices_perm reordered).flatMap_right _).append (reordered.vlans.symm.map _)

/-- **The units of the two configurations, device by device.** -/
theorem units_alike : ∃ units, units.Perm other.units ∧
    List.Forall₂ (AlikeUnits config) config.units units := by
  refine ⟨_, units_perm_listed reordered, ?_⟩
  rw [NetworkConfig.units, networkUnits_eq, reordered.servers.vlanNetwork]
  refine List.rel_append (alikeUnits_refl config _) (List.rel_append ?_ (alikeUnits_refl config _))
  have paired : List.Forall₂ (fun parent same => same = parent ∧ parent ∈ config.parentDevices)
      config.parentDevices config.parentDevices :=
    List.forall₂_same.mpr fun parent declared => ⟨rfl, declared⟩
  refine List.rel_flatMap paired ?_
  rintro parent _ ⟨rfl, declared⟩
  exact parent_units_alike reordered declared

/-- If the VLANs stay in their order, nothing but the order of the units changes. -/
theorem units_perm (unmoved : other.vlans = config.vlans) : other.units.Perm config.units := by
  have kept : ∀ parent ∈ config.parentDevices, parent.units other = parent.units config :=
    fun parent _ => parent.units_congr reordered.servers
      (by rw [NetworkConfig.vlansOn, NetworkConfig.vlansOn, unmoved])
  have listed := units_perm_listed reordered
  rw [List.flatMap_congr kept, reordered.servers.vlanNetwork, ← networkUnits_eq] at listed
  exact listed.symm

end Alike

/-! ### The main result -/

/-- **The units of a configuration whose devices are listed in another order** are the same up to
their own order, if the VLANs stay in place; if they do not, a parent may attach its VLANs in another
order, and there is no other difference. The units that name cards come first in any case, then those
that create devices, and then those that configure devices. -/
theorem NetworkConfig.units_reordered {config other : NetworkConfig}
    (reordered : config.Reordered other) :
    (other.vlans = config.vlans → other.units.Perm config.units) ∧
      (∃ units, units.Perm other.units ∧ List.Forall₂ (AlikeUnits config) config.units units) ∧
      other.units =
        other.unitsOfKind ".link" ++ other.unitsOfKind ".netdev" ++ other.unitsOfKind ".network" := by
  refine ⟨units_perm reordered, units_alike reordered, ?_⟩
  rw [unitsOfKind_link, unitsOfKind_netdev, unitsOfKind_network]
  rfl

/-- Two interfaces, one with two VLANs, and a bond with another. -/
def NetworkConfig.stacked : NetworkConfig where
  interfaces := [{ name := "eth0", hwaddr := "aa:00:00:00:00:01" },
    { name := "eth1", hwaddr := "aa:00:00:00:00:02" }]
  bonds := [{ name := "uplink", members := ["aa:00:00:00:00:02"], mode := .linkAggregation }]
  vlans := [{ name := "office", id := 9, parent := "eth0" },
    { name := "guests", id := 20, parent := "uplink" },
    { name := "lab", id := 7, parent := "eth0" }]

/-- The same devices, the other way round. -/
def NetworkConfig.upended : NetworkConfig :=
  { stacked with interfaces := stacked.interfaces.reverse, vlans := stacked.vlans.reverse }

/-- Of all units, only that of the interface with two VLANs tells the two configurations apart. -/
theorem NetworkConfig.upended_reordered : stacked.Reordered upended ∧
    (∃ units, units.Perm upended.units ∧
      List.Forall₂ (AlikeUnits stacked) stacked.units units) ∧
    upended.units = upended.unitsOfKind ".link" ++ upended.unitsOfKind ".netdev" ++
      upended.unitsOfKind ".network" ∧
    (upended.units.filter (· ∉ stacked.units)).map (·.name) = ["20-eth0.network"] := by
  have reordered : stacked.Reordered upended :=
    ⟨List.reverse_perm _, .refl _, List.reverse_perm _, ⟨rfl, rfl⟩⟩
  obtain ⟨_, alike, ordered⟩ := units_reordered reordered
  exact ⟨reordered, alike, ordered, by decide +kernel⟩

end HostNet
