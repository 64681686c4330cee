/-
**The names of the units.**

A unit is named by its rank, by what it is about, and by its kind. What it is about is the name of a
device with or without a tag of two letters in front, the device name of a card, or a bond's name
with the number of a member. The ranks keep the groups of units apart; within a group two units have
one name only if a declared name looks like one that is made from another.

* `NetworkConfig.unitGroups`: the units by rank, each with what it is about;
* `NetworkConfig.names_nodup_iff_stems`: names differ exactly if they differ within each group;
* `NetworkConfig.NamesApart`: no declared name looks like a made one;
* `NetworkConfig.names_nodup_iff_namesApart`: for a configuration that passes the check this is
  exactly what keeps the units apart.
-/

import HostNet.Proofs.Validation.WellFormed
import HostNet.Unit.Basic
import Mathlib.Data.List.Nodup
import Mathlib.Data.List.Perm.Basic

namespace HostNet

open HostNet.Text

/-! ### What units are about -/

/-- The name of a unit from its rank, what it is about, and its kind. -/
def unitName (rank stem kind : String) : String := rank ++ "-" ++ stem ++ kind

/-- What the unit of a bond's member is about. -/
def memberStem (bond : String) (index : Nat) : String := "bn" ++ bond ++ "-dev" ++ toString index

/-- What the units that create the devices of an interface are about. -/
def interfaceNetDevStems (interface : Interface) : List String :=
  ["br" ++ interface.name, interface.name]

/-- What the units that create the devices of a bond are about. -/
def bondNetDevStems (bond : Bond) : List String :=
  ["bn" ++ bond.name, "br" ++ bond.name, bond.name]

/-- What the units that configure the devices of an interface are about. -/
def interfaceNetworkStems (interface : Interface) : List String :=
  [interface.name, "vt" ++ interface.name, interface.physicalName, "br" ++ interface.name]

/-- What the units that configure the devices of a bond are about. -/
def bondNetworkStems (bond : Bond) : List String :=
  [bond.name, "vt" ++ bond.name, "bn" ++ bond.name, "br" ++ bond.name] ++
    (List.range bond.members.length).map (memberStem bond.name)

/-- Units of one rank. -/
structure UnitGroup where
  rank : String
  kind : String
  /-- What the units are about. -/
  stems : List String

/-- The names of the units of one rank. -/
def UnitGroup.names (group : UnitGroup) : List String :=
  group.stems.map fun stem => unitName group.rank stem group.kind

/-- The units by rank. -/
def NetworkConfig.unitGroups (config : NetworkConfig) : List UnitGroup := [
  ⟨"00", ".link", config.interfaces.map (·.physicalName)⟩,
  ⟨"01", ".link", config.bondMembers.map Hwaddr.deviceName⟩,
  ⟨"10", ".netdev", config.interfaces.flatMap interfaceNetDevStems⟩,
  ⟨"11", ".netdev", config.bonds.flatMap bondNetDevStems⟩,
  ⟨"12", ".netdev", config.vlans.map (·.name)⟩,
  ⟨"20", ".network", config.interfaces.flatMap interfaceNetworkStems⟩,
  ⟨"21", ".network", config.bonds.flatMap bondNetworkStems⟩,
  ⟨"22", ".network", config.vlans.map (·.name)⟩]

/-! ### The groups make up the units -/

theorem unitName_tagged (rank tag device kind : String) :
    rank ++ ("-" ++ tag) ++ device ++ kind = unitName rank (tag ++ device) kind := by
  simp only [unitName, String.append_assoc]

theorem interfaceNetDevs_names (interface : Interface) :
    (interfaceNetDevs interface).map (·.name) =
      (interfaceNetDevStems interface).map fun stem => unitName "10" stem ".netdev" := by
  have bridge := unitName_tagged "10" "br" interface.name ".netdev"
  simp only [interfaceNetDevs, interfaceNetDevStems, bridgeNetDev, pairNetDev, List.map_cons,
    List.map_nil, ← bridge]
  rfl

theorem bondNetDevs_names (bond : Bond) :
    (bondNetDevs bond).map (·.name) =
      (bondNetDevStems bond).map fun stem => unitName "11" stem ".netdev" := by
  have bridge := unitName_tagged "11" "br" bond.name ".netdev"
  have self := unitName_tagged "11" "bn" bond.name ".netdev"
  simp only [bondNetDevs, bondNetDevStems, bondNetDev, bridgeNetDev, pairNetDev, List.map_cons,
    List.map_nil, ← bridge, ← self]
  rfl

theorem interfaceNetworks_names (config : NetworkConfig) (interface : Interface) :
    (interfaceNetworks config interface).map (·.name) =
      (interfaceNetworkStems interface).map fun stem => unitName "20" stem ".network" := by
  have peer := unitName_tagged "20" "vt" interface.name ".network"
  have bridge := unitName_tagged "20" "br" interface.name ".network"
  simp only [interfaceNetworks, interfaceNetworkStems, endNetwork, peerNetwork, cardNetwork,
    bridgeNetwork, List.map_cons, List.map_nil, ← peer, ← bridge]
  rfl

theorem memberNetwork_name (bond : Bond) (index : Nat) (member : String) :
    (memberNetwork bond index member).name =
      unitName "21" (memberStem bond.name index) ".network" := by
  have tagged := unitName_tagged "21" "bn" (bond.name ++ "-dev" ++ toString index) ".network"
  simp only [memberNetwork, memberStem, String.append_assoc] at tagged ⊢
  exact tagged

theorem bondNetworks_names (config : NetworkConfig) (bond : Bond) :
    (bondNetworks config bond).map (·.name) =
      (bondNetworkStems bond).map fun stem => unitName "21" stem ".network" := by
  have peer := unitName_tagged "21" "vt" bond.name ".network"
  have self := unitName_tagged "21" "bn" bond.name ".network"
  have bridge := unitName_tagged "21" "br" bond.name ".network"
  have members : (bond.members.mapIdx (memberNetwork bond)).map (·.name) =
      ((List.range bond.members.length).map (memberStem bond.name)).map
        fun stem => unitName "21" stem ".network" := by
    rw [List.mapIdx_eq_zipIdx_map, List.map_map, List.map_map, List.range_eq_range',
      ← List.zipIdx_map_snd 0 bond.members, List.map_map]
    exact List.map_congr_left fun entry _ => memberNetwork_name bond entry.2 entry.1
  rw [bondNetworks, bondNetworkStems, List.map_append, List.map_append, members]
  simp only [endNetwork, peerNetwork, bondNetwork, bridgeNetwork, List.map_cons, List.map_nil,
    ← peer, ← self, ← bridge]
  rfl

/-- **The names of the units are the names of the groups.** -/
theorem NetworkConfig.units_names (config : NetworkConfig) :
    config.units.map (·.name) = config.unitGroups.flatMap (·.names) := by
  simp only [units, linkUnits, netDevUnits, networkUnits, List.map_append, List.map_flatMap,
    List.map_map, interfaceNetDevs_names, bondNetDevs_names, interfaceNetworks_names,
    bondNetworks_names, unitGroups, UnitGroup.names, List.flatMap_cons, List.flatMap_nil,
    List.append_nil, List.append_assoc, bondMembers]
  rfl

/-! ### Ranks keep the groups apart -/

theorem unitName_injective (rank kind : String) :
    Function.Injective fun stem => unitName rank stem kind := by
  intro first second same
  simp only [unitName] at same
  exact (String.append_right_inj _).mp ((String.append_left_inj _).mp same)

theorem rank_eq_of_unitName_eq {rank other stem stemOther kind kindOther : String}
    (lengths : rank.toList.length = other.toList.length)
    (same : unitName rank stem kind = unitName other stemOther kindOther) : rank = other := by
  have characters := congrArg String.toList same
  simp only [unitName, String.toList_append, List.append_assoc] at characters
  exact String.toList_injective (List.append_inj characters lengths).1

theorem NetworkConfig.unitGroups_map_rank (config : NetworkConfig) :
    config.unitGroups.map (·.rank) = ["00", "01", "10", "11", "12", "20", "21", "22"] := rfl

/-- The groups have ranks of two characters, all of them different. -/
theorem NetworkConfig.unitGroups_ranks (config : NetworkConfig) :
    config.unitGroups.Pairwise fun first second =>
      first.rank.toList.length = second.rank.toList.length ∧ first.rank ≠ second.rank := by
  have apart : (config.unitGroups.map (·.rank)).Pairwise fun first second =>
      first.toList.length = second.toList.length ∧ first ≠ second := by
    rw [unitGroups_map_rank]
    decide
  exact List.pairwise_map.mp apart

theorem NetworkConfig.unitGroups_rank_length (config : NetworkConfig) :
    ∀ group ∈ config.unitGroups, group.rank.toList.length = 2 := by
  have lengths : ∀ rank ∈ config.unitGroups.map (·.rank), rank.toList.length = 2 := by
    rw [unitGroups_map_rank]
    decide
  exact List.forall_mem_map.mp lengths

/-- The name of a unit starts with its rank. -/
theorem NetworkConfig.exists_rank {config : NetworkConfig} {file : UnitFile}
    (member : file ∈ config.units) :
    ∃ rank ∈ ["00", "01", "10", "11", "12", "20", "21", "22"], ∃ rest, file.name = rank ++ rest := by
  have named : file.name ∈ config.unitGroups.flatMap (·.names) := by
    rw [← units_names]
    exact List.mem_map_of_mem member
  obtain ⟨group, inside, stems⟩ := List.mem_flatMap.mp named
  obtain ⟨stem, _, equal⟩ := List.mem_map.mp stems
  refine ⟨group.rank, ?_, "-" ++ stem ++ group.kind, ?_⟩
  · exact List.mem_map_of_mem (f := (·.rank)) inside
  · simp only [← equal, unitName, String.append_assoc]

/-- A unit whose name is of the form of a group is about one of the devices of the group. -/
theorem NetworkConfig.mem_stems_of_named {config : NetworkConfig} {file : UnitFile}
    (member : file ∈ config.units) {group : UnitGroup} (inside : group ∈ config.unitGroups)
    {stem : String} (named : file.name = unitName group.rank stem group.kind) :
    stem ∈ group.stems := by
  have listed : file.name ∈ config.unitGroups.flatMap (·.names) :=
    config.units_names ▸ List.mem_map_of_mem member
  obtain ⟨other, found, stems⟩ := List.mem_flatMap.mp listed
  obtain ⟨own, about, same⟩ := List.mem_map.mp stems
  rw [named] at same
  have distinct : (config.unitGroups.map (·.rank)).Nodup :=
    List.pairwise_map.mpr (config.unitGroups_ranks.imp And.right)
  have lengths := (config.unitGroups_rank_length other found).trans
    (config.unitGroups_rank_length group inside).symm
  obtain rfl : other = group :=
    List.inj_on_of_nodup_map distinct found inside (rank_eq_of_unitName_eq lengths same)
  exact unitName_injective other.rank other.kind same ▸ about

/-- **Names differ exactly if they differ within each group.** -/
theorem NetworkConfig.names_nodup_iff_stems (config : NetworkConfig) :
    (config.units.map (·.name)).Nodup ↔ ∀ group ∈ config.unitGroups, group.stems.Nodup := by
  have apart : config.unitGroups.Pairwise fun first second =>
      List.Disjoint first.names second.names := by
    refine config.unitGroups_ranks.imp fun {first second} ranks => ?_
    intro name inFirst inSecond
    obtain ⟨stem, _, rfl⟩ := List.mem_map.mp inFirst
    obtain ⟨other, _, same⟩ := List.mem_map.mp inSecond
    exact ranks.2 (rank_eq_of_unitName_eq ranks.1 same.symm)
  rw [units_names, List.nodup_flatMap, and_iff_left apart]
  exact forall₂_congr fun group _ =>
    List.nodup_map_iff (unitName_injective group.rank group.kind)

/-! ### Made names -/

theorem tagged_injective (tag : String) : Function.Injective fun name => tag ++ name := by
  intro first second same
  exact (String.append_right_inj tag).mp same

/-- Different tags of one length make different names. -/
theorem tagged_ne {tag other : String} (lengths : tag.toList.length = other.toList.length)
    (different : tag ≠ other) (first second : String) : tag ++ first ≠ other ++ second := by
  intro same
  have characters := congrArg String.toList same
  simp only [String.toList_append] at characters
  exact different (String.toList_injective (List.append_inj characters lengths).1)

theorem v_notMem_toString (index : Nat) : 'v' ∉ (toString index).toList :=
  fun inside => absurd (isDigit_of_mem_toString inside) (by decide)

/-- A name with the number of a member in the end tells both. -/
theorem numbered_injective {first second : String} {index other : Nat}
    (same : first ++ "-dev" ++ toString index = second ++ "-dev" ++ toString other) :
    first = second ∧ index = other := by
  -- Read from its end, the text shows the number before its first letter, which is a v.
  have reading : ∀ (name : String) (number : Nat),
      splitOnce? 'v' (name ++ "-dev" ++ toString number).toList.reverse =
        some ((toString number).toList.reverse, ['e', 'd', '-'] ++ name.toList.reverse) := by
    intro name number
    have written : (name ++ "-dev" ++ toString number).toList.reverse =
        (toString number).toList.reverse ++ 'v' :: (['e', 'd', '-'] ++ name.toList.reverse) := by
      simp
    rw [written]
    exact splitOnce?_append (by simpa using v_notMem_toString number) _
  have parts := reading first index
  rw [same, reading second other, Option.some_inj, Prod.mk.injEq] at parts
  obtain ⟨numbers, names⟩ := parts
  refine ⟨?_, ?_⟩
  · exact String.toList_injective (List.reverse_injective (List.append_cancel_left names)).symm
  · exact (eq_of_toString (String.toList_injective (List.reverse_injective numbers))).symm

/-! ### What keeps the units of a configuration apart -/

/-- **No declared name looks like a made one.** An interface is not named like the bridge, the peer
or the card of an interface; a bond is not named like the bridge, the peer or the bond device of a
bond, nor like the unit of a bond's member with or without the tag of the bond device. -/
structure NetworkConfig.NamesApart (config : NetworkConfig) : Prop where
  interfaces : ∀ interface ∈ config.interfaces, ∀ other ∈ config.interfaces,
    interface.name ≠ "br" ++ other.name ∧ interface.name ≠ "vt" ++ other.name ∧
      interface.name ≠ other.physicalName
  bonds : ∀ bond ∈ config.bonds, ∀ other ∈ config.bonds,
    bond.name ≠ "br" ++ other.name ∧ bond.name ≠ "vt" ++ other.name ∧
      bond.name ≠ "bn" ++ other.name
  members : ∀ bond ∈ config.bonds, ∀ other ∈ config.bonds, ∀ index < other.members.length,
    bond.name ≠ memberStem other.name index ∧
      bond.name ≠ other.name ++ "-dev" ++ toString index

section Made

variable {α : Type} {items : List α} {name : α → String}

/-- What units of several kinds are about, kind by kind. -/
theorem flatMap_cons_perm (items : List α) (first : α → String) (others : α → List String) :
    (items.flatMap fun item => first item :: others item).Perm
      (items.map first ++ items.flatMap others) :=
  (List.map_append_flatMap_perm items first others).symm

theorem nodup_map_tagged (tag : String) (distinct : (items.map name).Nodup) :
    (items.map fun item => tag ++ name item).Nodup := by
  have tagged := distinct.map (tagged_injective tag)
  rwa [List.map_map] at tagged

theorem disjoint_tagged {β : Type} {others : List β} {nameOther : β → String} {tag other : String}
    (lengths : tag.toList.length = other.toList.length) (different : tag ≠ other) :
    List.Disjoint (items.map fun item => tag ++ name item)
      (others.map fun item => other ++ nameOther item) := by
  intro made inFirst inSecond
  obtain ⟨first, _, rfl⟩ := List.mem_map.mp inFirst
  obtain ⟨second, _, same⟩ := List.mem_map.mp inSecond
  exact tagged_ne lengths different _ _ same.symm

/-- Names and made names that do not repeat differ if no name is a made one. -/
theorem nodup_append_made_iff {names made : List String} (distinct : names.Nodup)
    (distinctMade : made.Nodup) : (names ++ made).Nodup ↔ ∀ name ∈ names, name ∉ made := by
  rw [List.nodup_append', and_iff_right distinct, and_iff_right distinctMade]
  exact Iff.rfl

theorem notMem_map_iff {made : α → String} {name : String} :
    name ∉ items.map made ↔ ∀ item ∈ items, name ≠ made item := by
  simp [eq_comm]

end Made

/-! ### The groups of interfaces and of bonds -/

section Groups

variable {interfaces : List Interface} {bonds : List Bond}

theorem interfaceNetDevStems_nodup_iff (distinct : (interfaces.map (·.name)).Nodup) :
    (interfaces.flatMap interfaceNetDevStems).Nodup ↔
      ∀ interface ∈ interfaces, ∀ other ∈ interfaces, interface.name ≠ "br" ++ other.name := by
  have kinds : (interfaces.flatMap interfaceNetDevStems).Perm
      (interfaces.map (·.name) ++ interfaces.map fun interface => "br" ++ interface.name) := by
    refine (flatMap_cons_perm interfaces _ _).trans ?_
    rw [← List.map_eq_flatMap]
    exact List.perm_append_comm
  rw [kinds.nodup_iff, nodup_append_made_iff distinct (nodup_map_tagged "br" distinct)]
  simp only [List.forall_mem_map, notMem_map_iff]

theorem bondNetDevStems_nodup_iff (distinct : (bonds.map (·.name)).Nodup) :
    (bonds.flatMap bondNetDevStems).Nodup ↔
      ∀ bond ∈ bonds, ∀ other ∈ bonds,
        bond.name ≠ "bn" ++ other.name ∧ bond.name ≠ "br" ++ other.name := by
  have kinds : (bonds.flatMap bondNetDevStems).Perm (bonds.map (·.name) ++
      ((bonds.map fun bond => "bn" ++ bond.name) ++ bonds.map fun bond => "br" ++ bond.name)) := by
    refine (flatMap_cons_perm bonds _ _).trans ?_
    refine ((flatMap_cons_perm bonds _ _).append_left _).trans ?_
    rw [← List.map_eq_flatMap, ← List.append_assoc]
    exact List.perm_append_comm
  have made : ((bonds.map fun bond => "bn" ++ bond.name) ++
      bonds.map fun bond => "br" ++ bond.name).Nodup :=
    (nodup_map_tagged "bn" distinct).append (nodup_map_tagged "br" distinct)
      (disjoint_tagged (by decide) (by decide))
  rw [kinds.nodup_iff, nodup_append_made_iff distinct made]
  simp only [List.forall_mem_map, List.mem_append, not_or, notMem_map_iff, forall_and]

theorem interfaceNetworkStems_nodup_iff (distinct : (interfaces.map (·.name)).Nodup)
    (cards : (interfaces.map (·.physicalName)).Nodup) :
    (interfaces.flatMap interfaceNetworkStems).Nodup ↔
      ∀ interface ∈ interfaces, ∀ other ∈ interfaces,
        interface.name ≠ "vt" ++ other.name ∧ interface.name ≠ other.physicalName ∧
          interface.name ≠ "br" ++ other.name := by
  have kinds : (interfaces.flatMap interfaceNetworkStems).Perm (interfaces.map (·.name) ++
      ((interfaces.map fun interface => "vt" ++ interface.name) ++
        (interfaces.map (·.physicalName) ++
          interfaces.map fun interface => "br" ++ interface.name))) := by
    refine (flatMap_cons_perm interfaces _ _).trans (List.Perm.append_left _ ?_)
    refine (flatMap_cons_perm interfaces _ _).trans (List.Perm.append_left _ ?_)
    refine (flatMap_cons_perm interfaces _ _).trans (List.Perm.append_left _ ?_)
    rw [← List.map_eq_flatMap]
  have made : ((interfaces.map fun interface => "vt" ++ interface.name) ++
      (interfaces.map (·.physicalName) ++
        interfaces.map fun interface => "br" ++ interface.name)).Nodup := by
    have later : (interfaces.map (·.physicalName) ++
        interfaces.map fun interface => "br" ++ interface.name).Nodup :=
      cards.append (nodup_map_tagged "br" distinct) (disjoint_tagged (by decide) (by decide))
    refine (nodup_map_tagged "vt" distinct).append later (List.disjoint_append_right.mpr ⟨?_, ?_⟩)
    · exact disjoint_tagged (by decide) (by decide)
    · exact disjoint_tagged (by decide) (by decide)
  rw [kinds.nodup_iff, nodup_append_made_iff distinct made]
  simp only [List.forall_mem_map, List.mem_append, not_or, notMem_map_iff, forall_and]

/-- The names of bonds with the numbers of their members. -/
def numberedMembers (bonds : List Bond) : List String :=
  bonds.flatMap fun bond =>
    (List.range bond.members.length).map fun index => bond.name ++ "-dev" ++ toString index

theorem notMem_numberedMembers_iff {name : String} :
    name ∉ numberedMembers bonds ↔
      ∀ bond ∈ bonds, ∀ index < bond.members.length, name ≠ bond.name ++ "-dev" ++ toString index := by
  simp [numberedMembers, eq_comm]

theorem numberedMembers_nodup (distinct : (bonds.map (·.name)).Nodup) :
    (numberedMembers bonds).Nodup := by
  refine List.nodup_flatMap.mpr ⟨fun bond _ => ?_, ?_⟩
  · exact List.nodup_range.map fun index other same => (numbered_injective same).2
  · refine (List.pairwise_map.mp distinct).imp fun {bond other} different => ?_
    intro made inFirst inSecond
    obtain ⟨index, _, rfl⟩ := List.mem_map.mp inFirst
    obtain ⟨number, _, same⟩ := List.mem_map.mp inSecond
    exact different (numbered_injective same).1.symm

theorem memberStem_eq (bond : String) (index : Nat) :
    memberStem bond index = "bn" ++ (bond ++ "-dev" ++ toString index) := by
  simp only [memberStem, String.append_assoc]

/-- The names made for bonds and their members. The bond devices and the members share a tag, so they
can only differ behind it. -/
def bondMadeNames (bonds : List Bond) : List String :=
  (bonds.map fun bond => "vt" ++ bond.name) ++ ((bonds.map fun bond => "br" ++ bond.name) ++
    (bonds.map (·.name) ++ numberedMembers bonds).map ("bn" ++ ·))

theorem bondNetworkStems_perm (bonds : List Bond) :
    (bonds.flatMap bondNetworkStems).Perm (bonds.map (·.name) ++ bondMadeNames bonds) := by
  have tagged : (bonds.map fun bond => "bn" ++ bond.name) ++
      (bonds.flatMap fun bond => (List.range bond.members.length).map (memberStem bond.name)) =
        (bonds.map (·.name) ++ numberedMembers bonds).map ("bn" ++ ·) := by
    rw [List.map_append, List.map_map, numberedMembers, List.map_flatMap]
    simp only [List.map_map, Function.comp_def, ← memberStem_eq]
  refine (flatMap_cons_perm bonds _ _).trans (List.Perm.append_left _ ?_)
  refine (flatMap_cons_perm bonds _ _).trans (List.Perm.append_left _ ?_)
  refine (flatMap_cons_perm bonds _ _).trans ?_
  refine ((flatMap_cons_perm bonds _ _).append_left _).trans ?_
  rw [← tagged, ← List.append_assoc, ← List.append_assoc]
  exact List.perm_append_comm.append_right _

theorem notMem_bondMadeNames_iff {name : String} :
    name ∉ bondMadeNames bonds ↔
      (∀ bond ∈ bonds, name ≠ "br" ++ bond.name ∧ name ≠ "vt" ++ bond.name ∧
        name ≠ "bn" ++ bond.name) ∧
        ∀ bond ∈ bonds, ∀ index < bond.members.length, name ≠ memberStem bond.name index := by
  have members : name ∉ (numberedMembers bonds).map ("bn" ++ ·) ↔
      ∀ bond ∈ bonds, ∀ index < bond.members.length, name ≠ memberStem bond.name index := by
    simp only [numberedMembers, List.mem_map, List.mem_flatMap, List.mem_range, memberStem_eq]
    constructor
    · rintro absent bond member index within rfl
      exact absent ⟨_, ⟨bond, member, index, within, rfl⟩, rfl⟩
    · rintro each ⟨_, ⟨bond, member, index, within, rfl⟩, rfl⟩
      exact each bond member index within rfl
  rw [bondMadeNames, List.map_append, List.map_map]
  simp only [List.mem_append, not_or, notMem_map_iff, members, forall_and, Function.comp_def]
  constructor
  · rintro ⟨peers, bridges, devices, numbered⟩
    exact ⟨⟨bridges, peers, devices⟩, numbered⟩
  · rintro ⟨⟨bridges, peers, devices⟩, numbered⟩
    exact ⟨peers, bridges, devices, numbered⟩

theorem bondMadeNames_nodup_iff (distinct : (bonds.map (·.name)).Nodup) :
    (bondMadeNames bonds).Nodup ↔
      ∀ bond ∈ bonds, ∀ other ∈ bonds, ∀ index < other.members.length,
        bond.name ≠ other.name ++ "-dev" ++ toString index := by
  have numbered : ((bonds.map (·.name) ++ numberedMembers bonds).map ("bn" ++ ·)).Nodup ↔
      ∀ bond ∈ bonds, bond.name ∉ numberedMembers bonds := by
    rw [List.nodup_map_iff (tagged_injective "bn"),
      nodup_append_made_iff distinct (numberedMembers_nodup distinct), List.forall_mem_map]
  simp only [← notMem_numberedMembers_iff, ← numbered]
  constructor
  · exact fun nodup => nodup.of_append_right.of_append_right
  · intro nodup
    have bridges := (nodup_map_tagged "br" distinct).append nodup
      (disjoint_tagged (by decide) (by decide))
    refine (nodup_map_tagged "vt" distinct).append bridges (List.disjoint_append_right.mpr ⟨?_, ?_⟩)
    · exact disjoint_tagged (by decide) (by decide)
    · exact disjoint_tagged (by decide) (by decide)

theorem bondNetworkStems_nodup_iff (distinct : (bonds.map (·.name)).Nodup) :
    (bonds.flatMap bondNetworkStems).Nodup ↔
      (∀ bond ∈ bonds, bond.name ∉ bondMadeNames bonds) ∧ (bondMadeNames bonds).Nodup := by
  rw [(bondNetworkStems_perm bonds).nodup_iff, List.nodup_append', and_iff_right distinct, and_comm]
  show (∀ name ∈ _, name ∉ _) ∧ _ ↔ _
  rw [List.forall_mem_map]

end Groups

/-! ### Units of a configuration that passes the check -/

namespace NetworkConfig

variable {config : NetworkConfig}

theorem WellFormed.interface_names_nodup (rules : config.WellFormed) :
    (config.interfaces.map (·.name)).Nodup :=
  rules.names_distinct.of_append_left.of_append_left

theorem WellFormed.bond_names_nodup (rules : config.WellFormed) :
    (config.bonds.map (·.name)).Nodup :=
  rules.names_distinct.of_append_left.of_append_right

theorem WellFormed.vlan_names_nodup (rules : config.WellFormed) :
    (config.vlans.map (·.name)).Nodup :=
  rules.names_distinct.of_append_right

theorem deviceNames_nodup {hwaddrs : List String} (formed : ∀ hwaddr ∈ hwaddrs, Hwaddr.Formed hwaddr)
    (distinct : (hwaddrs.map Hwaddr.key).Nodup) : (hwaddrs.map Hwaddr.deviceName).Nodup := by
  refine (distinct.of_map).map_on fun first inFirst second inSecond same => ?_
  have keys := Hwaddr.deviceName_injective (formed first inFirst) (formed second inSecond) same
  exact List.inj_on_of_nodup_map distinct inFirst inSecond keys

theorem WellFormed.physicalNames_nodup (rules : config.WellFormed) :
    (config.interfaces.map (·.physicalName)).Nodup := by
  have formed : ∀ hwaddr ∈ config.interfaces.map (·.hwaddr), Hwaddr.Formed hwaddr := by
    simpa using rules.hwaddrs_formed
  have keys : ((config.interfaces.map (·.hwaddr)).map Hwaddr.key).Nodup := by
    simpa [declaredKeys, Function.comp_def] using rules.hwaddrs_distinct
  have names := deviceNames_nodup formed keys
  rwa [List.map_map] at names

theorem WellFormed.memberNames_nodup (rules : config.WellFormed) :
    (config.bondMembers.map Hwaddr.deviceName).Nodup :=
  deviceNames_nodup rules.members_formed rules.members_distinct

/-- The groups differ within themselves exactly if no declared name looks like a made one. -/
theorem WellFormed.stems_nodup_iff (rules : config.WellFormed) :
    (∀ group ∈ config.unitGroups, group.stems.Nodup) ↔ config.NamesApart := by
  have interfaces := rules.interface_names_nodup
  have bonds := rules.bond_names_nodup
  simp only [unitGroups, List.forall_mem_cons, List.not_mem_nil, false_implies, implies_true,
    and_true, interfaceNetDevStems_nodup_iff interfaces, bondNetDevStems_nodup_iff bonds,
    interfaceNetworkStems_nodup_iff interfaces rules.physicalNames_nodup,
    bondNetworkStems_nodup_iff bonds, bondMadeNames_nodup_iff bonds, notMem_bondMadeNames_iff,
    rules.physicalNames_nodup, rules.memberNames_nodup, rules.vlan_names_nodup, true_and]
  constructor
  · rintro ⟨bridges, _, ends, made, numbered⟩
    exact {
      interfaces := fun interface member other inside =>
        ⟨bridges interface member other inside, (ends interface member other inside).1,
          (ends interface member other inside).2.1⟩
      bonds := fun bond member other inside => (made bond member).1 other inside
      members := fun bond member other inside index within =>
        ⟨(made bond member).2 other inside index within,
          numbered bond member other inside index within⟩ }
  · intro apart
    refine ⟨fun interface member other inside => ?_, fun bond member other inside => ?_,
      fun interface member other inside => ?_, fun bond member => ⟨?_, ?_⟩,
      fun bond member other inside index within => ?_⟩
    · exact (apart.interfaces interface member other inside).1
    · obtain ⟨bridge, _, device⟩ := apart.bonds bond member other inside
      exact ⟨device, bridge⟩
    · obtain ⟨bridge, peer, card⟩ := apart.interfaces interface member other inside
      exact ⟨peer, card, bridge⟩
    · exact fun other inside => apart.bonds bond member other inside
    · exact fun other inside index within => (apart.members bond member other inside index within).1
    · exact (apart.members bond member other inside index within).2

/-- **The units of a configuration that passes the check have different names exactly if no declared
name looks like a made one.** -/
theorem names_nodup_iff_namesApart (passed : config.validate = .ok ()) :
    (config.units.map (·.name)).Nodup ↔ config.NamesApart := by
  rw [names_nodup_iff_stems]
  exact (WellFormed.of_validate passed).stems_nodup_iff

/-- Two interfaces and a bond of both, with names that have nothing in common. -/
def bonded : NetworkConfig where
  interfaces := [{ name := "eth0", hwaddr := "aa:00:00:00:00:01" },
    { name := "eth1", hwaddr := "aa:00:00:00:00:02" }]
  bonds := [{ name := "uplink", members := ["aa:00:00:00:00:01", "AA:00:00:00:00:02"],
              mode := .linkAggregation }]

theorem bonded_names_nodup :
    bonded.validate = .ok () ∧ (bonded.units.map (·.name)).Nodup := by
  have passed : bonded.validate = .ok () := by decide +kernel
  refine ⟨passed, (names_nodup_iff_namesApart passed).mpr ⟨?_, ?_, ?_⟩⟩
  · decide +kernel
  · decide +kernel
  · decide +kernel

/-- An interface that bears the name of another one's bridge. -/
def bridgeNamesake : NetworkConfig where
  interfaces := [{ name := "eth0", hwaddr := "aa:00:00:00:00:01" },
    { name := "breth0", hwaddr := "aa:00:00:00:00:02" }]

/-- The unit of a bridge and the unit of an interface may have one name, and the check lets them. -/
theorem bridgeNamesake_names_collide :
    bridgeNamesake.validate = .ok () ∧ ¬ (bridgeNamesake.units.map (·.name)).Nodup := by
  decide +kernel

end NetworkConfig

end HostNet
