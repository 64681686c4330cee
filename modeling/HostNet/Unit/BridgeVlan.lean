/-
**VLANs that a bridge port carries.**

A port carries its native VLAN, its tagged VLANs and the VLANs stacked on its device. Each id is
listed once, in ascending order. The native VLAN, unless it is 0, also has a block of its own in
front.

* `mem_ascending`: listing in order neither adds nor drops an id;
* `ascending_sorted`: the ids ascend strictly, so none is repeated.
-/

import HostNet.Unit.Line

namespace HostNet

/-- Adds an id to ids in strictly ascending order, unless it is there already. -/
def insertAscending (id : UInt16) : List UInt16 → List UInt16
  | [] => [id]
  | other :: rest =>
    if id < other then id :: other :: rest
    else if id = other then other :: rest
    else other :: insertAscending id rest

/-- Ids in strictly ascending order. -/
def ascending (ids : List UInt16) : List UInt16 :=
  ids.foldr insertAscending []

@[simp] theorem mem_insertAscending {id other : UInt16} {ids : List UInt16} :
    other ∈ insertAscending id ids ↔ other = id ∨ other ∈ ids := by
  induction ids with
  | nil => simp [insertAscending]
  | cons first rest ih =>
    unfold insertAscending
    by_cases before : id < first
    · rw [if_pos before]
      simp
    · rw [if_neg before]
      by_cases same : id = first
      · rw [if_pos same]
        simp [same]
      · rw [if_neg same]
        simp only [List.mem_cons, ih]
        exact or_left_comm

/-- Listing in order neither adds nor drops an id. -/
@[simp] theorem mem_ascending {id : UInt16} {ids : List UInt16} :
    id ∈ ascending ids ↔ id ∈ ids := by
  induction ids with
  | nil => simp [ascending]
  | cons first rest ih =>
    have step : ascending (first :: rest) = insertAscending first (ascending rest) := rfl
    rw [step, mem_insertAscending, ih]
    simp

/-- Adding an id keeps the order. -/
theorem insertAscending_sorted {id : UInt16} {ids : List UInt16}
    (sorted : ids.Pairwise (· < ·)) : (insertAscending id ids).Pairwise (· < ·) := by
  induction ids with
  | nil => simp [insertAscending]
  | cons first rest ih =>
    rw [List.pairwise_cons] at sorted
    unfold insertAscending
    by_cases before : id < first
    · rw [if_pos before]
      refine List.pairwise_cons.mpr ⟨fun other member => ?_, List.pairwise_cons.mpr sorted⟩
      rcases List.mem_cons.mp member with rfl | later
      · exact before
      · exact UInt16.lt_trans before (sorted.1 other later)
    · rw [if_neg before]
      by_cases same : id = first
      · rw [if_pos same]
        exact List.pairwise_cons.mpr sorted
      · rw [if_neg same]
        refine List.pairwise_cons.mpr ⟨fun other member => ?_, ih sorted.2⟩
        rcases mem_insertAscending.mp member with rfl | later
        · exact UInt16.lt_of_le_of_ne (UInt16.not_lt.mp before) (Ne.symm same)
        · exact sorted.1 other later

/-- The ids ascend strictly. -/
theorem ascending_sorted (ids : List UInt16) : (ascending ids).Pairwise (· < ·) := by
  induction ids with
  | nil => simp [ascending]
  | cons first rest ih => exact insertAscending_sorted ih

/-- The native VLAN of a port; 0 stands for none. -/
def nativeVlan? (native : Option UInt16) : Option UInt16 :=
  native.filter (· ≠ 0)

/-- The ids a port carries, in order. -/
def carriedVlans (native : Option UInt16) (tags stacked : List UInt16) : List UInt16 :=
  ascending ((nativeVlan? native).toList ++ tags ++ stacked)

/-- The block that makes a VLAN the native one. -/
def nativeVlanBlock (id : UInt16) : List UnitLine :=
  [.blank, .header "BridgeVLAN", .setting "PVID" (toString id.toNat),
    .setting "EgressUntagged" (toString id.toNat)]

/-- The block that admits a VLAN. -/
def carriedVlanBlock (id : UInt16) : List UnitLine :=
  [.blank, .header "BridgeVLAN", .setting "VLAN" (toString id.toNat)]

/-- The VLAN blocks of a bridge port. -/
def bridgeVlanLines (native : Option UInt16) (tags stacked : List UInt16) : List UnitLine :=
  ((nativeVlan? native).map nativeVlanBlock).getD [] ++
    (carriedVlans native tags stacked).flatMap carriedVlanBlock

end HostNet
