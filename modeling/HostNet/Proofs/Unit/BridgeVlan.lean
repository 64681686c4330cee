/-
**The VLAN blocks of a bridge port list a set of ids.**

The text has a block for the native VLAN, unless that is 0, and then one block for each id that the
port carries, in strictly ascending order. Ids in strictly ascending order are known by their set; so
the text tells the native VLAN and the set of ids that the three sources make up together, and nothing
else: not their order, not how often an id is given, not which source it comes from.

* `ascending_eq_destutter`: ids in order are the sorted ids without repetitions next to each other;
* `carriedVlans_eq_iff`: the ids listed for a port are known by the set of those that it carries;
* `bridgeVlanLines_readBack`: the lines come back from their text;
* `bridgeVlans_listed`: the text of the blocks, and when two texts are the same.
-/

import HostNet.Proofs.Unit.Reading
import HostNet.Unit.BridgeVlan
import Mathlib.Data.List.Destutter
import Mathlib.Data.List.Sort

namespace HostNet

open HostNet.Text UnitLine

/-! ### Ids in order -/

/-- Ids in strictly ascending order are those of any ids with the same members. -/
theorem eq_ascending {ids sorted : List UInt16} (ascends : sorted.Pairwise (· < ·))
    (same : ∀ id, id ∈ sorted ↔ id ∈ ids) : sorted = ascending ids :=
  ascends.eq_of_mem_iff (ascending_sorted ids) fun id => (same id).trans mem_ascending.symm

/-- Ids in order are the sorted ids without repetitions next to each other. -/
theorem ascending_eq_destutter (ids : List UInt16) :
    ascending ids = (ids.mergeSort (· ≤ ·)).destutter (· ≠ ·) := by
  have sorted : (ids.mergeSort (· ≤ ·)).Pairwise (· ≤ ·) := by
    have trans : ∀ first second third : UInt16, decide (first ≤ second) = true →
        decide (second ≤ third) = true → decide (first ≤ third) = true := by
      simp only [decide_eq_true_eq]
      exact fun _ _ _ => UInt16.le_trans
    have total : ∀ first second : UInt16,
        (decide (first ≤ second) || decide (second ≤ first)) = true := by
      simp only [Bool.or_eq_true, decide_eq_true_eq]
      exact UInt16.le_total
    simpa using List.pairwise_mergeSort trans total ids
  rw [sorted.destutter_eq_dedup]
  refine (eq_ascending ?_ fun id => by simp).symm
  have weak := sorted.sublist (List.dedup_sublist _)
  have apart := List.nodup_dedup (ids.mergeSort (· ≤ ·))
  exact (weak.and apart).imp fun both => UInt16.lt_of_le_of_ne both.1 both.2

section Carried

variable {native other : Option UInt16} {tags stacked otherTags otherStacked : List UInt16}

/-- What a port carries: its native VLAN unless that is 0, its tags, and what is stacked on it. -/
def CarriesVlan (native : Option UInt16) (tags stacked : List UInt16) (id : UInt16) : Prop :=
  (native = some id ∧ id ≠ 0) ∨ id ∈ tags ∨ id ∈ stacked

theorem nativeVlan?_eq_some {id : UInt16} :
    nativeVlan? native = some id ↔ native = some id ∧ id ≠ 0 := by
  rw [nativeVlan?, Option.filter_eq_some_iff, decide_eq_true_eq]

theorem mem_carriedVlans {id : UInt16} :
    id ∈ carriedVlans native tags stacked ↔ CarriesVlan native tags stacked id := by
  simp only [carriedVlans, mem_ascending, List.mem_append, Option.mem_toList,
    nativeVlan?_eq_some, CarriesVlan, or_assoc]

/-- **The ids listed for a port are known by the set of those that it carries.** -/
theorem carriedVlans_eq_iff :
    carriedVlans other otherTags otherStacked = carriedVlans native tags stacked ↔
      ∀ id, CarriesVlan other otherTags otherStacked id ↔ CarriesVlan native tags stacked id := by
  simp only [← mem_carriedVlans]
  constructor
  · intro same id
    rw [same]
  · exact fun same => (ascending_sorted _).eq_of_mem_iff (ascending_sorted _) same

end Carried

/-! ### Lines from their text -/

section Lines

variable (native : Option UInt16) (tags stacked : List UInt16)

theorem bridgeVlanLines_readable : ∀ line ∈ bridgeVlanLines native tags stacked,
    line.Legible ∧ line.Unbroken := by
  have numeral : ∀ id : UInt16, OneLine (toString id.toNat) := fun id inside =>
    absurd (isDigit_of_mem_toString inside) (by decide)
  have keys : LegibleKey "PVID" ∧ LegibleKey "EgressUntagged" ∧ LegibleKey "VLAN" ∧
      OneLine "BridgeVLAN" := by decide
  have front : ∀ id, ∀ line ∈ nativeVlanBlock id, line.Legible ∧ line.Unbroken := fun id => by
    simp only [nativeVlanBlock, List.forall_mem_cons, List.not_mem_nil, IsEmpty.forall_iff,
      implies_true, Legible, Unbroken, numeral, keys, and_self]
  have block : ∀ id, ∀ line ∈ carriedVlanBlock id, line.Legible ∧ line.Unbroken := fun id => by
    simp only [carriedVlanBlock, List.forall_mem_cons, List.not_mem_nil, IsEmpty.forall_iff,
      implies_true, Legible, Unbroken, numeral, keys, and_self]
  intro line member
  rcases List.mem_append.mp member with first | later
  · cases found : nativeVlan? native with
    | none => simp [found] at first
    | some id => exact front id line (by simpa [found] using first)
  · obtain ⟨id, _, inside⟩ := List.mem_flatMap.mp later
    exact block id line inside

/-- The lines come back from their text. -/
theorem bridgeVlanLines_readBack :
    readAll? (render (bridgeVlanLines native tags stacked)) =
      some (bridgeVlanLines native tags stacked) :=
  readAll?_render (fun line member => (bridgeVlanLines_readable _ _ _ line member).1)
    fun line member => (bridgeVlanLines_readable _ _ _ line member).2

/-- The value of a line that sets a key. -/
def UnitLine.valueOf? (key : String) : UnitLine → Option String
  | .setting other value => if other = key then some value else none
  | .header _ | .blank => none

theorem bridgeVlanLines_natives : (bridgeVlanLines native tags stacked).filterMap
    (valueOf? "PVID") = (nativeVlan? native).toList.map (toString ·.toNat) := by
  have others : ∀ ids : List UInt16,
      (ids.flatMap carriedVlanBlock).filterMap (valueOf? "PVID") = [] := by
    intro ids
    induction ids with
    | nil => rfl
    | cons id ids ih =>
      rw [List.flatMap_cons, List.filterMap_append, ih]
      rfl
  rw [bridgeVlanLines, List.filterMap_append, others]
  cases nativeVlan? native <;> rfl

theorem bridgeVlanLines_ids : (bridgeVlanLines native tags stacked).filterMap
    (valueOf? "VLAN") = (carriedVlans native tags stacked).map (toString ·.toNat) := by
  have listed : ∀ ids : List UInt16, (ids.flatMap carriedVlanBlock).filterMap
      (valueOf? "VLAN") = ids.map (toString ·.toNat) := by
    intro ids
    induction ids with
    | nil => rfl
    | cons id ids ih =>
      rw [List.flatMap_cons, List.filterMap_append, ih]
      rfl
  rw [bridgeVlanLines, List.filterMap_append, listed]
  cases nativeVlan? native <;> rfl

end Lines

/-! ### The text -/

/-- The text of the blocks of a bridge port. -/
def bridgeVlanText (native : Option UInt16) (tags stacked : List UInt16) : String :=
  render (bridgeVlanLines native tags stacked)

/-- The text of the block that makes an id the native VLAN. -/
def nativeVlanBlockText (id : UInt16) : String :=
  "\n[BridgeVLAN]\nPVID=" ++ toString id.toNat ++ "\nEgressUntagged=" ++ toString id.toNat ++ "\n"

/-- The text in front: the block of the native VLAN, if there is one and it is not 0. -/
def nativeVlanText : Option UInt16 → String
  | some id => if id = 0 then "" else nativeVlanBlockText id
  | none => ""

/-- The text of a carried id. -/
def carriedVlanText (id : UInt16) : String :=
  "\n[BridgeVLAN]\nVLAN=" ++ toString id.toNat ++ "\n"

section Text

variable (native : Option UInt16) (tags stacked : List UInt16)

theorem render_nativeVlanBlock (id : UInt16) :
    render (nativeVlanBlock id) = nativeVlanBlockText id := by
  unfold nativeVlanBlock nativeVlanBlockText
  generalize toString id.toNat = numeral
  simp [render, text, ← String.toList_inj]

theorem render_carriedVlanBlock (id : UInt16) :
    render (carriedVlanBlock id) = carriedVlanText id := by
  unfold carriedVlanBlock carriedVlanText
  generalize toString id.toNat = numeral
  simp [render, text, ← String.toList_inj]

theorem render_nativeVlan :
    render (((nativeVlan? native).map nativeVlanBlock).getD []) = nativeVlanText native := by
  cases native with
  | none => rfl
  | some id =>
    by_cases zero : id = 0
    · subst zero
      rfl
    · have found : nativeVlan? (some id) = some id := nativeVlan?_eq_some.mpr ⟨rfl, zero⟩
      rw [found, nativeVlanText, if_neg zero, Option.map_some, Option.getD_some,
        render_nativeVlanBlock]

theorem render_carriedVlans (ids : List UInt16) :
    render (ids.flatMap carriedVlanBlock) = String.join (ids.map carriedVlanText) := by
  induction ids with
  | nil => rfl
  | cons id ids ih =>
    rw [List.flatMap_cons, render_append, render_carriedVlanBlock, ih, List.map_cons,
      String.join_cons]

theorem bridgeVlanText_eq : bridgeVlanText native tags stacked =
    nativeVlanText native ++ String.join ((carriedVlans native tags stacked).map carriedVlanText) := by
  rw [bridgeVlanText, bridgeVlanLines, render_append, render_nativeVlan, render_carriedVlans]

theorem vlanNumeral_injective : Function.Injective fun id : UInt16 => toString id.toNat :=
  fun _ _ same => UInt16.toNat_inj.mp (eq_of_toString same)

variable {native tags stacked}

/-- **Two texts are the same exactly if they have the same native VLAN and the same set of ids.** -/
theorem bridgeVlanText_eq_iff {other : Option UInt16} {otherTags otherStacked : List UInt16} :
    bridgeVlanText other otherTags otherStacked = bridgeVlanText native tags stacked ↔
      nativeVlan? other = nativeVlan? native ∧
        ∀ id, CarriesVlan other otherTags otherStacked id ↔ CarriesVlan native tags stacked id := by
  rw [← carriedVlans_eq_iff]
  constructor
  · intro same
    have lines : bridgeVlanLines other otherTags otherStacked = bridgeVlanLines native tags stacked := by
      have back := congrArg readAll? same
      rw [bridgeVlanText, bridgeVlanText, bridgeVlanLines_readBack, bridgeVlanLines_readBack] at back
      exact Option.some_inj.mp back
    have natives := congrArg (List.filterMap (valueOf? "PVID")) lines
    have ids := congrArg (List.filterMap (valueOf? "VLAN")) lines
    rw [bridgeVlanLines_natives, bridgeVlanLines_natives] at natives
    rw [bridgeVlanLines_ids, bridgeVlanLines_ids] at ids
    have told := List.map_injective_iff.mpr vlanNumeral_injective
    refine ⟨Option.ext fun id => ?_, told ids⟩
    rw [← Option.mem_toList, told natives, Option.mem_toList]
  · rintro ⟨natives, ids⟩
    rw [bridgeVlanText, bridgeVlanText, bridgeVlanLines, bridgeVlanLines, natives, ids]

/-- There is no text exactly if nothing is carried. -/
theorem bridgeVlanText_eq_empty_iff :
    bridgeVlanText native tags stacked = "" ↔ ∀ id, ¬ CarriesVlan native tags stacked id := by
  have nothing : bridgeVlanText none [] [] = "" := rfl
  have none : ∀ id, ¬ CarriesVlan none [] [] id := by simp [CarriesVlan]
  rw [← nothing, bridgeVlanText_eq_iff]
  constructor
  · rintro ⟨_, same⟩ id
    rw [same id]
    exact none id
  · intro empty
    refine ⟨Option.eq_none_iff_forall_ne_some.mpr fun id found => ?_, fun id => ?_⟩
    · exact empty id (.inl (nativeVlan?_eq_some.mp found))
    · exact iff_of_false (empty id) (none id)

end Text

/-- **The VLAN blocks of a bridge port list a set of ids.** After the block of the native VLAN, if it
is not 0, they have one id each: those that the port carries, in strictly ascending order. Nothing is
written if it carries none. Two texts are the same exactly if the native VLANs are the same, with 0
for none, and the same ids are carried. -/
theorem bridgeVlans_listed (native : Option UInt16) (tags stacked : List UInt16) :
    (∃ ids : List UInt16, bridgeVlanText native tags stacked =
        nativeVlanText native ++ String.join (ids.map carriedVlanText) ∧
      ids.Pairwise (· < ·) ∧ ∀ id, id ∈ ids ↔ CarriesVlan native tags stacked id) ∧
    (bridgeVlanText native tags stacked = "" ↔ ∀ id, ¬ CarriesVlan native tags stacked id) ∧
    ∀ other otherTags otherStacked,
      bridgeVlanText other otherTags otherStacked = bridgeVlanText native tags stacked ↔
        nativeVlan? other = nativeVlan? native ∧
          ∀ id, CarriesVlan other otherTags otherStacked id ↔ CarriesVlan native tags stacked id :=
  ⟨⟨carriedVlans native tags stacked, bridgeVlanText_eq native tags stacked, ascending_sorted _,
    fun _ => mem_carriedVlans⟩, bridgeVlanText_eq_empty_iff, fun _ _ _ => bridgeVlanText_eq_iff⟩

example : bridgeVlanText (some 0) [30, 20] [20] =
    "\n[BridgeVLAN]\nVLAN=20\n\n[BridgeVLAN]\nVLAN=30\n" := by
  decide

end HostNet
