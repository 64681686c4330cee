/-
**Values that differ in the order of members only, and reading back what was written.**

The order of the members of an object carries no meaning, and whoever keeps a value may put them in
another one. So a value is read back not only as it was written but from all that is the same up to
that order, in objects at any depth.

* `Json.Same` — the same value up to the order of members;
* `Json.ReadBack` — what is written one way is read the other way, from anything that is the same,
  and is never null, so that it is not taken for a part that was left out. It holds of texts, truth
  values, numbers in their ranges and words, and carries over to lists (`ReadBack.list`);
* `ReadBack.record` — **a record is read back** if its parts are: those that are always written, those
  that are written if they are present, and lists that are written if they are not empty.
-/

import HostNet.Config.Json
import HostNet.Proofs.Schema.Members
import Mathlib.Data.Set.List

namespace HostNet.Json

open HostNet

/-- Whether a value has neither items nor members. -/
def isLeaf : Json → Bool
  | array _ | object _ => false
  | _ => true

/-- Two values are the same up to the order of members: with the same names in the same order, one
has the same values as the other has in some order. -/
inductive Same : Json → Json → Prop
  | leaf {value : Json} (simple : value.isLeaf = true) : Same value value
  | array {items others : List Json} (each : List.Forall₂ Same items others) :
      Same (.array items) (.array others)
  | object {members sorted others : List (Json × Json)}
      (names : members.map Prod.fst = sorted.map Prod.fst)
      (values : List.Forall₂ Same (members.map Prod.snd) (sorted.map Prod.snd))
      (order : sorted.Perm others) : Same (.object members) (.object others)

namespace Same

/-- Every value is the same as itself. -/
theorem refl : ∀ value : Json, Same value value
  | .array items => .array (List.forall₂_same.mpr fun item _ => refl item)
  | .object members =>
    .object rfl (List.forall₂_same.mpr fun value inside => by
      obtain ⟨member, known, rfl⟩ := List.mem_map.mp inside
      exact refl member.2) (.refl _)
  | .null | .bool _ | .number _ | .text _ | .brokenText | .cut => .leaf rfl
termination_by value => sizeOf value
decreasing_by
  · rename_i inside
    have smaller := List.sizeOf_lt_of_mem inside
    simp only [Json.array.sizeOf_spec]
    omega
  · have smaller := List.sizeOf_lt_of_mem known
    obtain ⟨name, value⟩ := member
    simp only [Json.object.sizeOf_spec, Prod.mk.sizeOf_spec] at smaller ⊢
    omega

theorem eq_of_leaf {value other : Json} (same : Same value other) (simple : value.isLeaf = true) :
    other = value := by
  cases same with
  | leaf => rfl
  | array | object => cases simple

theorem array_inv {items : List Json} {other : Json} (same : Same (.array items) other) :
    ∃ others, other = .array others ∧ List.Forall₂ Same items others := by
  cases same with
  | leaf simple => cases simple
  | array each => exact ⟨_, rfl, each⟩

/-- Members with the names of texts are found again among such members. -/
theorem named {members : List (String × Json)} {sorted : List (Json × Json)}
    (names : (members.map fun member => Json.text member.1) = sorted.map Prod.fst)
    (values : List.Forall₂ Same (members.map Prod.snd) (sorted.map Prod.snd)) :
    ∃ known : List (String × Json), sorted = known.map (fun member => (.text member.1, member.2)) ∧
      List.Forall₂ (Record.SameMember Same) members known := by
  induction members generalizing sorted with
  | nil =>
    obtain rfl : sorted = [] := by simpa using names.symm
    exact ⟨[], rfl, .nil⟩
  | cons member members ih =>
    cases sorted with
    | nil => cases names
    | cons first sorted =>
      obtain ⟨name, value⟩ := first
      simp only [List.map_cons, List.cons.injEq] at names
      obtain ⟨rfl, names⟩ := names
      obtain ⟨same, values⟩ := List.forall₂_cons.mp values
      obtain ⟨known, rfl, each⟩ := ih names values
      exact ⟨(member.1, value) :: known, rfl, .cons ⟨rfl, same⟩ each⟩

/-- What is the same as an object with some members has the same members in another order. -/
theorem record_inv {members : List (String × Json)} {other : Json}
    (same : Same (record members) other) :
    ∃ sorted others, other = record others ∧ List.Forall₂ (Record.SameMember Same) members sorted ∧
      sorted.Perm others := by
  cases same with
  | leaf simple => cases simple
  | @object _ sorted others names values order =>
    rw [List.map_map] at names values
    obtain ⟨known, rfl, each⟩ := named names values
    have fromText : others ∈ Set.range (List.map fun member : String × Json =>
        (Json.text member.1, member.2)) := by
      rw [Set.range_list_map]
      intro member inside
      obtain ⟨found, -, equal⟩ := List.mem_map.mp (order.mem_iff.mpr inside)
      exact ⟨found, equal⟩
    obtain ⟨found, rfl⟩ := fromText
    refine ⟨known, found, rfl, each, (List.map_perm_map_iff ?_).mp order⟩
    rintro ⟨name, value⟩ ⟨other, piece⟩ equal
    cases equal
    rfl

end Same

/-! ### Values that are read back -/

/-- What is written one way is read the other way, from all that is the same; it is never null. -/
structure ReadBack {α : Type} (read : Json → Decoded α) (write : α → Json) : Prop where
  reads : ∀ {value : α} {other : Json}, Same (write value) other → read other = .ok value
  present : ∀ value, write value ≠ .null

namespace ReadBack

variable {α : Type} {read : Json → Decoded α} {write : α → Json}

/-- A value without items or members only has to be read from itself. -/
theorem of_leaf (simple : ∀ value, (write value).isLeaf = true)
    (reads : ∀ value, read (write value) = .ok value) (present : ∀ value, write value ≠ .null) :
    ReadBack read write where
  reads := by
    intro value other same
    rw [same.eq_of_leaf (simple value), reads]
  present := present

theorem text : ReadBack format.text .text :=
  of_leaf (fun _ => rfl) (fun _ => rfl) (by simp)

theorem flag : ReadBack format.flag .bool :=
  of_leaf (fun _ => rfl) (fun _ => rfl) (by simp)

theorem natural_ofNat {bits amount : Nat} (bound : amount < Nat.pow 2 bits) :
    format.natural bits (ofNat amount) = .ok amount :=
  if_pos bound

theorem mtu : ReadBack format.mtu fun mtu => ofNat mtu.toNat := by
  refine of_leaf (fun _ => rfl) (fun mtu => ?_) (by simp [ofNat])
  simp [Format.mtu, natural_ofNat mtu.toNat_lt]

theorem vlanId : ReadBack format.vlanId fun id => ofNat id.toNat := by
  refine of_leaf (fun _ => rfl) (fun id => ?_) (by simp [ofNat])
  simp [Format.vlanId, natural_ofNat id.toNat_lt]

/-- A word is read back if the value is found by it. -/
theorem choice {values : List α} {wordOf : α → String}
    (found : ∀ value, values.find? (wordOf · = wordOf value) = some value) :
    ReadBack (format.choice values wordOf) fun value => .text (wordOf value) := by
  refine of_leaf (fun _ => rfl) (fun value => ?_) (by simp)
  have word : format.word (.text (wordOf value)) = .ok (wordOf value, .ok ()) := rfl
  simp only [Format.choice, word, bind, Except.bind, found value]
  rfl

theorem policy : ReadBack format.policy OnlinePolicy.toJson :=
  choice OnlinePolicy.ofText?_text

theorem mode : ReadBack format.mode fun mode => .text mode.text :=
  choice BondMode.ofText?_text

theorem readEach_ok {values : List α} {others : List Json}
    (each : List.Forall₂ (fun value other => read other = .ok value) values others) :
    readEach read others = .ok values := by
  induction each with
  | nil => rfl
  | cons first _ ih =>
    rw [readEach, first, ih]
    rfl

/-- A list is read back if its items are. -/
theorem list (readBack : ReadBack read write) :
    ReadBack (format.list read) fun items => .array (items.map write) where
  reads := by
    intro values other same
    obtain ⟨others, rfl, each⟩ := same.array_inv
    exact readEach_ok ((List.forall₂_map_left_iff.mp each).imp fun _ _ => readBack.reads)
  present := by simp

theorem texts : ReadBack format.texts ofTexts := text.list

/-- A part that may be left out is read back if it is there. -/
theorem option (readBack : ReadBack read write) {value : α} {other : Json}
    (same : Same (write value) other) : format.option read other = .ok (some value) := by
  have present : other ≠ .null := by
    rintro rfl
    generalize known : write value = written at same
    cases same
    exact readBack.present value known
  have found : format.optional other = .ok (some other) := by
    show asOptional other = _
    cases other <;> first | rfl | exact absurd rfl present
  rw [Format.option, found]
  simp only [bind, Except.bind, readBack.reads same]
  rfl

end ReadBack

/-! ### Records that are read back -/

section Parts

variable {α β : Type} {read : Json → Decoded β} {write : β → Json} {set : β → α → α}
  {name : String} {fields : List (Field Json α)} {members : List (String × Json)} {draft after : α}

/-- A part that is always written. -/
theorem written_always {required : Bool} (readBack : ReadBack read write) {value : β}
    (rest : Record.Written Same fields members (set value draft) after) :
    Record.Written Same
      ({ name, required, assign := fun value draft => do return set (← read value) draft } :: fields)
      (always name (write value) ++ members) draft after :=
  .put (fun _ same => by simp only [readBack.reads same]; rfl) rest

/-- A part that is written if it is present. -/
theorem written_ifPresent {set : Option β → α → α} (readBack : ReadBack read write)
    {value : Option β} (absent : set none draft = draft)
    (rest : Record.Written Same fields members (set value draft) after) :
    Record.Written Same (.defaulted name (format.option read) set :: fields)
      (ifPresent name write value ++ members) draft after := by
  cases value with
  | none =>
    rw [absent] at rest
    exact .skip rfl rest
  | some value =>
    refine .put (fun other same => ?_) rest
    simp only [Field.defaulted, readBack.option same]
    rfl

/-- A list that is written if it is not empty. -/
theorem written_ifFilled {set : List β → α → α} (readBack : ReadBack read write)
    {items : List β} (empty : set [] draft = draft)
    (rest : Record.Written Same fields members (set items draft) after) :
    Record.Written Same (.defaulted name (format.list read) set :: fields)
      (ifFilled name write items ++ members) draft after := by
  cases items with
  | nil =>
    rw [empty] at rest
    exact .skip rfl rest
  | cons item items =>
    refine .put (fun other same => ?_) rest
    simp only [Field.defaulted, readBack.list.reads same]
    rfl

end Parts

/-- **A record is read back** if its fields are orderly and its members were written for them. -/
theorem ReadBack.record {α : Type} {description : Record Json α}
    {members : α → List (String × Json)} (orderly : description.Orderly)
    (written : ∀ value,
      Record.Written Same description.fields (members value ++ []) description.blank value) :
    ReadBack (description.read format) fun value => record (members value) where
  reads := by
    intro value other same
    obtain ⟨sorted, others, rfl, each, order⟩ := same.record_inv
    have written := written value
    rw [List.append_nil] at written
    have reads := Record.ofMembers_written orderly format written each order
    show description.ofMembers format [] description.blank _ = _
    rw [List.map_map]
    exact reads
  present := by simp [Json.record]

end HostNet.Json
