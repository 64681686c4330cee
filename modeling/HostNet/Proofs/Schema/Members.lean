/-
**Reading back the members that were written for a record.**

A record is written as the members of some of its fields, in the order of the fields. It is read
back from them in any order: a field is found by its name, and it does not matter which of two
fields is read first.

* `Record.Orderly` — what a record's description has to keep for this;
* `Record.Written` — members that were written for fields, and what they turn a draft into. A field
  that is left out must not be required, and must be in the draft as it was to be written;
* `Record.Puts` — the same from the side of the reader, for members in any order (`Puts.perm`);
* `Record.ofMembers_written` — **members that were written turn the blank into what was written.**
-/

import HostNet.Schema.Record
import Mathlib.Data.List.Forall2
import Mathlib.Data.List.Nodup
import Mathlib.Data.List.Pairwise
import Mathlib.Data.List.Perm.Basic

namespace HostNet

variable {V α : Type}

/-! ### Two fields -/

/-- It does not matter which of two fields is read first. -/
def Field.Independent (first second : Field V α) : Prop :=
  ∀ value other draft after,
    (∃ middle, first.assign value draft = .ok middle ∧ second.assign other middle = .ok after) ↔
      ∃ middle, second.assign other draft = .ok middle ∧ first.assign value middle = .ok after

instance : Std.Symm (Field.Independent (V := V) (α := α)) where
  symm _ _ independent value other draft after := (independent other value draft after).symm

/-- What comes of reading a value into a part of a draft. -/
theorem Field.assign_ok_iff {β : Type} {read : V → Decoded β} {set : β → α → α} {value : V}
    {draft after : α} :
    (do return set (← read value) draft : Decoded α) = .ok after ↔
      ∃ part, read value = .ok part ∧ set part draft = after := by
  rcases read value with failure | part
  · constructor
    · intro failed
      cases failed
    · rintro ⟨_, failed, _⟩
      cases failed
  · constructor
    · intro done
      exact ⟨part, rfl, Except.ok.inj done⟩
    · rintro ⟨_, ⟨rfl⟩, rfl⟩
      rfl

/-- Fields are independent if they set parts of their own. -/
theorem Field.independent {β γ : Type} {name other : String} {required needed : Bool}
    {read : V → Decoded β} {set : β → α → α} {readOther : V → Decoded γ} {setOther : γ → α → α}
    (commute : ∀ part piece draft,
      setOther piece (set part draft) = set part (setOther piece draft)) :
    Field.Independent
      { name, required, assign := fun value draft => do return set (← read value) draft }
      { name := other, required := needed,
        assign := fun value draft => do return setOther (← readOther value) draft } := by
  intro value others draft after
  simp only [assign_ok_iff]
  constructor
  · rintro ⟨_, ⟨part, first, rfl⟩, piece, second, rfl⟩
    exact ⟨_, ⟨piece, second, rfl⟩, part, first, (commute part piece draft).symm⟩
  · rintro ⟨_, ⟨piece, second, rfl⟩, part, first, rfl⟩
    exact ⟨_, ⟨part, first, rfl⟩, piece, second, commute part piece draft⟩

namespace Record

variable {record : Record V α}

/-- The fields of a record have different names and are independent of each other. -/
structure Orderly (record : Record V α) : Prop where
  distinct : (record.fields.map (·.name)).Nodup
  independent : record.fields.Pairwise Field.Independent

theorem Orderly.field?_name (orderly : record.Orderly) {field : Field V α}
    (known : field ∈ record.fields) : record.field? field.name = some field := by
  have found : (record.field? field.name).isSome := by
    rw [field?, List.find?_isSome]
    exact ⟨field, known, by simp⟩
  obtain ⟨other, found⟩ := Option.isSome_iff_exists.mp found
  have same : other.name = field.name := by simpa using List.find?_some found
  rw [found, List.inj_on_of_nodup_map orderly.distinct (List.mem_of_find?_eq_some found) known same]

/-! ### Members in any order -/

/-- Members that bear the names of fields, and what a draft becomes by reading them in order. -/
inductive Puts (record : Record V α) : List (String × V) → α → α → Prop
  | nil (draft : α) : Puts record [] draft draft
  | cons {field : Field V α} {value : V} {members : List (String × V)} {draft middle after : α}
      (known : field ∈ record.fields) (assigned : field.assign value draft = .ok middle)
      (rest : Puts record members middle after) :
      Puts record ((field.name, value) :: members) draft after

/-- It does not matter in which order members of different names are read. -/
theorem Puts.perm (orderly : record.Orderly) {members others : List (String × V)} {draft after : α}
    (puts : record.Puts members draft after) (distinct : (members.map Prod.fst).Nodup)
    (order : members.Perm others) : record.Puts others draft after := by
  induction order generalizing draft with
  | nil => exact puts
  | cons member _ ih =>
    cases puts with
    | cons known assigned rest =>
      exact .cons known assigned (ih rest (List.nodup_cons.mp distinct).2)
  | swap first second members =>
    cases puts with
    | @cons field value _ _ middle _ known assigned rest =>
    cases rest with
    | @cons other piece _ _ last _ known' assigned' rest' =>
      have apart : field ≠ other := by
        rintro rfl
        simp at distinct
      have independent := orderly.independent.forall known known' apart
      obtain ⟨between, first, second⟩ :=
        (independent value piece draft last).mp ⟨middle, assigned, assigned'⟩
      exact .cons known' first (.cons known second rest')
  | trans order _ ih ih' =>
    exact ih' (ih puts distinct) ((order.map Prod.fst).nodup_iff.mp distinct)

/-- Members that bear the names of fields are read, if no name is repeated and none of a required
field is missing; `seen` holds the names of the fields read before. -/
theorem Puts.ofMembers (orderly : record.Orderly) (format : Format V) {seen : List String}
    {members : List (String × V)} {draft after : α} (puts : record.Puts members draft after)
    (distinct : (members.map Prod.fst).Nodup) (fresh : ∀ name ∈ members.map Prod.fst, name ∉ seen)
    (complete : ∀ field ∈ record.fields, field.required = true →
      field.name ∈ seen ∨ field.name ∈ members.map Prod.fst) :
    record.ofMembers format seen draft (members.map fun member => (some member.1, member.2)) =
      .ok after := by
  induction puts generalizing seen with
  | nil draft =>
    refine ofMembers_nil format record seen draft fun field known required => ?_
    exact (complete field known required).resolve_right List.not_mem_nil
  | @cons field value members draft middle after known assigned rest ih =>
    obtain ⟨single, distinct⟩ := List.nodup_cons.mp distinct
    have unseen : seen.contains field.name = false := by
      simpa using fresh field.name (.head _)
    simp only [List.map_cons, Record.ofMembers, orderly.field?_name known, unseen, assigned]
    refine ih distinct (fun name inside => ?_) (fun other known required => ?_)
    · have distinct : name ≠ field.name := fun same => single (same ▸ inside)
      simpa [distinct] using fresh name (.tail _ inside)
    · obtain before | here := complete other known required
      · exact .inl (.tail _ before)
      · rw [List.map_cons, List.mem_cons] at here
        exact here.imp (fun same => by rw [same]; exact .head _) id

/-! ### Members in the order of the fields -/

/-- Members that were written for fields, in their order, and what a draft becomes by reading them,
or what counts as the same. -/
inductive Written (same : V → V → Prop) :
    List (Field V α) → List (String × V) → α → α → Prop
  | nil (draft : α) : Written same [] [] draft draft
  | put {field : Field V α} {fields : List (Field V α)} {value : V} {members : List (String × V)}
      {draft middle after : α}
      (assigned : ∀ other, same value other → field.assign other draft = .ok middle)
      (rest : Written same fields members middle after) :
      Written same (field :: fields) ((field.name, value) :: members) draft after
  | skip {field : Field V α} {fields : List (Field V α)} {members : List (String × V)}
      {draft after : α} (free : field.required = false)
      (rest : Written same fields members draft after) :
      Written same (field :: fields) members draft after

variable {same : V → V → Prop} {fields : List (Field V α)} {members others : List (String × V)}
  {draft after : α}

/-- Two members have the same name and, in a sense, the same value. -/
def SameMember (same : V → V → Prop) (member other : String × V) : Prop :=
  member.1 = other.1 ∧ same member.2 other.2

theorem names_of_same (alike : List.Forall₂ (SameMember same) members others) :
    members.map Prod.fst = others.map Prod.fst := by
  induction alike with
  | nil => rfl
  | cons first _ ih => rw [List.map_cons, List.map_cons, first.1, ih]

namespace Written

theorem names (written : Written same fields members draft after) :
    (members.map Prod.fst).Sublist (fields.map (·.name)) := by
  induction written with
  | nil => exact .slnil
  | put _ _ ih => exact ih.cons_cons _
  | skip _ _ ih => exact ih.cons _

theorem complete (written : Written same fields members draft after) {field : Field V α}
    (known : field ∈ fields) (required : field.required = true) :
    field.name ∈ members.map Prod.fst := by
  induction written with
  | nil => cases known
  | put _ _ ih =>
    obtain rfl | later := List.mem_cons.mp known
    · exact .head _
    · exact .tail _ (ih later)
  | skip free _ ih =>
    obtain rfl | later := List.mem_cons.mp known
    · rw [free] at required
      cases required
    · exact ih later

theorem puts (written : Written same fields members draft after)
    (known : ∀ field ∈ fields, field ∈ record.fields)
    (alike : List.Forall₂ (SameMember same) members others) : record.Puts others draft after := by
  induction written generalizing others with
  | nil draft =>
    cases alike
    exact .nil draft
  | put assigned _ ih =>
    cases alike with
    | @cons _ other _ others first rest =>
      obtain ⟨name, value⟩ := other
      obtain ⟨rfl, equal⟩ := first
      exact .cons (known _ (.head _)) (assigned value equal)
        (ih (fun field inside => known field (.tail _ inside)) rest)
  | skip _ _ ih => exact ih (fun field inside => known field (.tail _ inside)) alike

end Written

/-- **Members that were written turn the blank into what was written**, in whatever order they
stand. -/
theorem ofMembers_written (orderly : record.Orderly) (format : Format V)
    (written : Written same record.fields members record.blank after)
    {sorted : List (String × V)} (alike : List.Forall₂ (SameMember same) members sorted)
    (order : sorted.Perm others) :
    record.ofMembers format [] record.blank (others.map fun member => (some member.1, member.2)) =
      .ok after := by
  have names : (others.map Prod.fst).Perm (members.map Prod.fst) := by
    rw [names_of_same alike]
    exact (order.map Prod.fst).symm
  have distinct : (members.map Prod.fst).Nodup := orderly.distinct.sublist written.names
  have puts : record.Puts sorted record.blank after := written.puts (fun _ known => known) alike
  refine (puts.perm orderly (names_of_same alike ▸ distinct) order).ofMembers orderly format
    (names.nodup_iff.mpr distinct) (fun _ _ => List.not_mem_nil) fun field known required => .inr ?_
  exact names.mem_iff.mpr (written.complete known required)

end Record

end HostNet
