/-
**Actions that work on files.**

An action that only works on files leaves the rest of the host alone, and the files too except at
some places. Which places these are is fixed before the action starts, by the paths it is given and
the directory from which relative paths start.

* `FileTree.Confined`: two trees differ at some places at most;
* `write_confined`, `removeTree_confined` and so on: where each operation can change something;
* `Touches`: an action works on the files at some places, and fails in no way but with a failure;
* `Touches.bind` and `Touches.forM`: several steps together.
-/

import HostNet.Apply.Steps
import HostNet.Proofs.Host.Access

namespace HostNet

/-! ### Changes at some places -/

namespace FileTree

/-- Two trees differ at most at some places, and relative paths start at the same place in both. -/
def Confined (touched : Place → Prop) (tree after : FileTree) : Prop :=
  after.home = tree.home ∧ ∀ place, ¬ touched place → after.at? place = tree.at? place

variable {tree middle after : FileTree} {touched more : Place → Prop} {place : Place}
  {path : String} {result : Except Refusal Unit}

namespace Confined

theorem refl (touched : Place → Prop) (tree : FileTree) : Confined touched tree tree :=
  ⟨rfl, fun _ _ => rfl⟩

theorem trans (first : Confined touched tree middle) (second : Confined touched middle after) :
    Confined touched tree after :=
  ⟨second.1.trans first.1, fun place outside => (second.2 place outside).trans (first.2 place outside)⟩

theorem mono (confined : Confined touched tree after) (within : ∀ place, touched place → more place) :
    Confined more tree after :=
  ⟨confined.1, fun place outside => confined.2 place fun inside => outside (within place inside)⟩

theorem put (tree : FileTree) (place : Place) (entry : Entry) :
    Confined (· = place) tree (tree.put place entry) :=
  ⟨rfl, fun _ different => at?_put_of_ne tree entry different⟩

theorem erase (tree : FileTree) (place : Place) :
    Confined (· = place) tree (tree.erase place) :=
  ⟨rfl, fun _ different => at?_erase_of_ne tree different⟩

theorem eraseBelow (tree : FileTree) (place : Place) :
    Confined (place <+: ·) tree (tree.eraseBelow place) := by
  refine ⟨rfl, fun other outside => at?_eraseBelow tree ?_⟩
  rw [Bool.eq_false_iff, ne_eq, isBelow_iff]
  exact fun below => outside below.1

end Confined

theorem Adds.confined {places : List Place} (adds : Adds places tree after) :
    Confined (· ∈ places) tree after :=
  ⟨adds.home, fun _ outside => adds.at?_of_notMem outside⟩

theorem write_confined {contents : ByteArray}
    (run : write path contents tree = (result, after)) :
    Confined (· = target tree.home path) tree after := by
  obtain ⟨_, _, rfl⟩ | ⟨_, aim, mode, aims, _, _, rfl⟩ := write_cases run
  · exact Confined.refl _ _
  · rw [← aims.place_eq]
    exact Confined.put tree aim.place _

theorem removeFile_confined (run : removeFile path tree = (result, after)) :
    Confined (· = target tree.home path) tree after := by
  obtain ⟨_, _, rfl, _⟩ | ⟨_, place, found, _, rfl⟩ := removeFile_cases run
  · exact Confined.refl _ _
  · rw [← locate_eq_target found]
    exact Confined.erase tree place

theorem setMode_confined {mode : Nat} (run : setMode path mode tree = (result, after)) :
    Confined (· = target tree.home path) tree after := by
  obtain ⟨_, _, rfl⟩ | ⟨_, place, entry, found, _, rfl⟩ := setMode_cases run
  · exact Confined.refl _ _
  · rw [← locate_eq_target found]
    exact Confined.put tree place _

theorem removeTree_confined (run : removeTree path tree = (result, after)) :
    Confined (target tree.home path <+: ·) tree after := by
  obtain ⟨_, _, rfl, _⟩ | ⟨_, place, _, _, found, rfl⟩ | ⟨_, place, _, found, _, rfl⟩ :=
    removeTree_cases run
  · exact Confined.refl _ _
  · rw [← locate_eq_target found]
    exact Confined.eraseBelow tree place
  · rw [← locate_eq_target found]
    refine (Confined.eraseBelow tree place).trans ((Confined.erase _ place).mono ?_)
    rintro other rfl
    exact List.prefix_refl _

theorem createTree_confined (run : createTree path tree = (result, after)) :
    Confined (· ∈ passed tree.home path) tree after :=
  (createTreeFrom_cases run).1.confined

theorem ifThere_confined {action : FileAction Unit} (run : ifThere action tree = (result, after))
    (confined : ∀ result after, action tree = (result, after) → Confined touched tree after) :
    Confined touched tree after := by
  obtain ⟨plain, _⟩ | ⟨plain, _⟩ := ifThere_cases run <;> exact confined _ _ plain

end FileTree

/-! ### Actions on a host that work on files -/

namespace HostAction

open HostNet.Action FileTree

variable {σ ε α β : Type} {home : Place} {touched more : Place → Prop}
  {action : HostAction σ ε α}

/-- An action works on the files at some places only, and stops with a failure if it stops. -/
def Touches (home : Place) (action : HostAction σ ε α) (touched : Place → Prop) : Prop :=
  ∀ before result after, before.files.home = home → action before = (result, after) →
    after = { before with files := after.files } ∧ Confined touched before.files after.files ∧
      ∀ halt, result = .error halt → ∃ failure, halt = .failed failure

namespace Touches

theorem mono (touches : Touches home action touched) (within : ∀ place, touched place → more place) :
    Touches home action more := by
  intro before result after starts happened
  obtain ⟨rest, confined, stops⟩ := touches before result after starts happened
  exact ⟨rest, confined.mono within, stops⟩

theorem pure (home : Place) (result : α) (touched : Place → Prop) :
    Touches home (Pure.pure result : HostAction σ ε α) touched := by
  intro before outcome after _ happened
  cases happened
  exact ⟨rfl, Confined.refl _ _, nofun⟩

theorem bind {next : α → HostAction σ ε β} (first : Touches home action touched)
    (second : ∀ result, Touches home (next result) touched) :
    Touches home (action >>= next) touched := by
  intro before result after starts happened
  rcases ran : action before with ⟨halt | between, middle⟩
  · obtain ⟨rest, confined, stops⟩ := first _ _ _ starts ran
    rw [bind_of_error ran] at happened
    cases happened
    refine ⟨rest, confined, fun other same => ?_⟩
    cases same
    exact stops halt rfl
  · obtain ⟨rest, confined, _⟩ := first _ _ _ starts ran
    rw [bind_of_ok ran] at happened
    obtain ⟨later, further, stops⟩ := second between _ _ _ (confined.1.trans starts) happened
    refine ⟨?_, confined.trans further, stops⟩
    rw [later, rest]

theorem forM {step : α → HostAction σ ε PUnit} {members : List α}
    (steps : ∀ member ∈ members, Touches home (step member) touched) :
    Touches home (members.forM step) touched := by
  induction members with
  | nil => exact Touches.pure home PUnit.unit touched
  | cons member members ih =>
    rw [List.forall_mem_cons] at steps
    exact steps.1.bind fun _ => ih steps.2

end Touches

/-- What is done on a path, from the operation on the tree. -/
theorem onPath_cases {path : String} {operation : FileAction α} {before after : Host σ}
    {result : Except (Halt HostFailure) α} (run : onPath path operation before = (result, after)) :
    ∃ outcome files, operation before.files = (outcome, files) ∧
      after = { before with files := files } ∧
      result = outcome.mapError fun refusal => .failed (.fileFailed path refusal) := by
  rcases ran : operation before.files with ⟨outcome, files⟩
  refine ⟨outcome, files, rfl, ?_⟩
  change ((operation before.files).1.mapError _, { before with files := (operation before.files).2 })
    = (result, after) at run
  rw [ran] at run
  cases run
  exact ⟨rfl, rfl⟩

theorem onPath_touches {path : String} {operation : FileAction α}
    (confined : ∀ tree result after, tree.home = home → operation tree = (result, after) →
      Confined touched tree after) :
    Touches home (onPath path operation : HostAction σ HostFailure α) touched := by
  intro before result after starts happened
  obtain ⟨outcome, files, ran, rfl, rfl⟩ := onPath_cases happened
  refine ⟨rfl, confined _ _ _ starts ran, fun halt same => ?_⟩
  cases outcome with
  | error refusal =>
    cases same
    exact ⟨_, rfl⟩
  | ok _ => cases same

end HostAction

end HostNet
