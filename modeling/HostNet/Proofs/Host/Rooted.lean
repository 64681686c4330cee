/-
**What an action keeps, however it ends.**

An action keeps a property of the state if the property holds after it whenever it held before, and
it does not matter whether the action succeeds. Each operation on files keeps the tree without loose
ends: what it makes stands in a directory, and a directory goes with all below it.

* `Maintains`: an action keeps a property of the state;
* `Maintains.bind`, `Maintains.tryCatch`, `Maintains.forM`: several steps together;
* `createTreeFrom_maintains`: to make a directory and those above it is to make one after the other;
* `write_isTree`, `removeFile_isTree`, `removeTree_isTree`, `createTree_isTree`, `setMode_isTree`:
  the operations keep a tree a tree.
-/

import HostNet.Proofs.Host.Confined

namespace HostNet

namespace Action

variable {ε σ α β : Type} {kept : σ → Prop}

/-- An action keeps a property of the state, however it ends. -/
def Maintains (kept : σ → Prop) (action : ExceptT ε (StateM σ) α) : Prop :=
  ∀ before result after, kept before → action before = (result, after) → kept after

namespace Maintains

theorem pure (value : α) : Maintains kept (Pure.pure value : ExceptT ε (StateM σ) α) := by
  intro before result after held run
  cases run
  exact held

theorem throw (failure : ε) :
    Maintains kept (MonadExcept.throw failure : ExceptT ε (StateM σ) α) := by
  intro before result after held run
  cases run
  exact held

theorem get : Maintains kept (MonadState.get : ExceptT ε (StateM σ) σ) := by
  intro before result after held run
  cases run
  exact held

theorem bind {action : ExceptT ε (StateM σ) α} {next : α → ExceptT ε (StateM σ) β}
    (first : Maintains kept action) (second : ∀ value, Maintains kept (next value)) :
    Maintains kept (action >>= next) := by
  intro before result after held run
  rcases ran : action before with ⟨failure | value, middle⟩
  · rw [bind_of_error ran] at run
    cases run
    exact first _ _ _ held ran
  · rw [bind_of_ok ran] at run
    exact second value _ _ _ (first _ _ _ held ran) run

theorem tryCatch {action : ExceptT ε (StateM σ) α} {instead : ε → ExceptT ε (StateM σ) α}
    (first : Maintains kept action) (second : ∀ failure, Maintains kept (instead failure)) :
    Maintains kept (MonadExcept.tryCatch action instead) := by
  intro before result after held run
  rcases ran : action before with ⟨failure | value, middle⟩
  · rw [tryCatch_of_error ran] at run
    exact second failure _ _ _ (first _ _ _ held ran) run
  · rw [tryCatch_of_ok ran] at run
    cases run
    exact first _ _ _ held ran

theorem forM {step : α → ExceptT ε (StateM σ) PUnit} {members : List α}
    (steps : ∀ member ∈ members, Maintains kept (step member)) :
    Maintains kept (members.forM step) := by
  induction members with
  | nil => exact Maintains.pure PUnit.unit
  | cons member members ih =>
    rw [List.forall_mem_cons] at steps
    exact steps.1.bind fun _ => ih steps.2

end Maintains

end Action

open HostNet.Action

/-! ### Operations on files -/

namespace FileTree

variable {kept : FileTree → Prop} {tree : FileTree} {place : Place}

theorem ifThere_maintains {action : FileAction Unit} (plain : Maintains kept action) :
    Maintains kept (ifThere action) := by
  refine plain.tryCatch fun refusal => ?_
  split
  · exact Maintains.pure _
  · exact Maintains.throw _

theorem makeDirectoryAgain_maintains (path : String) (one : Maintains kept (makeDirectory path)) :
    Maintains kept (makeDirectoryAgain path) := by
  refine one.tryCatch fun refusal => Maintains.get.bind fun tree => ?_
  split
  · exact Maintains.throw _
  · exact Maintains.pure _

/-- To make a directory and those above it is to make one directory after the other. -/
theorem createTreeFrom_maintains (one : ∀ path, Maintains kept (makeDirectory path)) (fuel : Nat)
    (path : String) : Maintains kept (createTreeFrom fuel path) := by
  induction fuel generalizing path with
  | zero => exact Maintains.throw _
  | succ fuel ih =>
    unfold createTreeFrom
    split
    · exact Maintains.pure _
    · refine (one path).tryCatch fun refusal => ?_
      split
      · have again := makeDirectoryAgain_maintains path (one path)
        cases parentPath? path with
        | some parent => exact (ih parent).bind fun _ => again
        | none => exact (Maintains.throw _).bind fun _ => again
      · refine Maintains.get.bind fun tree => ?_
        split
        · exact Maintains.throw _
        · exact Maintains.pure _

/-! ### A tree stays a tree -/

/-- The top stays as it is, whatever is put there. -/
theorem at?_put_top (tree : FileTree) (entry : Entry) (other : Place) :
    (tree.put [] entry).at? other = tree.at? other := by
  by_cases top : other = []
  · rw [top]
    rfl
  · exact at?_put_of_ne tree entry top

/-- What is put into a directory, in place of no other directory, leaves no loose end. -/
theorem IsTree.put {name : String} {entry : Entry} (rooted : tree.IsTree)
    (above : tree.isDirectory place = true)
    (fits : (∃ mode, entry = .directory mode) ∨ tree.isDirectory (place ++ [name]) = false) :
    (tree.put (place ++ [name]) entry).IsTree := by
  intro other last stands
  have directory : tree.isDirectory other = true := by
    by_cases same : other ++ [last] = place ++ [name]
    · rw [(List.append_inj' same rfl).1]
      exact above
    · rw [at?_put_of_ne tree entry same] at stands
      exact rooted other last stands
  exact (Kept.put (by simp) fits).1 directory

/-- A file leaves no loose end. -/
theorem IsTree.erase (rooted : tree.IsTree) (file : tree.isDirectory place = false) :
    (tree.erase place).IsTree := by
  intro other last stands
  have different : other ++ [last] ≠ place := by
    rintro rfl
    rw [at?_erase_self tree (by simp)] at stands
    cases stands
  rw [at?_erase_of_ne tree different] at stands
  have directory := rooted other last stands
  have apart : other ≠ place := by
    rintro rfl
    rw [directory] at file
    cases file
  rw [isDirectory_congr (at?_erase_of_ne tree apart)]
  exact directory

/-- Nothing below a place leaves no loose end. -/
theorem IsTree.eraseBelow (rooted : tree.IsTree) (place : Place) :
    (tree.eraseBelow place).IsTree := by
  intro other last stands
  have elsewhere : isBelow (other ++ [last]) place = false := by
    rw [Bool.eq_false_iff]
    intro below
    rw [at?_eraseBelow_below tree below] at stands
    cases stands
  rw [at?_eraseBelow tree elsewhere] at stands
  have above : isBelow other place = false := by
    rw [Bool.eq_false_iff, ne_eq, isBelow_iff] at elsewhere ⊢
    rintro ⟨upper, _⟩
    refine elsewhere ⟨upper.trans (List.prefix_append other [last]), fun same => ?_⟩
    have longer := upper.length_le
    rw [← same, List.length_append, List.length_singleton] at longer
    omega
  rw [isDirectory_congr (at?_eraseBelow tree above)]
  exact rooted other last stands

/-- A place with all below it leaves no loose end. -/
theorem IsTree.eraseAll (rooted : tree.IsTree) (lower : place ≠ []) :
    ((tree.eraseBelow place).erase place).IsTree := by
  intro other last stands
  rw [at?_eraseAll tree lower] at stands
  split at stands
  · cases stands
  rename_i outside
  have above : ¬ place <+: other := fun upper => outside (upper.trans (List.prefix_append _ _))
  have same : ((tree.eraseBelow place).erase place).at? other = tree.at? other := by
    rw [at?_eraseAll tree lower, if_neg above]
  rw [isDirectory_congr same]
  exact rooted other last stands

theorem write_isTree (path : String) (contents : ByteArray) :
    Maintains IsTree (write path contents) := by
  intro tree result after rooted run
  obtain ⟨_, _, rfl⟩ | ⟨_, aim, mode, aims, _, file, rfl⟩ := write_cases run
  · exact rooted
  · exact rooted.put aims.directory (.inr file)

theorem removeFile_isTree (path : String) : Maintains IsTree (removeFile path) := by
  intro tree result after rooted run
  obtain ⟨_, _, rfl, _⟩ | ⟨_, place, _, file, rfl⟩ := removeFile_cases run
  · exact rooted
  · exact rooted.erase file

theorem removeTree_isTree (path : String) : Maintains IsTree (removeTree path) := by
  intro tree result after rooted run
  obtain ⟨_, _, rfl, _⟩ | ⟨_, place, _, _, _, rfl⟩ | ⟨_, place, lower, _, _, rfl⟩ :=
    removeTree_cases run
  · exact rooted
  · exact rooted.eraseBelow place
  · exact rooted.eraseAll lower

theorem makeDirectory_isTree (path : String) : Maintains IsTree (makeDirectory path) := by
  intro tree result after rooted run
  obtain ⟨_, _, rfl⟩ | ⟨_, aim, aims, _, rfl⟩ := makeDirectory_cases run
  · exact rooted
  · exact rooted.put aims.directory (.inl ⟨_, rfl⟩)

theorem createTree_isTree (path : String) : Maintains IsTree (createTree path) :=
  createTreeFrom_maintains makeDirectory_isTree _ path

/-- Permission bits make no difference to what is a directory. -/
theorem setMode_isTree (path : String) (mode : Nat) : Maintains IsTree (setMode path mode) := by
  intro tree result after rooted run
  obtain ⟨_, _, rfl⟩ | ⟨_, place, entry, _, stands, rfl⟩ := setMode_cases run
  · exact rooted
  · cases place using List.reverseRecOn with
    | nil =>
      intro other last stands
      rw [at?_put_top] at stands
      rw [isDirectory_congr (at?_put_top tree _ other)]
      exact rooted other last stands
    | append_singleton upper name =>
      have above := rooted upper name (by rw [stands]; rfl)
      refine rooted.put above ?_
      cases entry with
      | directory _ => exact .inl ⟨mode, rfl⟩
      | file _ _ => exact .inr (by rw [isDirectory, stands])

end FileTree

/-! ### Actions on a host -/

namespace HostAction

variable {σ ε α : Type}

theorem onPath_maintains {kept : FileTree → Prop} {path : String} {operation : FileAction α}
    (keeps : Maintains kept operation) :
    Maintains (kept ·.files) (onPath path operation : HostAction σ HostFailure α) := by
  intro before result after held run
  obtain ⟨outcome, files, ran, rfl, _⟩ := onPath_cases run
  exact keeps _ _ _ held ran

/-- To tell a failure in other words changes nothing else. -/
theorem mapFailure_cases {δ : Type} {change : ε → δ} {action : HostAction σ ε α}
    {before after : Host σ} {result : Except (Halt δ) α}
    (run : mapFailure change action before = (result, after)) :
    ∃ outcome, action before = (outcome, after) := by
  rcases ran : action before with ⟨outcome, middle⟩
  simp only [mapFailure, ran] at run
  cases run
  exact ⟨outcome, rfl⟩

theorem mapFailure_maintains {δ : Type} {kept : Host σ → Prop} {change : ε → δ}
    {action : HostAction σ ε α} (keeps : Maintains kept action) :
    Maintains kept (mapFailure change action) := by
  intro before result after held run
  obtain ⟨_, ran⟩ := mapFailure_cases run
  exact keeps _ _ _ held ran

end HostAction

end HostNet
