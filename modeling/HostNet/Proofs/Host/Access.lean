/-
**What the operations on files do to the tree.**

Each operation either is refused or makes one change, at the target of its path. The exceptions are
to remove a directory, which may be refused once the directory is empty, and to make a directory
with all above it, which may be refused after some of those above it are made.

* `write_cases`, `removeFile_cases`, `removeTree_cases`, `setMode_cases`, `makeDirectory_cases`:
  what each operation can do;
* `createTreeFrom_cases`: making a directory adds directories at places that its path passes, where
  nothing stood, and changes nothing else; when it is done its path leads to a directory.
-/

import HostNet.Host.FileAccess
import HostNet.Proofs.Host.Action
import HostNet.Proofs.Host.Tree

namespace HostNet

/-- An entry with other permission bits. -/
def Entry.withMode (mode : Nat) : Entry → Entry
  | .directory _ => .directory mode
  | .file _ contents => .file mode contents

end HostNet

namespace HostNet.FileTree

open HostNet.Action

variable {tree after : FileTree} {place : Place} {path : String} {result : Except Refusal Unit}

theorem ask_of_ok {α : Type} {question : FileTree → Except Refusal α} {answer : α}
    (found : question tree = .ok answer) : ask question tree = (.ok answer, tree) := by
  unfold ask
  rw [bind_of_ok (get_apply tree), found]
  rfl

theorem ask_of_error {α : Type} {question : FileTree → Except Refusal α} {refusal : Refusal}
    (found : question tree = .error refusal) : ask question tree = (.error refusal, tree) := by
  unfold ask
  rw [bind_of_ok (get_apply tree), found]
  rfl

/-! ### Single changes -/

/-- Writing is refused, or puts a file where the path aims. -/
theorem write_cases {contents : ByteArray} (run : write path contents tree = (result, after)) :
    (∃ refusal, result = .error refusal ∧ after = tree) ∨
      (result = .ok () ∧ ∃ aim mode, tree.AimsAt path aim ∧ aim.slash = false ∧
        tree.isDirectory aim.place = false ∧ after = tree.put aim.place (.file mode contents)) := by
  unfold write at run
  cases found : tree.aim path with
  | error refusal =>
    rw [bind_of_error (ask_of_error found)] at run
    cases run
    exact .inl ⟨refusal, rfl, rfl⟩
  | ok aim =>
    rw [bind_of_ok (ask_of_ok found), bind_of_ok (get_apply tree)] at run
    by_cases refused : (aim.isDots || aim.slash) = true
    · rw [if_pos refused] at run
      cases run
      exact .inl ⟨_, rfl, rfl⟩
    · rw [if_neg refused] at run
      simp only [Bool.or_eq_true, not_or, Bool.not_eq_true] at refused
      have aims := aim_ok found refused.1
      cases stands : tree.at? aim.place with
      | none =>
        simp only [stands] at run
        cases run
        have file : tree.isDirectory aim.place = false := by simp [isDirectory, stands]
        exact .inr ⟨rfl, aim, _, aims, refused.2, file, rfl⟩
      | some entry =>
        simp only [stands] at run
        cases entry with
        | directory mode =>
          cases run
          exact .inl ⟨_, rfl, rfl⟩
        | file mode before =>
          cases run
          have file : tree.isDirectory aim.place = false := by simp [isDirectory, stands]
          exact .inr ⟨rfl, aim, _, aims, refused.2, file, rfl⟩

/-- A file is written where the path aims, unless a directory stands there. -/
theorem write_ok {aim : Aim} (contents : ByteArray) (aims : tree.AimsAt path aim)
    (noSlash : aim.slash = false) (file : tree.isDirectory aim.place = false) :
    ∃ mode, write path contents tree = (.ok (), tree.put aim.place (.file mode contents)) := by
  obtain ⟨named, noDot, noDots⟩ := aims.ordinary
  have refused : ¬ (aim.isDots || aim.slash) = true := by simp [Aim.isDots, noDot, noDots, noSlash]
  unfold write
  rw [bind_of_ok (ask_of_ok (aims.aim_eq noSlash)), bind_of_ok (get_apply tree), if_neg refused]
  dsimp only
  cases stands : tree.at? aim.place with
  | none => exact ⟨fileMode, rfl⟩
  | some entry =>
    cases entry with
    | directory mode => simp [isDirectory, stands] at file
    | file mode before => exact ⟨mode, rfl⟩

/-- Removing a file is refused, or removes what stands at the target of the path. -/
theorem removeFile_cases (run : removeFile path tree = (result, after)) :
    (∃ refusal, result = .error refusal ∧ after = tree ∧
        (refusal = .notFound → tree.locate path = .error .notFound)) ∨
      (result = .ok () ∧ ∃ place, tree.locate path = .ok place ∧ tree.isDirectory place = false ∧
        after = tree.erase place) := by
  unfold removeFile at run
  cases found : tree.locate path with
  | error refusal =>
    rw [bind_of_error (ask_of_error found)] at run
    cases run
    exact .inl ⟨refusal, rfl, rfl, fun same => by rw [same]⟩
  | ok place =>
    rw [bind_of_ok (ask_of_ok found), bind_of_ok (get_apply tree)] at run
    cases directory : tree.isDirectory place with
    | true =>
      rw [if_pos directory] at run
      cases run
      exact .inl ⟨_, rfl, rfl, nofun⟩
    | false =>
      rw [if_neg (by simp [directory])] at run
      cases run
      exact .inr ⟨rfl, place, rfl, directory, rfl⟩

/-- Setting permission bits is refused, or changes those of what stands at the target. -/
theorem setMode_cases {mode : Nat} (run : setMode path mode tree = (result, after)) :
    (∃ refusal, result = .error refusal ∧ after = tree) ∨
      (result = .ok () ∧ ∃ place entry, tree.locate path = .ok place ∧
        tree.at? place = some entry ∧ after = tree.put place (entry.withMode mode)) := by
  unfold setMode at run
  cases found : tree.locate path with
  | error refusal =>
    rw [bind_of_error (ask_of_error found)] at run
    cases run
    exact .inl ⟨refusal, rfl, rfl⟩
  | ok place =>
    rw [bind_of_ok (ask_of_ok found), bind_of_ok (get_apply tree)] at run
    cases stands : tree.at? place with
    | none =>
      simp only [stands] at run
      cases run
      exact .inl ⟨_, rfl, rfl⟩
    | some entry =>
      simp only [stands] at run
      right
      cases entry <;> cases run <;> exact ⟨rfl, place, _, rfl, stands, rfl⟩

/-- The permission bits of what stands at the end of a path are set. -/
theorem setMode_ok {entry : Entry} (mode : Nat) (found : tree.locate path = .ok place)
    (stands : tree.at? place = some entry) :
    setMode path mode tree = (.ok (), tree.put place (entry.withMode mode)) := by
  unfold setMode
  rw [bind_of_ok (ask_of_ok found), bind_of_ok (get_apply tree)]
  cases entry <;> simp only [stands] <;> rfl

/-- Making a directory is refused, or puts one where the path aims and nothing stood. -/
theorem makeDirectory_cases (run : makeDirectory path tree = (result, after)) :
    (∃ refusal, result = .error refusal ∧ after = tree) ∨
      (result = .ok () ∧ ∃ aim, tree.AimsAt path aim ∧ tree.at? aim.place = none ∧
        after = tree.put aim.place (.directory directoryMode)) := by
  unfold makeDirectory at run
  cases found : tree.aim path with
  | error refusal =>
    rw [bind_of_error (ask_of_error found)] at run
    cases run
    exact .inl ⟨refusal, rfl, rfl⟩
  | ok aim =>
    rw [bind_of_ok (ask_of_ok found), bind_of_ok (get_apply tree)] at run
    by_cases refused : (aim.isDots || (tree.at? aim.place).isSome) = true
    · rw [if_pos refused] at run
      cases run
      exact .inl ⟨_, rfl, rfl⟩
    · rw [if_neg refused] at run
      simp only [Bool.or_eq_true, not_or, Bool.not_eq_true, Option.isSome_eq_false_iff,
        Option.isNone_iff_eq_none] at refused
      cases run
      exact .inr ⟨rfl, aim, aim_ok found refused.1, refused.2, rfl⟩

/-- The last name of a path to a directory that can be removed is not lost on the way. -/
theorem target_ne_nil_of_lastName (home : Place) (removable : lastNameRefusal path = none) :
    target home path ≠ [] := by
  unfold lastNameRefusal at removable
  split at removable
  · cases removable
  · rename_i last before namesAre
    obtain ⟨named, ends, whole, empty, _⟩ := split_ends namesAre
    split at removable
    · cases removable
    rename_i noDot
    split at removable
    · cases removable
    rename_i noDots
    rw [target, whole, resolve_append, resolve_cons, enter_of_ordinary named noDot noDots,
      resolve_of_empty empty]
    simp

theorem lastNameRefusal_ne_notFound {refusal : Refusal}
    (refused : lastNameRefusal path = some refusal) : refusal ≠ .notFound := by
  rintro rfl
  unfold lastNameRefusal at refused
  split at refused
  · cases refused
  · split at refused
    · cases refused
    · split at refused <;> cases refused

/-- Removing a directory is refused, perhaps once the directory is empty, or removes it with all
below it. -/
theorem removeTree_cases (run : removeTree path tree = (result, after)) :
    (∃ refusal, result = .error refusal ∧ after = tree ∧
        (refusal = .notFound → tree.locate path = .error .notFound)) ∨
      (∃ refusal place, result = .error refusal ∧ refusal ≠ .notFound ∧
        tree.locate path = .ok place ∧ after = tree.eraseBelow place) ∨
      (result = .ok () ∧ ∃ place, place ≠ [] ∧ tree.locate path = .ok place ∧
        tree.isDirectory place = true ∧ after = (tree.eraseBelow place).erase place) := by
  unfold removeTree at run
  cases found : tree.locate path with
  | error refusal =>
    rw [bind_of_error (ask_of_error found)] at run
    cases run
    exact .inl ⟨refusal, rfl, rfl, fun same => by rw [same]⟩
  | ok place =>
    rw [bind_of_ok (ask_of_ok found), bind_of_ok (get_apply tree)] at run
    cases directory : tree.isDirectory place with
    | false =>
      rw [if_pos (by simp [directory])] at run
      cases run
      exact .inl ⟨_, rfl, rfl, nofun⟩
    | true =>
      rw [if_neg (by simp [directory])] at run
      dsimp only at run
      rw [bind_of_ok (modify_apply _ tree)] at run
      cases refused : lastNameRefusal path with
      | some refusal =>
        simp only [refused] at run
        cases run
        exact .inr (.inl ⟨refusal, place, rfl, lastNameRefusal_ne_notFound refused, rfl, rfl⟩)
      | none =>
        simp only [refused] at run
        cases run
        have lower : place ≠ [] := by
          rw [locate_eq_target found]
          exact target_ne_nil_of_lastName tree.home refused
        exact .inr (.inr ⟨rfl, place, lower, rfl, directory, rfl⟩)

/-- Tolerating that something is not there changes that answer only. -/
theorem ifThere_cases {action : FileAction Unit} (run : ifThere action tree = (result, after)) :
    (action tree = (result, after) ∧ result ≠ .error .notFound) ∨
      (action tree = (.error .notFound, after) ∧ result = .ok ()) := by
  unfold ifThere at run
  rcases plain : action tree with ⟨refusal | done, middle⟩
  · rw [tryCatch_of_error plain] at run
    by_cases absent : refusal = .notFound
    · rw [if_pos absent] at run
      cases run
      exact .inr ⟨by rw [absent], rfl⟩
    · rw [if_neg absent] at run
      cases run
      exact .inl ⟨rfl, fun same => absent (Except.error.inj same)⟩
  · rw [tryCatch_of_ok plain] at run
    cases run
    exact .inl ⟨rfl, nofun⟩

/-! ### Directories with all above them -/

/-- A tree has at most new directories at some places, where nothing stood. -/
structure Adds (places : List Place) (tree after : FileTree) : Prop where
  home : after.home = tree.home
  entries : ∀ place, after.at? place = tree.at? place ∨
    (place ∈ places ∧ tree.at? place = none ∧
      after.at? place = some (.directory directoryMode))

namespace Adds

variable {places : List Place} {last : FileTree}

theorem refl (places : List Place) (tree : FileTree) : Adds places tree tree :=
  ⟨rfl, fun _ => .inl rfl⟩

theorem trans (first : Adds places tree after) (second : Adds places after last) :
    Adds places tree last := by
  refine ⟨second.home.trans first.home, fun place => ?_⟩
  obtain same | ⟨inside, absent, made⟩ := second.entries place
  · rw [same]
    exact first.entries place
  · obtain same | ⟨_, _, stands⟩ := first.entries place
    · exact .inr ⟨inside, same ▸ absent, made⟩
    · rw [stands] at absent
      cases absent

theorem mono {more : List Place} (adds : Adds places tree after) (within : places ⊆ more) :
    Adds more tree after :=
  ⟨adds.home, fun place => (adds.entries place).imp_right fun ⟨inside, made⟩ =>
    ⟨within inside, made⟩⟩

/-- Nothing that stands is lost. -/
theorem kept (adds : Adds places tree after) (place : Place) : Kept tree after place := by
  obtain same | ⟨_, absent, _⟩ := adds.entries place
  · exact Kept.of_at? same
  · exact ⟨fun directory => by simp [isDirectory, absent] at directory,
      fun stands => by simp [absent] at stands⟩

/-- Elsewhere nothing changes. -/
theorem at?_of_notMem (adds : Adds places tree after) (outside : place ∉ places) :
    after.at? place = tree.at? place :=
  (adds.entries place).resolve_right fun made => outside made.1

end Adds

theorem makeDirectory_adds (run : makeDirectory path tree = (result, after)) :
    Adds (passed tree.home path) tree after := by
  obtain ⟨refusal, _, rfl⟩ | ⟨_, aim, aims, absent, rfl⟩ := makeDirectory_cases run
  · exact Adds.refl _ _
  · refine ⟨rfl, fun place => ?_⟩
    by_cases same : place = aim.place
    · subst same
      refine .inr ⟨?_, absent, at?_put_self tree _ (AimsAt.place_ne_nil aim)⟩
      rw [aims.place_eq]
      exact target_mem_passed tree.home path
    · exact .inl (at?_put_of_ne tree _ same)

/-- Whether a path leads to a directory. -/
theorem isDirectoryAt_iff : tree.isDirectoryAt path = true ↔
    ∃ place, tree.locate path = .ok place ∧ tree.isDirectory place = true := by
  unfold isDirectoryAt
  cases tree.locate path <;> simp

theorem makeDirectory_ok (run : makeDirectory path tree = (.ok (), after)) :
    after.isDirectoryAt path = true := by
  obtain ⟨_, refused, _⟩ | ⟨_, aim, aims, _, rfl⟩ := makeDirectory_cases run
  · cases refused
  · refine isDirectoryAt_iff.mpr ⟨aim.place, aims.locate_put (.inl ⟨_, rfl⟩), ?_⟩
    exact isDirectory_iff.mpr ⟨_, at?_put_self tree _ (AimsAt.place_ne_nil aim)⟩

/-- Making a directory again is making it, unless it is there by now. -/
theorem makeDirectoryAgain_cases (run : makeDirectoryAgain path tree = (result, after)) :
    Adds (passed tree.home path) tree after ∧
      (result = .ok () → after.isDirectoryAt path = true) := by
  unfold makeDirectoryAgain at run
  rcases made : makeDirectory path tree with ⟨refusal | _, middle⟩
  · rw [tryCatch_of_error made, bind_of_ok (get_apply middle)] at run
    by_cases there : middle.isDirectoryAt path = true
    · rw [if_neg (by simp [there])] at run
      cases run
      exact ⟨makeDirectory_adds made, fun _ => there⟩
    · rw [if_pos (by simp [there])] at run
      cases run
      exact ⟨makeDirectory_adds made, nofun⟩
  · rw [tryCatch_of_ok made] at run
    cases run
    exact ⟨makeDirectory_adds made, fun _ => makeDirectory_ok made⟩

/-- **Making a directory with all above it adds directories that the path passes, and nothing
else; when it is done the path leads to a directory.** -/
theorem createTreeFrom_cases {fuel : Nat} (run : createTreeFrom fuel path tree = (result, after)) :
    Adds (passed tree.home path) tree after ∧
      (result = .ok () → path = "" ∨ after.isDirectoryAt path = true) := by
  induction fuel generalizing path tree after result with
  | zero =>
    cases run
    exact ⟨Adds.refl _ _, nofun⟩
  | succ fuel ih =>
    unfold createTreeFrom at run
    by_cases empty : path = ""
    · rw [if_pos empty] at run
      cases run
      exact ⟨Adds.refl _ _, fun _ => .inl empty⟩
    rw [if_neg empty] at run
    rcases made : makeDirectory path tree with ⟨refusal | _, middle⟩
    · have adds := makeDirectory_adds made
      rw [tryCatch_of_error made] at run
      by_cases absent : refusal = .notFound
      · rw [if_pos absent] at run
        dsimp only at run
        cases found : parentPath? path with
        | none =>
          simp only [found] at run
          rw [bind_of_error (throw_apply _ middle)] at run
          cases run
          exact ⟨adds, nofun⟩
        | some parent =>
          simp only [found] at run
          rcases above : createTreeFrom fuel parent middle with ⟨refusal | _, upper⟩
          all_goals
            have upperAdds := (ih above).1
            rw [adds.home] at upperAdds
            have fromStart := adds.trans (upperAdds.mono fun _ => passed_parent found)
          · rw [bind_of_error above] at run
            cases run
            exact ⟨fromStart, nofun⟩
          · rw [bind_of_ok above] at run
            obtain ⟨lastAdds, there⟩ := makeDirectoryAgain_cases run
            rw [fromStart.home] at lastAdds
            exact ⟨fromStart.trans lastAdds, fun done => .inr (there done)⟩
      · rw [if_neg absent, bind_of_ok (get_apply middle)] at run
        by_cases there : middle.isDirectoryAt path = true
        · rw [if_neg (by simp [there])] at run
          cases run
          exact ⟨adds, fun _ => .inr there⟩
        · rw [if_pos (by simp [there])] at run
          cases run
          exact ⟨adds, nofun⟩
    · rw [tryCatch_of_ok made] at run
      cases run
      exact ⟨makeDirectory_adds made, fun _ => .inr (makeDirectory_ok made)⟩

end HostNet.FileTree
