/-
**What a file holds once it has been written or removed.**

A file of an apply is written, with all directories above it, or it is removed; in both cases the
step succeeds only if the path then holds what it should. Nothing else is lost: directories and
other files stay where they are.

A file that was to be removed may come to light later. Where its path led nowhere there was nothing to
remove, and a directory made since then may lead the path to what stands there all the same.

* `Updated`: what the step does to the tree;
* `Updated.holds`: the path holds what it should right after the step;
* `Spared`: a change leaves alone what a path leads to, and the directories that lead there;
* `Updated.holds_later_iff`: the path still holds what it should unless something came to light;
* `updateFile_updated` and `updateTimesync_updated`: both steps do this when they succeed.
-/

import HostNet.Proofs.Apply.Steps

namespace HostNet

open FileTree HostNet.Action

/-- A path leads to what stood there before, and did not lead there then. -/
def Exposed (path : String) (before after : FileTree) : Prop :=
  (∀ place, before.locate path ≠ .ok place) ∧ ∃ place entry,
    after.locate path = .ok place ∧ before.at? place = some entry ∧ after.at? place = some entry

namespace FileTree

variable {tree middle after : FileTree} {path : String} {place : Place}

/-- A path leads to a file with a text, or to nothing. -/
def Holds (tree : FileTree) (path : String) : Option String → Prop
  | some text => tree.contents path = .ok text.toUTF8
  | none => ∀ place, tree.locate path = .ok place → tree.at? place = none

theorem contents_of_file {mode : Nat} {contents : ByteArray} (found : tree.locate path = .ok place)
    (stands : tree.at? place = some (.file mode contents)) :
    tree.contents path = .ok contents := by
  unfold FileTree.contents
  rw [found]
  simp only [bind, Except.bind, stands]
  rfl

theorem Holds.located {text : String} (holds : tree.Holds path (some text)) :
    tree.locate path = .ok (target tree.home path) := by
  simp only [Holds, contents] at holds
  cases found : tree.locate path with
  | error refusal =>
    rw [found] at holds
    cases holds
  | ok place => rw [locate_eq_target found]

/-- What is read from a path that leads to a file with a text, or to nothing. -/
theorem Holds.contents_eq_iff {text : Option String} (holds : tree.Holds path text)
    (contents : ByteArray) :
    tree.contents path = .ok contents ↔ text.map (·.toUTF8) = some contents := by
  cases text with
  | some text =>
    rw [show tree.contents path = .ok text.toUTF8 from holds]
    simp
  | none =>
    simp only [Option.map_none, reduceCtorEq, iff_false]
    intro read
    rw [FileTree.contents] at read
    cases found : tree.locate path with
    | error refusal =>
      rw [found] at read
      cases read
    | ok place =>
      rw [found] at read
      simp only [bind, Except.bind, holds place found] at read
      cases read

/-- A path that leads to nothing has brought nothing to light. -/
theorem Holds.not_exposed (holds : after.Holds path none) : ¬ Exposed path tree after := by
  rintro ⟨_, place, entry, found, _, stands⟩
  rw [holds place found] at stands
  cases stands

theorem isDirectory_of_file {mode : Nat} {contents : ByteArray}
    (stands : tree.at? place = some (.file mode contents)) : tree.isDirectory place = false := by
  simp [isDirectory, stands]

/-! ### Paths that a change spares -/

/-- A change leaves alone what lies at or below the target of a path, and loses no directory on the way
there. -/
structure Spared (path : String) (tree after : FileTree) : Prop where
  home : after.home = tree.home
  kept : ∀ place ∈ passed tree.home path, Kept tree after place
  same : ∀ inside, after.at? (target tree.home path ++ inside) =
    tree.at? (target tree.home path ++ inside)

namespace Spared

theorem at?_target (spared : Spared path tree after) :
    after.at? (target tree.home path) = tree.at? (target tree.home path) := by
  have same := spared.same []
  rw [List.append_nil] at same
  exact same

/-- The path leads where it led. -/
theorem locate (spared : Spared path tree after) (found : tree.locate path = .ok place) :
    after.locate path = .ok place :=
  locate_mono spared.home spared.kept found

end Spared

/-! ### Files that are written -/

/-- A file is at the target of a path, with some contents, and nothing that stood is lost. -/
structure Written (path : String) (contents : ByteArray) (tree after : FileTree) : Prop where
  home : after.home = tree.home
  located : after.locate path = .ok (target tree.home path)
  stands : ∃ mode, after.at? (target tree.home path) = some (.file mode contents)
  kept : ∀ place, Kept tree after place

/-- Writing puts a file at the target of the path. -/
theorem Written.of_write {contents : ByteArray}
    (run : write path contents tree = (.ok (), after)) : Written path contents tree after := by
  obtain ⟨_, refused, _⟩ | ⟨_, aim, mode, aims, noSlash, file, rfl⟩ := write_cases run
  · cases refused
  · have lower := AimsAt.place_ne_nil aim
    refine ⟨rfl, ?_, ?_, fun place => Kept.put lower (.inr file)⟩
    · rw [← aims.place_eq]
      exact aims.locate_put (.inr ⟨noSlash, file⟩)
    · rw [← aims.place_eq]
      exact ⟨mode, at?_put_self tree _ lower⟩

/-- A file is kept when its permission bits are set. -/
theorem Written.setMode {contents : ByteArray} {mode : Nat}
    (written : Written path contents tree middle)
    (run : FileTree.setMode path mode middle = (.ok (), after)) :
    Written path contents tree after := by
  obtain ⟨_, refused, _⟩ | ⟨_, place, entry, found, stands, rfl⟩ := setMode_cases run
  · cases refused
  · obtain ⟨before, file⟩ := written.stands
    have same : place = target tree.home path := by
      rw [locate_eq_target found, written.home]
    subst same
    rw [file] at stands
    cases stands
    have lower : target tree.home path ≠ [] := by
      intro top
      rw [top, at?_top] at file
      cases file
    have kept : ∀ place, Kept middle (middle.put (target tree.home path) (.file mode contents)) place :=
      fun place => Kept.put lower (.inr (isDirectory_of_file file))
    refine ⟨written.home, ?_, ⟨mode, at?_put_self middle _ lower⟩, fun place =>
      (written.kept place).trans (kept place)⟩
    exact locate_mono (home_put middle _ _) (fun between _ => kept between) written.located

theorem Written.contents_eq {contents : ByteArray} (written : Written path contents tree after) :
    after.contents path = .ok contents := by
  obtain ⟨mode, stands⟩ := written.stands
  exact contents_of_file written.located stands

/-! ### Files that are removed -/

/-- What stood at the target of a path is removed, or the path led nowhere. -/
def Removed (path : String) (tree after : FileTree) : Prop :=
  (tree.locate path = .error .notFound ∧ after = tree) ∨
    (tree.locate path = .ok (target tree.home path) ∧ target tree.home path ≠ [] ∧
      after = tree.erase (target tree.home path))

theorem Removed.of_removeFile
    (run : ifThere (removeFile path) tree = (.ok (), after)) : Removed path tree after := by
  obtain ⟨plain, _⟩ | ⟨plain, _⟩ := ifThere_cases run
  · obtain ⟨_, refused, _⟩ | ⟨_, place, found, file, rfl⟩ := removeFile_cases plain
    · cases refused
    · have same := locate_eq_target found
      subst same
      refine .inr ⟨found, ?_, rfl⟩
      intro top
      rw [top] at file
      cases file
  · obtain ⟨refusal, refused, rfl, absent⟩ | ⟨refused, _⟩ := removeFile_cases plain
    · cases refused
      exact .inl ⟨absent rfl, rfl⟩
    · cases refused

/-! ### Files that are written or removed -/

/-- A file is written, or it is removed if there is no text for it. -/
def Updated (path : String) (text : Option String) (tree after : FileTree) : Prop :=
  match text with
  | some text => Written path text.toUTF8 tree after
  | none => Removed path tree after

namespace Updated

variable {text : Option String}

/-- **Right after it is updated, a file is what it should be.** -/
theorem holds (updated : Updated path text tree after) : after.Holds path text := by
  cases text with
  | some text => exact Written.contents_eq updated
  | none =>
    intro place found
    obtain ⟨absent, rfl⟩ | ⟨_, lower, rfl⟩ := updated
    · rw [absent] at found
      cases found
    · rw [locate_eq_target found]
      exact at?_erase_self tree lower

theorem home (updated : Updated path text tree after) : after.home = tree.home := by
  cases text with
  | some text => exact Written.home updated
  | none =>
    obtain ⟨_, rfl⟩ | ⟨_, _, rfl⟩ := updated
    · rfl
    · rfl

/-- Nothing but the file itself is lost. -/
theorem kept (updated : Updated path text tree after) (other : place ≠ target tree.home path) :
    Kept tree after place := by
  cases text with
  | some text => exact Written.kept updated place
  | none =>
    obtain ⟨_, rfl⟩ | ⟨_, _, rfl⟩ := updated
    · exact Kept.of_at? rfl
    · exact Kept.of_at? (at?_erase_of_ne tree other)

/-- **A file that is updated stays what it should be while its path is spared**, unless it is to be
removed and comes to light. -/
theorem holds_later_iff (updated : Updated path text tree middle)
    (spared : Spared path middle after) :
    after.Holds path text ↔ (text = none → ¬ Exposed path tree after) := by
  have same := spared.at?_target
  rw [updated.home] at same
  constructor
  · rintro holds rfl
    exact holds.not_exposed
  · intro hidden
    cases text with
    | some text =>
      obtain ⟨_, located, ⟨mode, stands⟩, _⟩ : Written _ _ _ _ := updated
      exact contents_of_file (spared.locate located) (same.trans stands)
    | none =>
      intro place found
      have led := locate_eq_target found
      rw [spared.home, updated.home] at led
      subst led
      obtain ⟨nowhere, rfl⟩ | ⟨_, lower, rfl⟩ := updated
      · cases stands : after.at? (target middle.home path) with
        | none => rfl
        | some entry =>
          refine absurd ⟨fun place led => ?_, _, entry, found, same ▸ stands, stands⟩ (hidden rfl)
          rw [nowhere] at led
          cases led
      · rw [same]
        exact at?_erase_self tree lower

/-- No file comes to light if its path has no double dots, in a tree without loose ends. -/
theorem not_exposed_of_plain (updated : Updated path none tree middle)
    (home : after.home = tree.home) (rooted : tree.IsTree) (plain : ".." ∉ pathNames path) :
    ¬ Exposed path tree after := by
  rintro ⟨astray, place, entry, found, stood, _⟩
  obtain ⟨missing, _⟩ | ⟨led, _⟩ := updated
  · have led := locate_eq_target found
    rw [home] at led
    subst led
    obtain ⟨between, through, absent⟩ := locate_notFound missing (locate_ok_iff.mp found).1
    rw [rooted.vacant absent (prefix_target_of_plain plain through)] at stood
    cases stood
  · exact astray _ led

end Updated

end FileTree

namespace HostAction

variable {σ : Type} {before after : Host σ} {path : String}

theorem onPath_ok {operation : FileAction Unit}
    (run : onPath path operation before = (.ok (), after)) :
    operation before.files = (.ok (), after.files) := by
  obtain ⟨outcome, files, ran, rfl, result⟩ := onPath_cases run
  cases outcome with
  | error refusal => cases result
  | ok _ => exact ran

/-- Making the directory of a file loses nothing. -/
theorem createParent_kept (run : createParent path before = (.ok (), after)) :
    after.files.home = before.files.home ∧ ∀ place, Kept before.files after.files place := by
  unfold createParent at run
  cases found : parentPath? path with
  | some parent =>
    simp only [found] at run
    have adds := (createTreeFrom_cases (onPath_ok run)).1
    exact ⟨adds.home, adds.kept⟩
  | none =>
    simp only [found] at run
    cases run
    exact ⟨rfl, fun place => Kept.of_at? rfl⟩

/-- **A file that is updated is written or removed.** -/
theorem updateFile_updated {text : Option String}
    (run : updateFile path text before = (.ok (), after)) :
    Updated path text before.files after.files := by
  cases text with
  | some text =>
    obtain ⟨_, middle, above, wrote⟩ := bind_ok_iff.mp run
    obtain ⟨home, kept⟩ := createParent_kept above
    have written := Written.of_write (onPath_ok wrote)
    exact ⟨written.home.trans home, home ▸ written.located, home ▸ written.stands,
      fun place => (kept place).trans (written.kept place)⟩
  | none => exact Removed.of_removeFile (onPath_ok run)

theorem updateTimesync_updated {ntp : Option Ntp}
    (run : updateTimesync path ntp before = (.ok (), after)) :
    Updated path (timesyncText? ntp) before.files after.files := by
  unfold updateTimesync at run
  obtain ⟨_, middle, wrote, shared⟩ := bind_ok_iff.mp run
  have updated := updateFile_updated wrote
  generalize timesyncText? ntp = text at updated shared ⊢
  cases text with
  | some text => exact Written.setMode updated (onPath_ok shared)
  | none =>
    cases shared
    exact updated

end HostAction

end HostNet
