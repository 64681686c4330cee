/-
**Paths in a tree of files.**

A path that leads somewhere leads to its target, through directories at all places that it passes
before. So a path is led astray by a change of the tree only if the change removes something at a
place that it passes.

* `locate_ok_iff`: where a path leads, and through what;
* `locate_mono`: what is kept at the places of a path keeps the path;
* `aim_ok`: where a path would make something, and through what;
* `locate_put`: what is put where a path aims is what the path leads to;
* `locate_notFound`: a path that is not found passes a place where nothing stands;
* `IsTree.vacant`: in a tree without loose ends nothing stands below such a place.
-/

import HostNet.Proofs.Host.Path

namespace HostNet.FileTree

variable {tree later : FileTree} {place other goal : Place} {path : String}

/-! ### One change at a time -/

@[simp] theorem at?_top (tree : FileTree) : tree.at? [] = some (.directory 0o755) := rfl

@[simp] theorem home_put (tree : FileTree) (place : Place) (entry : Entry) :
    (tree.put place entry).home = tree.home := rfl

theorem isBelow_iff : isBelow place other = true ↔ other <+: place ∧ place ≠ other := by
  simp [isBelow]

theorem at?_erase_self (tree : FileTree) (lower : place ≠ []) :
    (tree.erase place).at? place = none := by
  have dropped : decide (place ≠ place) = false := by simp
  simp only [at?, erase, lower, if_false]
  exact lookup_filter_none (fun key => decide (key ≠ place)) dropped

theorem at?_eraseBelow_below (tree : FileTree) (below : isBelow other place = true) :
    (tree.eraseBelow place).at? other = none := by
  have lower : other ≠ [] := by
    rintro rfl
    obtain ⟨upper, different⟩ := isBelow_iff.mp below
    exact different (List.prefix_nil.mp upper).symm
  simp only [at?, eraseBelow, lower, if_false]
  exact lookup_filter_none (fun key => !isBelow key place) (by simp [below])

/-- Removing a place with all below it leaves nothing at or below it, and the rest alone. -/
theorem at?_eraseAll (tree : FileTree) (lower : place ≠ []) :
    ((tree.eraseBelow place).erase place).at? other =
      if place <+: other then none else tree.at? other := by
  by_cases same : other = place
  · rw [same, at?_erase_self _ lower, if_pos (List.prefix_refl place)]
  · rw [at?_erase_of_ne _ same]
    by_cases below : place <+: other
    · rw [if_pos below, at?_eraseBelow_below _ (isBelow_iff.mpr ⟨below, same⟩)]
    · have elsewhere : isBelow other place = false := by
        rw [Bool.eq_false_iff, ne_eq, isBelow_iff]
        exact fun lies => below lies.1
      rw [if_neg below, at?_eraseBelow _ elsewhere]

theorem isDirectory_iff : tree.isDirectory place = true ↔
    ∃ mode, tree.at? place = some (.directory mode) := by
  unfold isDirectory
  split
  · rename_i mode found
    simp [found]
  · rename_i other
    simp only [Bool.false_eq_true, false_iff, not_exists]
    exact other

theorem isSome_of_isDirectory (directory : tree.isDirectory place = true) :
    (tree.at? place).isSome = true := by
  obtain ⟨mode, found⟩ := isDirectory_iff.mp directory
  rw [found]
  rfl

theorem isDirectory_congr (same : later.at? place = tree.at? place) :
    later.isDirectory place = tree.isDirectory place := by
  rw [isDirectory, isDirectory, same]

/-! ### Following names -/

/-- Whether a name leads on from a directory. -/
def Leads (tree : FileTree) (place : Place) (name : String) : Prop :=
  name = "" ∨ name = "." ∨ name = ".." ∨
    (name.utf8ByteSize ≤ longestName ∧ (tree.at? (place ++ [name])).isSome = true)

/-- Names lead somewhere if the first leads on from a directory and the others do from there. -/
theorem walk_cons_ok_iff {name : String} {names : List String} :
    tree.walk place (name :: names) = .ok goal ↔
      tree.isDirectory place = true ∧ tree.Leads place name ∧
        tree.walk (enter place name) names = .ok goal := by
  rw [walk, Leads, enter]
  cases directory : tree.isDirectory place with
  | false => simp
  | true =>
    by_cases still : name = "" ∨ name = "."
    · simp only [Bool.not_true, Bool.false_eq_true, if_false, Bool.or_eq_true, decide_eq_true_eq,
        if_pos still, true_and, iff_and_self]
      exact fun _ => still.elim .inl fun dot => .inr (.inl dot)
    · obtain ⟨named, noDot⟩ := not_or.mp still
      by_cases up : name = ".."
      · simp [up]
      · by_cases long : longestName < name.utf8ByteSize
        · simp [named, noDot, up, long, Nat.not_le.mpr long]
        · cases found : tree.at? (place ++ [name]) with
          | none => simp [named, noDot, up, long]
          | some entry => simp [named, noDot, up, long, Nat.not_lt.mp long]

/-- Names that lead somewhere lead where they lead without a tree. -/
theorem walk_eq_resolve {names : List String} (found : tree.walk place names = .ok goal) :
    goal = resolve place names := by
  induction names generalizing place with
  | nil => exact (Except.ok.inj found).symm
  | cons name names ih => exact ih (walk_cons_ok_iff.mp found).2.2

theorem walk_append_ok_iff {front back : List String} :
    tree.walk place (front ++ back) = .ok goal ↔
      ∃ middle, tree.walk place front = .ok middle ∧ tree.walk middle back = .ok goal := by
  induction front generalizing place with
  | nil => simp [walk]
  | cons name front ih =>
    simp only [List.cons_append, walk_cons_ok_iff, ih]
    constructor
    · rintro ⟨directory, leads, middle, before, after⟩
      exact ⟨middle, ⟨directory, leads, before⟩, after⟩
    · rintro ⟨middle, ⟨directory, leads, before⟩, after⟩
      exact ⟨directory, leads, middle, before, after⟩

/-- A directory stands where a name comes next. -/
theorem isDirectory_of_walk {front back : List String} {name : String}
    (found : tree.walk place (front ++ name :: back) = .ok goal) :
    tree.isDirectory (resolve place front) = true := by
  obtain ⟨middle, before, after⟩ := walk_append_ok_iff.mp found
  rw [← walk_eq_resolve before]
  exact (walk_cons_ok_iff.mp after).1

theorem walk_of_empty {names : List String} (empty : ∀ name ∈ names, name = "")
    (fits : tree.isDirectory place = true ∨ names = []) : tree.walk place names = .ok place := by
  induction names with
  | nil => rfl
  | cons name names ih =>
    have directory := fits.resolve_right (List.cons_ne_nil name names)
    have same : name = "" := empty name List.mem_cons_self
    rw [walk_cons_ok_iff, same, enter_empty]
    refine ⟨directory, .inl rfl, ih (fun other later => ?_) (.inl directory)⟩
    exact empty other (List.mem_cons_of_mem name later)

/-- A directory that stands at a place is kept, and so is that something stands there. -/
def Kept (tree later : FileTree) (place : Place) : Prop :=
  (tree.isDirectory place = true → later.isDirectory place = true) ∧
    ((tree.at? place).isSome = true → (later.at? place).isSome = true)

theorem Kept.of_at? (same : later.at? place = tree.at? place) : Kept tree later place :=
  ⟨fun directory => by rw [isDirectory_congr same, directory], fun stands => by rw [same, stands]⟩

theorem Kept.trans {last : FileTree} (first : Kept tree later place)
    (second : Kept later last place) : Kept tree last place :=
  ⟨fun directory => second.1 (first.1 directory), fun stands => second.2 (first.2 stands)⟩

/-- Names lead where they led if what they pass is kept. -/
theorem walk_mono {names : List String}
    (kept : ∀ between ∈ passedFrom place names, Kept tree later between)
    (found : tree.walk place names = .ok goal) : later.walk place names = .ok goal := by
  induction names generalizing place with
  | nil => exact found
  | cons name names ih =>
    obtain ⟨directory, leads, further⟩ := walk_cons_ok_iff.mp found
    rw [passedFrom_cons] at kept
    have others := fun between inside => kept between (List.mem_cons_of_mem place inside)
    refine walk_cons_ok_iff.mpr ⟨(kept place List.mem_cons_self).1 directory, ?_, ih others further⟩
    -- a name that is no dots leads to the first place that the others pass
    by_cases dots : name = "" ∨ name = "." ∨ name = ".."
    · rcases dots with same | same | same <;> simp [Leads, same]
    · simp only [not_or] at dots
      have next : enter place name = place ++ [name] :=
        enter_of_ordinary dots.1 dots.2.1 dots.2.2
      have between : enter place name ∈ passedFrom (enter place name) names :=
        mem_passedFrom_iff.mpr ⟨[], List.nil_prefix, rfl⟩
      simp only [Leads, dots, false_or] at leads ⊢
      rw [← next] at leads ⊢
      exact ⟨leads.1, (others _ between).2 leads.2⟩

/-! ### Paths that lead somewhere -/

/-- What a path must be to be followed at all. -/
theorem checkPath_ok_iff : checkPath path = .ok () ↔
    '\x00' ∉ path.toList ∧ path ≠ "" ∧ path.utf8ByteSize < pathLimit := by
  unfold checkPath
  by_cases nul : '\x00' ∈ path.toList
  · simp [nul]
  · by_cases empty : path = ""
    · simp [empty]
    · by_cases long : pathLimit ≤ path.utf8ByteSize
      · simp [nul, empty, long, Nat.not_lt.mpr long]
      · simp [nul, empty, long, Nat.lt_of_not_le long]

theorem locate_ok_iff : tree.locate path = .ok goal ↔
    checkPath path = .ok () ∧ tree.walk (startOf tree.home path) (pathNames path) = .ok goal := by
  show (checkPath path >>= fun _ => tree.walk (startOf tree.home path) (pathNames path)) = _ ↔ _
  cases checkPath path with
  | error refusal => simp [bind, Except.bind]
  | ok _ => simp [bind, Except.bind]

/-- **A path that leads somewhere leads to its target.** -/
theorem locate_eq_target (found : tree.locate path = .ok goal) : goal = target tree.home path :=
  walk_eq_resolve (locate_ok_iff.mp found).2

/-- A path that leads somewhere passes directories before its target. -/
theorem isDirectory_of_locate (found : tree.locate path = .ok goal)
    (through : place ∈ passed tree.home path) :
    place = goal ∨ tree.isDirectory place = true := by
  obtain ⟨front, ⟨back, whole⟩, led⟩ := mem_passed_iff.mp through
  obtain ⟨_, walked⟩ := locate_ok_iff.mp found
  rw [← whole] at walked
  cases back with
  | nil =>
    left
    rw [List.append_nil] at walked
    rw [← led, walk_eq_resolve walked]
  | cons name back =>
    right
    rw [← led]
    exact isDirectory_of_walk walked

/-- **A path leads where it led if what stands at the places it passes is kept.** -/
theorem locate_mono (home : later.home = tree.home)
    (kept : ∀ between ∈ passed tree.home path, Kept tree later between)
    (found : tree.locate path = .ok goal) : later.locate path = .ok goal := by
  obtain ⟨proper, walked⟩ := locate_ok_iff.mp found
  rw [locate_ok_iff, home]
  exact ⟨proper, walk_mono kept walked⟩

/-! ### Paths that lead nowhere -/

/-- Every entry stands in a directory. -/
def IsTree (tree : FileTree) : Prop :=
  ∀ place name, (tree.at? (place ++ [name])).isSome = true → tree.isDirectory place = true

theorem isTree_of_entries
    (above : ∀ entry ∈ tree.entries, tree.isDirectory entry.1.dropLast = true) : tree.IsTree := by
  intro place name stands
  rw [at?, if_neg (by simp), List.lookup_isSome_iff] at stands
  obtain ⟨entry, member, same⟩ := stands
  have directory := above entry member
  rw [← beq_iff_eq.mp same, List.dropLast_concat] at directory
  exact directory

/-- Nothing stands below a place where nothing stands. -/
theorem IsTree.vacant (rooted : tree.IsTree) (absent : tree.at? place = none)
    (below : place <+: other) : tree.at? other = none := by
  obtain ⟨inside, rfl⟩ := below
  induction inside using List.reverseRecOn with
  | nil => rw [List.append_nil, absent]
  | append_singleton inside name ih =>
    cases stands : tree.at? (place ++ (inside ++ [name])) with
    | none => rfl
    | some entry =>
      rw [← List.append_assoc] at stands
      have directory := rooted _ _ (by rw [stands]; rfl)
      have upper := isSome_of_isDirectory directory
      rw [ih] at upper
      cases upper

/-- Names that are not found pass a place where nothing stands. -/
theorem walk_notFound {names : List String} (missing : tree.walk place names = .error .notFound) :
    ∃ between ∈ passedFrom place names, tree.at? between = none := by
  induction names generalizing place with
  | nil => cases missing
  | cons name names ih =>
    rw [passedFrom_cons]
    have further : tree.walk (enter place name) names = .error .notFound →
        ∃ between ∈ place :: passedFrom (enter place name) names, tree.at? between = none := by
      intro later
      obtain ⟨between, through, absent⟩ := ih later
      exact ⟨between, List.mem_cons_of_mem place through, absent⟩
    by_cases dots : name = "" ∨ name = "." ∨ name = ".."
    · refine further ?_
      rw [walk] at missing
      split at missing
      · cases missing
      · rcases dots with rfl | rfl | rfl <;> simpa [enter] using missing
    · simp only [not_or] at dots
      have next : enter place name = place ++ [name] :=
        enter_of_ordinary dots.1 dots.2.1 dots.2.2
      cases stands : tree.at? (place ++ [name]) with
      | none =>
        refine ⟨enter place name, List.mem_cons_of_mem place ?_, by rw [next, stands]⟩
        exact mem_passedFrom_iff.mpr ⟨[], List.nil_prefix, rfl⟩
      | some entry =>
        refine further ?_
        rw [next]
        simp only [walk, stands, dots, decide_false, Bool.or_self, Bool.false_eq_true,
          if_false] at missing
        split at missing
        · cases missing
        · split at missing
          · cases missing
          · exact missing

/-- A path that is not found passes a place where nothing stands. -/
theorem locate_notFound (missing : tree.locate path = .error .notFound)
    (proper : checkPath path = .ok ()) :
    ∃ between ∈ passed tree.home path, tree.at? between = none := by
  refine walk_notFound ?_
  have walked : tree.locate path = tree.walk (startOf tree.home path) (pathNames path) := by
    unfold locate
    rw [proper]
    rfl
  rw [← walked, missing]

/-! ### Paths that lead where something can be made -/

/-- Where a path aims: the names before the last one lead to a directory. -/
structure AimsAt (tree : FileTree) (path : String) (aim : Aim) : Prop where
  proper : checkPath path = .ok ()
  names : ∃ front ends, pathNames path = front ++ aim.name :: ends ∧ (∀ name ∈ ends, name = "") ∧
    (aim.slash = false → ends = []) ∧
    tree.walk (startOf tree.home path) front = .ok aim.directory
  directory : tree.isDirectory aim.directory = true
  ordinary : aim.name ≠ "" ∧ aim.name ≠ "." ∧ aim.name ≠ ".."
  short : aim.name.utf8ByteSize ≤ longestName

/-- Names whose last one before empty ones is known. -/
theorem split_ends {names before : List String} {last : String}
    (found : names.reverse.dropWhile (· = "") = last :: before) :
    last ≠ "" ∧ ∃ ends, names = before.reverse ++ last :: ends ∧ (∀ name ∈ ends, name = "") ∧
      (decide (names.reverse.head? = some "") = false → ends = []) := by
  have stops := List.head?_dropWhile_not (fun name => decide (name = "")) names.reverse
  have cut := List.takeWhile_append_dropWhile (p := (· = "")) (l := names.reverse)
  rw [found] at stops cut
  refine ⟨by simpa using stops, (names.reverse.takeWhile (· = "")).reverse, ?_, fun name member => ?_, fun bare => ?_⟩
  · have turned := congrArg List.reverse cut
    rw [List.reverse_reverse, List.reverse_append, List.reverse_cons] at turned
    simpa using turned.symm
  · simpa using List.mem_takeWhile_imp (List.mem_reverse.mp member)
  · cases turned : names.reverse with
    | nil => rfl
    | cons first others =>
      have other : first ≠ "" := by simpa [turned] using bare
      simp [other]

/-- A path that aims at more than dots has such a last name. -/
theorem aim_ok {aim : Aim} (found : tree.aim path = .ok aim) (proper : aim.isDots = false) :
    tree.AimsAt path aim := by
  unfold FileTree.aim at found
  cases checked : checkPath path with
  | error refusal =>
    rw [checked] at found
    cases found
  | ok _ =>
    rw [checked] at found
    simp only [bind, Except.bind] at found
    generalize namesIs : (pathNames path).reverse.dropWhile (· = "") = names at found
    cases names with
    | nil =>
      cases found
      simp [Aim.isDots] at proper
    | cons last before =>
      simp only at found
      cases walked : tree.walk (tree.start path) before.reverse with
      | error refusal =>
        rw [walked] at found
        cases found
      | ok directory =>
        simp only [walked, throw, throwThe, MonadExceptOf.throw, pure, Except.pure] at found
        cases isDirectory : tree.isDirectory directory with
        | false => simp [isDirectory] at found
        | true =>
          simp only [isDirectory, Bool.not_true, Bool.false_eq_true, if_false] at found
          split at found
          · cases found
          rename_i short
          cases found
          simp only [Aim.isDots, Bool.or_eq_false_iff, decide_eq_false_iff_not] at proper
          simp only [Bool.and_eq_true, decide_eq_true_eq, proper.1, proper.2, ne_eq,
            not_false_iff, true_and, Nat.not_lt] at short
          obtain ⟨named, ends, whole, empty, bare⟩ := split_ends namesIs
          exact ⟨checked, ⟨before.reverse, ends, whole, empty, bare, walked⟩, isDirectory,
            ⟨named, proper⟩, short⟩

namespace AimsAt

variable {aim : Aim}

/-- What a path aims at is its target. -/
theorem place_eq (aims : tree.AimsAt path aim) : aim.place = target tree.home path := by
  obtain ⟨front, ends, whole, empty, _, walked⟩ := aims.names
  have directory := walk_eq_resolve walked
  obtain ⟨named, noDot, noDots⟩ := aims.ordinary
  rw [target, whole, resolve_append, resolve_cons, ← directory,
    enter_of_ordinary named noDot noDots, resolve_of_empty empty, Aim.place]

/-- A path aims through directories at all places before its last name. -/
theorem isDirectory (aims : tree.AimsAt path aim) (noSlash : aim.slash = false)
    {front back : List String} (whole : pathNames path = front ++ back) (more : back ≠ []) :
    tree.isDirectory (resolve (startOf tree.home path) front) = true := by
  obtain ⟨before, ends, equal, _, bare, walked⟩ := aims.names
  obtain ⟨init, last, rfl⟩ := (List.eq_nil_or_concat back).resolve_left more
  rw [bare noSlash, whole, List.concat_eq_append, ← List.append_assoc] at equal
  obtain ⟨same, _⟩ := List.append_inj' equal rfl
  cases init with
  | nil =>
    rw [List.append_nil] at same
    rw [same, ← walk_eq_resolve walked]
    exact aims.directory
  | cons name init =>
    rw [← same] at walked
    exact isDirectory_of_walk walked

theorem place_ne_nil (aim : Aim) : aim.place ≠ [] := by
  simp [Aim.place]

end AimsAt

/-- What is put somewhere is kept elsewhere, and no directory is lost to another one. -/
theorem Kept.put {entry : Entry} (lower : place ≠ [])
    (fits : (∃ mode, entry = .directory mode) ∨ tree.isDirectory place = false) :
    Kept tree (tree.put place entry) other := by
  by_cases same : other = place
  · subst same
    have stands := at?_put_self tree entry lower
    refine ⟨fun directory => ?_, fun _ => by rw [stands]; rfl⟩
    obtain ⟨mode, equal⟩ | file := fits
    · exact isDirectory_iff.mpr ⟨mode, by rw [stands, equal]⟩
    · rw [directory] at file
      cases file
  · exact Kept.of_at? (at?_put_of_ne tree entry same)

/-- **What is put where a path aims is what the path leads to.** -/
theorem AimsAt.locate_put {aim : Aim} {entry : Entry} (aims : tree.AimsAt path aim)
    (fits : (∃ mode, entry = .directory mode) ∨
      (aim.slash = false ∧ tree.isDirectory aim.place = false)) :
    (tree.put aim.place entry).locate path = .ok aim.place := by
  obtain ⟨front, ends, whole, empty, bare, walked⟩ := aims.names
  have lower := AimsAt.place_ne_nil aim
  have stands := at?_put_self tree entry lower
  have kept : ∀ other, Kept tree (tree.put aim.place entry) other := fun other =>
    Kept.put lower (fits.imp_right And.right)
  obtain ⟨named, noDot, noDots⟩ := aims.ordinary
  have next : enter aim.directory aim.name = aim.place := enter_of_ordinary named noDot noDots
  rw [locate_ok_iff]
  refine ⟨aims.proper, ?_⟩
  rw [whole, walk_append_ok_iff]
  refine ⟨aim.directory, walk_mono (fun between _ => kept between) walked, ?_⟩
  rw [walk_cons_ok_iff, next]
  refine ⟨(kept aim.directory).1 aims.directory, .inr (.inr (.inr ⟨aims.short, ?_⟩)), ?_⟩
  · rw [show aim.directory ++ [aim.name] = aim.place from rfl, stands]
    rfl
  · obtain ⟨mode, equal⟩ | ⟨noSlash, _⟩ := fits
    · refine walk_of_empty empty (.inl (isDirectory_iff.mpr ⟨mode, ?_⟩))
      rw [stands, equal]
    · exact walk_of_empty empty (.inr (bare noSlash))

/-- A path that aims somewhere, without a slash at its end, is found to aim there. -/
theorem AimsAt.aim_eq {aim : Aim} (aims : tree.AimsAt path aim) (noSlash : aim.slash = false) :
    tree.aim path = .ok aim := by
  obtain ⟨front, ends, whole, _, bare, walked⟩ := aims.names
  obtain ⟨named, noDot, noDots⟩ := aims.ordinary
  have turned : (pathNames path).reverse = aim.name :: front.reverse := by
    rw [whole, bare noSlash]
    simp
  have start : tree.start path = startOf tree.home path := rfl
  have short := Nat.not_lt.mpr aims.short
  unfold FileTree.aim
  rw [aims.proper]
  simp only [bind, Except.bind, turned, List.dropWhile_cons, named, decide_false,
    Bool.false_eq_true, if_false, List.reverse_reverse, start, walked, aims.directory,
    Bool.not_true, short, Bool.and_false, List.head?_cons, Option.some.injEq]
  rw [← noSlash]
  rfl

/-- A path aims where it aimed if everything is kept. -/
theorem AimsAt.mono {aim : Aim} (aims : tree.AimsAt path aim) (home : later.home = tree.home)
    (kept : ∀ place, Kept tree later place) : later.AimsAt path aim := by
  obtain ⟨proper, ⟨front, ends, whole, empty, bare, walked⟩, directory, ordinary, short⟩ := aims
  refine ⟨proper, ⟨front, ends, whole, empty, bare, ?_⟩, (kept _).1 directory, ordinary, short⟩
  rw [home]
  exact walk_mono (fun between _ => kept between) walked

/-- A path aims through names that lead on. -/
theorem AimsAt.leads {aim : Aim} (aims : tree.AimsAt path aim) (noSlash : aim.slash = false)
    {front back : List String} {name : String} (whole : pathNames path = front ++ name :: back)
    (more : back ≠ []) : tree.Leads (resolve (startOf tree.home path) front) name := by
  obtain ⟨before, ends, equal, _, bare, walked⟩ := aims.names
  obtain ⟨init, last, rfl⟩ := (List.eq_nil_or_concat back).resolve_left more
  rw [bare noSlash, whole, List.concat_eq_append, ← List.cons_append, ← List.append_assoc] at equal
  obtain ⟨same, _⟩ := List.append_inj' equal rfl
  rw [← same] at walked
  obtain ⟨middle, reached, further⟩ := walk_append_ok_iff.mp walked
  rw [← walk_eq_resolve reached]
  exact (walk_cons_ok_iff.mp further).2.1

end HostNet.FileTree
