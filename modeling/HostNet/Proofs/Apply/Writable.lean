/-
**Which units can be written into a fresh directory.**

The directory of the units is removed and made anew before the first unit is written. A unit can then
be written only under the name of an ordinary file: without a slash and a NUL character, and of no
more octets than a name may have. The names of the units are made from the names of the devices, and
the check of a configuration lets those be any text but the empty one. So there are configurations
that pass the check and lose the old directory for an incomplete new one.

* `PlainName`: the name of an ordinary file;
* `TakesFiles`: any ordinary file can be written into a directory;
* `takesFiles_of_renewed`: a directory that was made anew is such a directory;
* `writeAll_ok` and `writeAll_stops`: units are written up to the first one with another name;
* `NetworkConfig.NamesFit`: the devices whose units all have the names of ordinary files;
* `networkFiles_ok_iff_namesFit`: for these the stage succeeds, and for no others.
-/

import HostNet.Proofs.Apply.Installed

namespace HostNet

open FileTree HostAction HostNet.Action HostNet.Text

/-! ### Ordinary files -/

/-- A text without the two characters that no name of a file holds. -/
def Spellable (text : String) : Prop := '/' ∉ text.toList ∧ '\x00' ∉ text.toList

instance (text : String) : Decidable (Spellable text) := inferInstanceAs (Decidable (_ ∧ _))

@[simp] theorem spellable_append {first second : String} :
    Spellable (first ++ second) ↔ Spellable first ∧ Spellable second := by
  simp only [Spellable, String.toList_append, List.mem_append, not_or]
  exact and_and_and_comm

/-- A name that an ordinary file may have. -/
structure PlainName (name : String) : Prop where
  ordinary : name ≠ "" ∧ name ≠ "." ∧ name ≠ ".."
  spelled : Spellable name
  short : name.utf8ByteSize ≤ longestName

namespace PlainName

variable {name : String}

theorem relative (plain : PlainName name) : isAbsolute name = false := by
  have noSlash := plain.spelled.1
  cases spelled : name.toList with
  | nil => simp [isAbsolute, spelled]
  | cons first others =>
    rw [spelled, List.mem_cons, not_or] at noSlash
    simp [isAbsolute, spelled, Ne.symm noSlash.1]

end PlainName

namespace FileTree

variable {tree after : FileTree} {directory name : String}

/-- Any ordinary file can be written into a directory. -/
def TakesFiles (tree : FileTree) (directory : String) : Prop :=
  ∀ name contents, PlainName name →
    (FileTree.write (joinPath directory name) contents tree).1 = .ok ()

namespace TakesFiles

/-- The path of an ordinary file aims straight into the directory, at no directory. -/
theorem aims (takes : tree.TakesFiles directory) (filled : directory ≠ "")
    (plain : PlainName name) : ∃ aim, tree.AimsAt (joinPath directory name) aim ∧
      aim.slash = false ∧ aim.place = target tree.home directory ++ [name] ∧
        tree.isDirectory aim.place = false := by
  have taken := takes name .empty plain
  rcases run : FileTree.write (joinPath directory name) .empty tree with ⟨result, after⟩
  obtain ⟨_, refused, _⟩ | ⟨_, aim, _, aims, noSlash, file, _⟩ := write_cases run
  · rw [run, refused] at taken
    cases taken
  · refine ⟨aim, aims, noSlash, ?_, file⟩
    obtain ⟨named, noDot, noDots⟩ := plain.ordinary
    rw [aims.place_eq, target_joinPath filled plain.relative, pathNames_of_noSlash plain.spelled.1,
      resolve_cons, resolve_nil, enter_of_ordinary named noDot noDots]

/-- A directory takes further files after a file was put into it. -/
theorem put {mode : Nat} {contents : ByteArray} (takes : tree.TakesFiles directory)
    (filled : directory ≠ "") (plain : PlainName name) :
    (tree.put (target tree.home directory ++ [name]) (.file mode contents)).TakesFiles directory := by
  obtain ⟨_, _, _, there, file⟩ := takes.aims filled plain
  rw [there] at file
  have lower : target tree.home directory ++ [name] ≠ [] := by simp
  intro other text plainOther
  obtain ⟨aim, aims, noSlash, _, fileOther⟩ := takes.aims filled plainOther
  generalize laterIs : tree.put (target tree.home directory ++ [name]) (.file mode contents) = later
  have kept : ∀ place, Kept tree later place := fun place => by
    rw [← laterIs]
    exact Kept.put lower (.inr file)
  have further : later.AimsAt (joinPath directory other) aim := by
    refine aims.mono ?_ kept
    rw [← laterIs]
    exact home_put tree _ _
  have noDirectory : later.isDirectory aim.place = false := by
    rw [← laterIs]
    by_cases same : aim.place = target tree.home directory ++ [name]
    · rw [same]
      exact isDirectory_of_file (at?_put_self tree _ lower)
    · rw [isDirectory_congr (at?_put_of_ne tree _ same)]
      exact fileOther
  obtain ⟨_, wrote⟩ := write_ok text further noSlash noDirectory
  rw [wrote]

/-- A path to a file below a directory that takes files does not lead through the directory's
ordinary files. -/
theorem not_through {aim : Aim} {first : String} {rest : List String}
    (takes : tree.TakesFiles directory) (filled : directory ≠ "") (relative : isAbsolute name = false)
    (aims : tree.AimsAt (joinPath directory name) aim) (bare : aim.slash = false)
    (names : pathNames name = first :: rest) (more : rest ≠ []) : ¬ PlainName first := by
  intro plain
  obtain ⟨front, whole, led⟩ := joinPath_names tree.home filled relative
  obtain ⟨_, _, _, there, file⟩ := takes.aims filled plain
  obtain ⟨named, noDot, noDots⟩ := plain.ordinary
  rw [names, List.append_cons] at whole
  have through := aims.isDirectory bare whole more
  rw [startOf_joinPath filled relative, resolve_append, led, resolve_cons, resolve_nil,
    enter_of_ordinary named noDot noDots, ← there, file] at through
  cases through

/-- **What is written into a directory that takes files is an ordinary file.** A name with a slash
would lead through another file, or through one that is not there. -/
theorem plain_of_write {contents : ByteArray} (takes : tree.TakesFiles directory)
    (filled : directory ≠ "") (down : LeadsDown name)
    (run : FileTree.write (joinPath directory name) contents tree = (.ok (), after)) :
    PlainName name := by
  obtain ⟨_, refused, _⟩ | ⟨_, aim, _, aims, bare, _, _⟩ := write_cases run
  · cases refused
  obtain ⟨relative, first, rest, names, ordinary⟩ := down
  obtain ⟨front, whole, _⟩ := joinPath_names tree.home filled relative
  have noNul : '\x00' ∉ name.toList := by
    obtain ⟨slash, _, joined⟩ := joinPath_eq filled relative
    have absent := (checkPath_ok_iff.mp aims.proper).1
    rw [joined, String.toList_append] at absent
    exact fun inside => absent (List.mem_append_right _ inside)
  have noSlash : '/' ∉ name.toList := by
    intro slash
    obtain ⟨head, tail, spelled, free⟩ := List.eq_append_cons_of_mem slash
    have cut : pathNames name = String.ofList head :: pathNames (String.ofList tail) := by
      simp only [pathNames, spelled, split_append_separator, split_of_free free, List.map_cons,
        String.toList_ofList, List.singleton_append]
    rw [names] at cut
    injection cut with same later
    have more : rest ≠ [] := by
      rw [later]
      simp [pathNames, split_ne_nil]
    have leads := aims.leads bare (whole.trans (by rw [names])) more
    refine takes.not_through filled relative aims bare names more ⟨ordinary, ⟨?_, ?_⟩, ?_⟩
    · rw [same, String.toList_ofList]
      exact free
    · rw [same, String.toList_ofList]
      rw [spelled] at noNul
      exact fun inside => noNul (List.mem_append_left _ inside)
    · obtain ⟨named, noDot, noDots⟩ := ordinary
      simp only [Leads, named, noDot, noDots, false_or] at leads
      exact leads.1
  have single := pathNames_of_noSlash noSlash
  have last : aim.name = name := by
    obtain ⟨before, ends, equal, _, none, _⟩ := aims.names
    rw [none bare, whole, single] at equal
    injection (List.append_inj' equal rfl).2 with same
    exact same.symm
  rw [single] at names
  injection names with same _
  exact ⟨same ▸ ordinary, ⟨noSlash, noNul⟩, last ▸ aims.short⟩

/-- A directory of files takes further files if its path leaves room for their names. -/
theorem of_flat (flat : tree.Flat directory)
    (room : directory.utf8ByteSize + 1 + longestName < pathLimit) : tree.TakesFiles directory := by
  intro name contents plain
  obtain ⟨named, noDot, noDots⟩ := plain.ordinary
  have filled := ne_empty_of_locate flat.located
  obtain ⟨proper, walked⟩ := locate_ok_iff.mp flat.located
  obtain ⟨names, ends, together, whole, empty⟩ := joinPath_pieces filled plain.relative
  rw [whole, walk_append_ok_iff] at walked
  obtain ⟨middle, reached, rest⟩ := walked
  have same : middle = target tree.home directory := by
    rw [walk_eq_resolve rest, resolve_of_empty empty]
  rw [same, ← startOf_joinPath filled plain.relative] at reached
  have properFile : checkPath (joinPath directory name) = .ok () := by
    obtain ⟨noNul, _, _⟩ := checkPath_ok_iff.mp proper
    obtain ⟨slash, known, joined⟩ := joinPath_eq filled plain.relative
    have few := plain.short
    have slashFree : '\x00' ∉ slash.toList ∧ slash.utf8ByteSize ≤ 1 := by
      rcases known with rfl | rfl <;> decide
    rw [checkPath_ok_iff, joined]
    refine ⟨?_, fun nothing => ?_, ?_⟩
    · simp only [String.toList_append, List.mem_append, not_or]
      exact ⟨⟨noNul, slashFree.1⟩, plain.spelled.2⟩
    · exact named (String.append_eq_empty_iff.mp nothing).2
    · simp only [String.utf8ByteSize_append]
      omega
  have aims : tree.AimsAt (joinPath directory name) ⟨target tree.home directory, name, false⟩ := by
    refine ⟨properFile, ⟨names, [], ?_, nofun, fun _ => rfl, reached⟩, ?_, plain.ordinary, plain.short⟩
    · rw [together, pathNames_of_noSlash plain.spelled.1]
    · exact isDirectory_iff.mpr ⟨_, flat.stands⟩
  obtain ⟨_, wrote⟩ := write_ok contents aims rfl (flat.files [name] (List.cons_ne_nil _ _))
  rw [wrote]

end TakesFiles

end FileTree

/-! ### Writing the units -/

namespace HostAction

variable {σ : Type} {before middle after : Host σ} {directory : String} {files : List UnitFile}

theorem onPath_of_eq {path : String} {operation : FileAction Unit} {outcome : Except Refusal Unit}
    {tree : FileTree} (before : Host σ) (ran : operation before.files = (outcome, tree)) :
    onPath path operation before = (outcome.mapError fun refusal =>
      .failed (.fileFailed path refusal), { before with files := tree }) := by
  show ((operation before.files).1.mapError _, { before with files := (operation before.files).2 }) = _
  rw [ran]

/-- A directory that was made anew has a path. -/
theorem filled_of_renewed (anew : renewDirectory directory before = (.ok (), middle)) :
    directory ≠ "" := by
  obtain ⟨_, _, _, rest⟩ := bind_ok_iff.mp anew
  obtain ⟨_, _, _, shared⟩ := bind_ok_iff.mp rest
  obtain ⟨_, refused, _⟩ | ⟨_, _, _, found, _⟩ := setMode_cases (onPath_ok shared)
  · cases refused
  · exact ne_empty_of_locate found

/-- **A directory that was made anew takes files** if its path has no double dots and leaves room for
their names, in a tree without loose ends. -/
theorem takesFiles_of_renewed (lower : target before.files.home directory ≠ [])
    (rooted : before.files.IsTree) (plain : ".." ∉ pathNames directory)
    (room : directory.utf8ByteSize + 1 + longestName < pathLimit)
    (anew : renewDirectory directory before = (.ok (), middle)) :
    middle.files.TakesFiles directory := by
  have renewed := renewDirectory_renewed lower anew
  exact .of_flat (flat_of_renewable renewed (renewable_of_plain rooted plain)) room

/-- A unit with the name of an ordinary file is written, and the directory takes further files. -/
theorem writeUnit_ok {file : UnitFile} (takes : before.files.TakesFiles directory)
    (filled : directory ≠ "") (plain : PlainName file.name) :
    ∃ after, writeUnit directory file before = (.ok (), after) ∧
      after.files.TakesFiles directory := by
  obtain ⟨aim, aims, noSlash, there, isFile⟩ := takes.aims filled plain
  obtain ⟨mode, wrote⟩ := write_ok file.contents.toUTF8 aims noSlash isFile
  have found : (before.files.put aim.place (.file mode file.contents.toUTF8)).locate
      (joinPath directory file.name) = .ok aim.place := aims.locate_put (.inr ⟨noSlash, isFile⟩)
  have stands := at?_put_self before.files (.file mode file.contents.toUTF8)
    (AimsAt.place_ne_nil aim)
  have shared := setMode_ok sharedFileMode found stands
  refine ⟨_, (bind_of_ok (onPath_of_eq before wrote) _).trans
    (onPath_of_eq { before with files := _ } shared), ?_⟩
  rw [there]
  exact (takes.put filled plain).put filled plain

/-- A unit with another name is refused, and the directory is left as it is. -/
theorem writeUnit_error {file : UnitFile} (takes : before.files.TakesFiles directory)
    (filled : directory ≠ "") (down : LeadsDown file.name) (other : ¬ PlainName file.name) :
    ∃ refusal, writeUnit directory file before =
      (.error (.failed (.fileFailed (joinPath directory file.name) refusal)), before) := by
  rcases run : FileTree.write (joinPath directory file.name) file.contents.toUTF8 before.files
    with ⟨result, tree⟩
  obtain ⟨refusal, rfl, rfl⟩ | ⟨rfl, _⟩ := write_cases run
  · exact ⟨refusal, bind_of_error (onPath_of_eq before run) _⟩
  · exact absurd (takes.plain_of_write filled down run) other

/-- Units with the names of ordinary files are all written. -/
theorem writeAll_ok (takes : before.files.TakesFiles directory) (filled : directory ≠ "")
    (plain : ∀ file ∈ files, PlainName file.name) :
    ∃ after, files.forM (writeUnit directory) before = (.ok (), after) ∧
      after.files.TakesFiles directory := by
  induction files generalizing before with
  | nil => exact ⟨before, rfl, takes⟩
  | cons file files ih =>
    rw [List.forall_mem_cons] at plain
    obtain ⟨middle, first, further⟩ := writeUnit_ok takes filled plain.1
    obtain ⟨after, others, last⟩ := ih further plain.2
    exact ⟨after, forM_cons_ok_iff.mpr ⟨middle, first, others⟩, last⟩

/-- Writing units stops at a file: those before it have the names of ordinary files and are written,
and that one has not. -/
structure StopsAt (directory : String) (files : List UnitFile) (before : Host σ) (file : UnitFile)
    (after : Host σ) : Prop where
  reached : ∃ front back, files = front ++ file :: back ∧
    (∀ written ∈ front, PlainName written.name) ∧
      front.forM (writeUnit directory) before = (.ok (), after)
  other : ¬ PlainName file.name

/-- **Units are written up to the first one without the name of an ordinary file.** -/
theorem writeAll_stops (takes : before.files.TakesFiles directory) (filled : directory ≠ "")
    (down : ∀ file ∈ files, LeadsDown file.name) (other : ¬ ∀ file ∈ files, PlainName file.name) :
    ∃ file refusal after, StopsAt directory files before file after ∧
      files.forM (writeUnit directory) before =
        (.error (.failed (.fileFailed (joinPath directory file.name) refusal)), after) := by
  induction files generalizing before with
  | nil => exact absurd nofun other
  | cons file files ih =>
    rw [List.forall_mem_cons] at down
    by_cases plain : PlainName file.name
    · obtain ⟨middle, first, further⟩ := writeUnit_ok takes filled plain
      have later : ¬ ∀ file ∈ files, PlainName file.name := fun each =>
        other (List.forall_mem_cons.mpr ⟨plain, each⟩)
      obtain ⟨odd, refusal, after, ⟨⟨front, back, whole, written, done⟩, misfit⟩, stopped⟩ :=
        ih further down.2 later
      refine ⟨odd, refusal, after, ⟨⟨file :: front, back, by rw [whole]; rfl, ?_, ?_⟩, misfit⟩, ?_⟩
      · exact List.forall_mem_cons.mpr ⟨plain, written⟩
      · exact forM_cons_ok_iff.mpr ⟨middle, first, done⟩
      · exact (bind_of_ok first _).trans stopped
    · obtain ⟨refusal, refused⟩ := writeUnit_error takes filled down.1 plain
      exact ⟨file, refusal, before, ⟨⟨[], files, rfl, nofun, rfl⟩, plain⟩, bind_of_error refused _⟩

end HostAction

/-! ### The names of the units -/

theorem plainName_unitName_iff {rank kind : String} (stem : String) (spelled : Spellable rank)
    (two : rank.utf8ByteSize = 2) (spelledKind : Spellable kind) :
    PlainName (unitName rank stem kind) ↔
      Spellable stem ∧ stem.utf8ByteSize + kind.utf8ByteSize ≤ 252 := by
  have size : (unitName rank stem kind).utf8ByteSize =
      3 + stem.utf8ByteSize + kind.utf8ByteSize := by
    have dash : "-".utf8ByteSize = 1 := by decide
    simp only [unitName, String.utf8ByteSize_append, two, dash]
  have letters : Spellable (unitName rank stem kind) ↔ Spellable stem := by
    have dash : Spellable "-" := by decide
    simp [unitName, spelled, spelledKind, dash]
  constructor
  · rintro ⟨_, spellable, short⟩
    rw [size, longestName] at short
    exact ⟨letters.mp spellable, by omega⟩
  · rintro ⟨spellable, short⟩
    refine ⟨?_, letters.mpr spellable, by rw [size, longestName]; omega⟩
    -- the rank and the dash alone are longer
    have other : ∀ text : String, text.utf8ByteSize ≤ 2 → unitName rank stem kind ≠ text := by
      rintro text few rfl
      omega
    exact ⟨other "" (by decide), other "." (by decide), other ".." (by decide)⟩

theorem numeral_spellable (number : Nat) : Spellable (toString number) := by
  refine ⟨fun slash => ?_, fun nul => ?_⟩
  · exact absurd (isDigit_of_mem_toString slash) (by decide)
  · exact absurd (isDigit_of_mem_toString nul) (by decide)

theorem deviceName_spellable {hwaddr : String} (formed : Hwaddr.Formed hwaddr) :
    Spellable (Hwaddr.deviceName hwaddr) := by
  refine ⟨fun slash => ?_, fun nul => ?_⟩
  · exact absurd (formed.mem_deviceName slash) (by decide)
  · exact absurd (formed.mem_deviceName nul) (by decide)

namespace NetworkConfig

variable {config : NetworkConfig}

/-- **The devices whose units all have the names of ordinary files.** The names of the devices are
without slashes and NUL characters, and leave room for what the names of the units add to them. -/
structure NamesFit (config : NetworkConfig) : Prop where
  spelled : ∀ name ∈ config.deviceNames, Spellable name
  interfaces : ∀ interface ∈ config.interfaces, interface.name.utf8ByteSize ≤ 242
  bonds : ∀ bond ∈ config.bonds, ∀ index < bond.members.length,
    bond.name.utf8ByteSize + (toString index).utf8ByteSize ≤ 238
  vlans : ∀ vlan ∈ config.vlans, vlan.name.utf8ByteSize ≤ 244

theorem units_plain_iff : (∀ file ∈ config.units, PlainName file.name) ↔
    ∀ group ∈ config.unitGroups, ∀ stem ∈ group.stems,
      PlainName (unitName group.rank stem group.kind) := by
  have named : (∀ file ∈ config.units, PlainName file.name) ↔
      ∀ name ∈ config.units.map (·.name), PlainName name := by simp
  rw [named, units_names, List.forall_mem_flatMap]
  exact forall₂_congr fun group _ => List.forall_mem_map

/-- The units of a configuration that passes the check have the names of ordinary files exactly if
the names of the devices fit. -/
theorem WellFormed.units_plain_iff (rules : config.WellFormed) :
    (∀ file ∈ config.units, PlainName file.name) ↔ config.NamesFit := by
  have link : ".link".utf8ByteSize = 5 := by decide
  have netDev : ".netdev".utf8ByteSize = 7 := by decide
  have network : ".network".utf8ByteSize = 8 := by decide
  have bridge : Spellable "br" ∧ "br".utf8ByteSize = 2 := by decide
  have peer : Spellable "vt" ∧ "vt".utf8ByteSize = 2 := by decide
  have device : Spellable "bn" ∧ "bn".utf8ByteSize = 2 := by decide
  have member : Spellable "-dev" ∧ "-dev".utf8ByteSize = 4 := by decide
  rw [NetworkConfig.units_plain_iff]
  simp (disch := decide) only [unitGroups, List.forall_mem_cons, List.not_mem_nil, false_implies,
    implies_true, and_true, plainName_unitName_iff, List.forall_mem_map, List.forall_mem_flatMap,
    interfaceNetDevStems, bondNetDevStems, interfaceNetworkStems, bondNetworkStems, memberStem,
    List.forall_mem_append, List.mem_range, spellable_append, String.utf8ByteSize_append, link, netDev,
    network, bridge, peer, device, member, true_and, numeral_spellable]
  constructor
  · rintro ⟨_, _, _, _, _, interfaces, bonds, vlans⟩
    refine ⟨?_, fun interface inside => ?_, fun bond inside index within => ?_,
      fun vlan inside => ?_⟩
    · simp only [deviceNames, List.forall_mem_append, List.forall_mem_map]
      exact ⟨⟨fun interface inside => (interfaces interface inside).1.1,
        fun bond inside => (bonds bond inside).1.1.1⟩, fun vlan inside => (vlans vlan inside).1⟩
    · have short := (interfaces interface inside).2.1.2
      omega
    · have short := ((bonds bond inside).2 index within).2
      omega
    · have short := (vlans vlan inside).2
      omega
  · rintro ⟨spelled, interfaces, bonds, vlans⟩
    simp only [deviceNames, List.forall_mem_append, List.forall_mem_map] at spelled
    obtain ⟨⟨spelledInterfaces, spelledBonds⟩, spelledVlans⟩ := spelled
    have cards : ∀ interface ∈ config.interfaces,
        Spellable interface.physicalName ∧ interface.physicalName.utf8ByteSize ≤ 50 :=
      fun interface inside => ⟨deviceName_spellable (rules.hwaddrs_formed interface inside),
        (rules.hwaddrs_formed interface inside).utf8ByteSize_deviceName_le⟩
    -- a bond has a first member, whose unit has a longer name than the units of the bond
    have short : ∀ bond ∈ config.bonds, bond.name.utf8ByteSize ≤ 238 := fun bond inside =>
      (Nat.le_add_right _ _).trans (bonds bond inside 0
        (List.length_pos_iff.mpr (rules.bonds_filled bond inside)))
    refine ⟨fun interface inside => ?_, fun card inside => ?_, fun interface inside => ?_,
      fun bond inside => ?_, fun vlan inside => ?_, fun interface inside => ?_,
      fun bond inside => ?_, fun vlan inside => ?_⟩
    · obtain ⟨free, few⟩ := cards interface inside
      exact ⟨free, by omega⟩
    · have formed := rules.members_formed card inside
      have few := formed.utf8ByteSize_deviceName_le
      exact ⟨deviceName_spellable formed, by omega⟩
    · have free := spelledInterfaces interface inside
      have few := interfaces interface inside
      exact ⟨⟨free, by omega⟩, free, by omega⟩
    · have free := spelledBonds bond inside
      have few := short bond inside
      exact ⟨⟨free, by omega⟩, ⟨free, by omega⟩, free, by omega⟩
    · have few := vlans vlan inside
      exact ⟨spelledVlans vlan inside, by omega⟩
    · have free := spelledInterfaces interface inside
      have few := interfaces interface inside
      obtain ⟨freeCard, fewCard⟩ := cards interface inside
      exact ⟨⟨free, by omega⟩, ⟨free, by omega⟩, ⟨freeCard, by omega⟩, free, by omega⟩
    · have free := spelledBonds bond inside
      have few := short bond inside
      refine ⟨⟨⟨free, by omega⟩, ⟨free, by omega⟩, ⟨free, by omega⟩, free, by omega⟩, ?_⟩
      intro index within
      have together := bonds bond inside index within
      exact ⟨free, by omega⟩
    · have few := vlans vlan inside
      exact ⟨spelledVlans vlan inside, by omega⟩

end NetworkConfig

/-! ### The stage -/

namespace Applier

variable {σ : Type} {applier : Applier σ} {config : NetworkConfig} {before middle : Host σ}

/-- **The units of a configuration that passes the check are all written exactly if the names of the
devices fit.** Otherwise the stage fails after the directory was made anew: the units before the
first one that cannot be written are there, and those that the directory held before are gone. -/
theorem networkFiles_ok_iff_namesFit (timeout : Duration) (started : Nat)
    (passed : config.validate = .ok ())
    (anew : renewDirectory applier.settings.paths.networkDirectory before = (.ok (), middle))
    (takes : middle.files.TakesFiles applier.settings.paths.networkDirectory) :
    ((∃ after, applier.carryOut config timeout started .networkFiles before = (.ok (), after)) ↔
        config.NamesFit) ∧
      (¬ config.NamesFit → ∃ file refusal after,
        StopsAt applier.settings.paths.networkDirectory config.units middle file after ∧
        applier.carryOut config timeout started .networkFiles before =
          (.error (.failed (.hostFailed .networkFiles (.fileFailed
            (joinPath applier.settings.paths.networkDirectory file.name) refusal))), after)) := by
  have filled := filled_of_renewed anew
  have plainIff := (NetworkConfig.WellFormed.of_validate passed).units_plain_iff
  have down : ∀ file ∈ config.units, LeadsDown file.name := fun _ =>
    NetworkConfig.leadsDown_of_mem
  have written : ∀ {result after}, config.units.forM (writeUnit _) middle = (result, after) →
      writeUnits applier.settings.paths.networkDirectory config.units before = (result, after) :=
    fun wrote => (bind_of_ok anew _).trans wrote
  have stops : ¬ config.NamesFit → ∃ file refusal after,
      StopsAt applier.settings.paths.networkDirectory config.units middle file after ∧
      applier.carryOut config timeout started .networkFiles before =
        (.error (.failed (.hostFailed .networkFiles (.fileFailed
          (joinPath applier.settings.paths.networkDirectory file.name) refusal))), after) := by
    intro misfit
    rw [← plainIff] at misfit
    obtain ⟨file, refusal, after, stopsAt, stopped⟩ := writeAll_stops takes filled down misfit
    refine ⟨file, refusal, after, stopsAt, ?_⟩
    simp only [carryOut, mapFailure, written stopped, mapError_error]
  refine ⟨⟨?_, fun fits => ?_⟩, stops⟩
  · rintro ⟨after, done⟩
    by_contra misfit
    obtain ⟨file, refusal, late, _, stopped⟩ := stops misfit
    rw [stopped] at done
    cases done
  · obtain ⟨after, wrote, _⟩ := writeAll_ok takes filled (plainIff.mpr fits)
    refine ⟨after, ?_⟩
    simp only [carryOut, mapFailure, written wrote, mapError_ok]

/-- The usual directory of units can be made anew and takes files then. -/
theorem cluttered_renewed : ∃ middle,
    renewDirectory (calm {}).settings.paths.networkDirectory cluttered = (.ok (), middle) ∧
      middle.files.TakesFiles (calm {}).settings.paths.networkDirectory := by
  have anew : (renewDirectory (calm {}).settings.paths.networkDirectory cluttered).1 = .ok () := by
    decide +kernel
  have run := Prod.fst_eq_iff.mp anew
  exact ⟨_, run, takesFiles_of_renewed (by decide +kernel)
    (FileTree.isTree_of_entries (by decide +kernel)) (by decide +kernel) (by decide +kernel) run⟩

theorem single_written :
    single.validate = .ok () ∧ single.NamesFit ∧
      ∃ after, (calm {}).carryOut single (.ofSecs 30) 0 .networkFiles cluttered = (.ok (), after) := by
  have passed : single.validate = .ok () := by decide +kernel
  have fits : single.NamesFit := by
    refine ⟨?_, ?_, ?_, ?_⟩ <;> decide +kernel
  obtain ⟨middle, anew, takes⟩ := cluttered_renewed
  exact ⟨passed, fits, (networkFiles_ok_iff_namesFit (.ofSecs 30) 0 passed anew takes).1.mpr fits⟩

/-- An interface with a slash in its name. -/
def slashed : NetworkConfig where
  interfaces := [{ name := "a/b", hwaddr := "aa:00:00:00:00:01" }]

/-- A configuration that passes the check may lose the old units and not get its own. -/
theorem slashed_not_written :
    slashed.validate = .ok () ∧
      (∃ middle, renewDirectory (calm {}).settings.paths.networkDirectory cluttered = (.ok (), middle) ∧
        middle.files.TakesFiles (calm {}).settings.paths.networkDirectory) ∧
      ((calm {}).carryOut slashed (.ofSecs 30) 0 .networkFiles cluttered).1 =
        .error (.failed (.hostFailed .networkFiles
          (.fileFailed "/run/systemd/network/10-bra/b.netdev" .notFound))) ∧
      (((calm {}).carryOut slashed (.ofSecs 30) 0 .networkFiles cluttered).2.files.at?
        ["run", "systemd", "network", "stale.network"]).isSome = false :=
  ⟨by decide +kernel, cluttered_renewed, by decide +kernel, by decide +kernel⟩

end Applier

end HostNet
