/-
**Units read back.**

A unit is read line by line: a line is blank, the header of a section, or a setting, whose key ends
at the first equals sign. The settings after a header make up its section. A line feed ends each
line, whatever was meant by it when the unit was written; so a value with a line feed in it does not
come back, and its second line may be a setting that nobody asked for.

* `UnitLine.read?`: the line with a text;
* `UnitSection`: a header with the settings after it;
* `readUnit?`: the sections of a text;
* `readAll?_render`: lines are read back if each is legible and none holds a line feed;
* `readUnit?_render_iff`: the sections of lines are read back exactly if no value holds one.
-/

import HostNet.Proofs.Text.Pieces
import HostNet.Unit.Line

namespace HostNet

open HostNet.Text

/-- A text without a line feed. -/
def OneLine (text : String) : Prop := '\n' ∉ text.toList

instance (text : String) : Decidable (OneLine text) := inferInstanceAs (Decidable (_ ∉ _))

@[simp] theorem oneLine_append {first second : String} :
    OneLine (first ++ second) ↔ OneLine first ∧ OneLine second := by
  simp [OneLine]

/-! ### Lines -/

namespace UnitLine

/-- The line with a text. -/
def read? : List Char → Option UnitLine
  | [] => some .blank
  | '[' :: rest =>
    if rest.getLast? = some ']' then some (.header (String.ofList rest.dropLast)) else none
  | characters =>
    (splitOnce? '=' characters).map fun (key, value) =>
      .setting (String.ofList key) (String.ofList value)

/-- The lines of pieces, the last of which is what follows the end of the last line. -/
def readPieces? : List (List Char) → Option (List UnitLine)
  | [] => none
  | [rest] => if rest = [] then some [] else none
  | piece :: pieces => do
    let line ← read? piece
    let lines ← readPieces? pieces
    some (line :: lines)

/-- The lines of a text in which a line feed ends each line. -/
def readAll? (text : String) : Option (List UnitLine) :=
  readPieces? (split '\n' text.toList)

/-- A key that the first equals sign of a line ends, in a line that is no header. -/
def LegibleKey (key : String) : Prop :=
  '=' ∉ key.toList ∧ key.toList.head? ≠ some '[' ∧ OneLine key

instance (key : String) : Decidable (LegibleKey key) := inferInstanceAs (Decidable (_ ∧ _ ∧ _))

/-- A line that its text tells from other lines, as long as the text is one line. -/
def Legible : UnitLine → Prop
  | .setting key _ => LegibleKey key
  | .header title => OneLine title
  | .blank => True

/-- The value of a setting is one line. -/
def Unbroken : UnitLine → Prop
  | .setting _ value => OneLine value
  | .header _ | .blank => True

theorem read?_text {line : UnitLine} (legible : line.Legible) : read? line.text.toList = some line := by
  cases line with
  | blank => rfl
  | header title =>
    have spelled : (text (.header title)).toList = '[' :: (title.toList ++ [']']) := by simp [text]
    rw [spelled, read?]
    simp
  | setting key value =>
    obtain ⟨noSign, noBracket, _⟩ := legible
    have spelled : (text (.setting key value)).toList = key.toList ++ '=' :: value.toList := by
      simp [text]
    have cut := splitOnce?_append noSign value.toList
    rw [← spelled] at cut
    have plain : read? (text (.setting key value)).toList =
        (splitOnce? '=' (text (.setting key value)).toList).map fun (key, value) =>
          .setting (String.ofList key) (String.ofList value) := by
      rw [read?.eq_def]
      split
      · rename_i empty
        simp [spelled] at empty
      · rename_i rest starts
        -- a setting starts with its key, or with the equals sign if the key is empty
        rw [spelled] at starts
        cases letters : key.toList with
        | nil => simp [letters] at starts
        | cons first others =>
          rw [letters, List.cons_append, List.cons.injEq] at starts
          rw [letters, starts.1] at noBracket
          exact absurd rfl noBracket
      · rfl
    rw [plain, cut]
    simp

/-- The text of a legible line is one line exactly if its value is. -/
theorem oneLine_text_iff {line : UnitLine} (legible : line.Legible) :
    OneLine line.text ↔ line.Unbroken := by
  cases line with
  | blank => simp [text, Unbroken, OneLine]
  | header title =>
    have brackets : OneLine "[" ∧ OneLine "]" := by decide
    have whole : OneLine title := legible
    simp [text, Unbroken, brackets, whole]
  | setting key value =>
    have sign : OneLine "=" := by decide
    simp [text, Unbroken, sign, legible.2.2]

/-- **Lines are read back if each is legible and its value is one line.** -/
theorem readAll?_render {lines : List UnitLine} (legible : ∀ line ∈ lines, line.Legible)
    (unbroken : ∀ line ∈ lines, line.Unbroken) : readAll? (render lines) = some lines := by
  unfold readAll?
  induction lines with
  | nil => rfl
  | cons line lines ih =>
    rw [List.forall_mem_cons] at legible unbroken
    have whole : '\n' ∉ line.text.toList := (oneLine_text_iff legible.1).mpr unbroken.1
    have spelled : (render (line :: lines)).toList = line.text.toList ++ '\n' :: (render lines).toList := by
      simp [render]
    have later := ih legible.2 unbroken.2
    obtain ⟨first, others, cut⟩ :=
      List.exists_cons_of_ne_nil (split_ne_nil '\n' (render lines).toList)
    rw [cut] at later
    rw [spelled, split_append_separator, split_of_free whole, cut, List.singleton_append,
      readPieces?, read?_text legible.1, later]
    · rfl
    · exact List.cons_ne_nil first others

theorem unbroken_of_read? {piece : List Char} {line : UnitLine} (whole : '\n' ∉ piece)
    (found : read? piece = some line) : line.Unbroken := by
  unfold read? at found
  split at found
  · cases found
    trivial
  · split at found
    · cases found
      trivial
    · cases found
  · obtain ⟨⟨key, value⟩, cut, rfl⟩ := Option.map_eq_some_iff.mp found
    rw [(splitOnce?_eq_some cut).1, List.mem_append, List.mem_cons, not_or, not_or] at whole
    show '\n' ∉ (String.ofList value).toList
    rw [String.toList_ofList]
    exact whole.2.2

/-- The value of a setting that is read is one line. -/
theorem unbroken_of_readAll? {text : String} {lines : List UnitLine}
    (found : readAll? text = some lines) : ∀ line ∈ lines, line.Unbroken := by
  have free : ∀ piece ∈ split '\n' text.toList, '\n' ∉ piece := fun _ => free_of_mem_split
  unfold readAll? at found
  generalize split '\n' text.toList = pieces at free found
  induction pieces using readPieces?.induct generalizing lines with
  | case1 => cases found
  | case2 =>
    cases found
    nofun
  | case3 rest some =>
    rw [readPieces?, if_neg some] at found
    cases found
  | case4 piece pieces more ih =>
    rw [List.forall_mem_cons] at free
    rw [readPieces?] at found
    · obtain ⟨line, first, found⟩ := Option.bind_eq_some_iff.mp found
      obtain ⟨others, later, found⟩ := Option.bind_eq_some_iff.mp found
      cases found
      exact List.forall_mem_cons.mpr ⟨unbroken_of_read? free.1 first, ih free.2 later⟩
    · exact more

end UnitLine

/-! ### Sections -/

/-- A section of a unit. -/
structure UnitSection where
  title : String
  settings : List (String × String)
  deriving Repr, DecidableEq, Inhabited

/-- The line of a setting. -/
def settingLine (setting : String × String) : UnitLine := .setting setting.1 setting.2

namespace UnitSection

/-- Something holds of the header and of each setting of a section. -/
def Each (holds : UnitLine → Prop) (part : UnitSection) : Prop :=
  holds (.header part.title) ∧ ∀ setting ∈ part.settings, holds (settingLine setting)

/-- The values of a section are one line each. -/
def Unbroken (part : UnitSection) : Prop := ∀ setting ∈ part.settings, OneLine setting.2

/-- The settings in front of the first header of some lines, and the sections. -/
def gather : List UnitLine → List (String × String) × List UnitSection
  | [] => ([], [])
  | .blank :: lines => gather lines
  | .header title :: lines => ([], ⟨title, (gather lines).1⟩ :: (gather lines).2)
  | .setting key value :: lines => ((key, value) :: (gather lines).1, (gather lines).2)

/-- The sections of some lines; no setting may stand in front of the first header. -/
def ofLines? (lines : List UnitLine) : Option (List UnitSection) :=
  if (gather lines).1 = [] then some (gather lines).2 else none

theorem forall_gather_iff {holds : UnitLine → Prop} (blank : holds .blank) {lines : List UnitLine} :
    (∀ line ∈ lines, holds line) ↔ (∀ setting ∈ (gather lines).1, holds (settingLine setting)) ∧
      ∀ part ∈ (gather lines).2, part.Each holds := by
  induction lines with
  | nil => simp [gather]
  | cons line lines ih =>
    rw [List.forall_mem_cons, ih]
    cases line with
    | blank => simp [gather, blank]
    | header title => simp [gather, Each, and_assoc]
    | setting key value => simp [gather, settingLine, and_assoc]

/-- Something holds of lines exactly if it holds of their sections. -/
theorem forall_iff_of_ofLines? {holds : UnitLine → Prop} (blank : holds .blank)
    {lines : List UnitLine} {parts : List UnitSection} (found : ofLines? lines = some parts) :
    (∀ line ∈ lines, holds line) ↔ ∀ part ∈ parts, part.Each holds := by
  unfold ofLines? at found
  split at found
  · rename_i none
    cases found
    simp [forall_gather_iff blank, none]
  · cases found

theorem each_unbroken_iff {part : UnitSection} : part.Each UnitLine.Unbroken ↔ part.Unbroken :=
  iff_of_eq (true_and _)

end UnitSection

/-- The sections of the text of a unit. -/
def readUnit? (text : String) : Option (List UnitSection) :=
  (UnitLine.readAll? text).bind UnitSection.ofLines?

/-- **The sections of legible lines are read back exactly if no value holds a line feed.** -/
theorem readUnit?_render_iff {lines : List UnitLine} {parts : List UnitSection}
    (legible : ∀ part ∈ parts, part.Each UnitLine.Legible)
    (found : UnitSection.ofLines? lines = some parts) :
    readUnit? (UnitLine.render lines) = some parts ↔ ∀ part ∈ parts, part.Unbroken := by
  have unbrokenIff : ∀ {others}, UnitSection.ofLines? others = some parts →
      ((∀ line ∈ others, line.Unbroken) ↔ ∀ part ∈ parts, part.Unbroken) := fun same =>
    (UnitSection.forall_iff_of_ofLines? trivial same).trans
      (forall₂_congr fun _ _ => UnitSection.each_unbroken_iff)
  constructor
  · intro back
    obtain ⟨others, read, same⟩ := Option.bind_eq_some_iff.mp back
    exact (unbrokenIff same).mp (UnitLine.unbroken_of_readAll? read)
  · intro unbroken
    have plain := (UnitSection.forall_iff_of_ofLines? trivial found).mpr legible
    rw [readUnit?, UnitLine.readAll?_render plain ((unbrokenIff found).mpr unbroken)]
    exact found

end HostNet
