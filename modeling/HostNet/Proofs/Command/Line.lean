/-
**What the line of a command tells.**

Between double quotes a backslash may stand for itself, take away the meaning of the character after
it, or vanish together with it. Readers of a word differ in this point only: all of them close the
word at the first quote that does not belong to a backslash. For one who drops every backslash that
was put in, a line tells each argument of its command. A shell reads a quoted word as the text that
was quoted too, except that a line feed behind a backslash is no part of it.

* `readQuoted?_word`: what each reader makes of a quoted word;
* `shellQuoted_denotes`: what a quoted word stands for in a shell;
* `line_eq_iff`: commands with the same line have the same arguments.
-/

import HostNet.Command.Tools
import HostNet.Proofs.Text.Pieces
import HostNet.Shell.Reader

namespace HostNet

open HostNet.Text

/-! ### Words in double quotes -/

section Quotes

variable {escaped : Char → List Char} {character : Char}

/-- Reads up to the closing quote, where `escaped` says what a backslash and the character after it
stand for. There is nothing to read if the quotes are not closed or a value is asked for in them. -/
def readQuoted? (escaped : Char → List Char) : List Char → Option (List Char × List Char)
  | [] => none
  | '"' :: after => some ([], after)
  | '\\' :: character :: rest =>
    (readQuoted? escaped rest).map fun (text, after) => (escaped character ++ text, after)
  | character :: rest =>
    if character = '$' ∨ character = Shell.backquote then none
    else (readQuoted? escaped rest).map fun (text, after) => (character :: text, after)

/-- A character that a quoted word has a backslash before. -/
def isQuoted (character : Char) : Bool := "$`\"\\\n".toList.contains character

theorem isEscapable_iff :
    Shell.isEscapable character = true ↔
      character = '$' ∨ character = '"' ∨ character = '\\' ∨ character = Shell.backquote := by
  simp only [Shell.isEscapable, Bool.or_eq_true, decide_eq_true_eq, or_assoc]

/-- A backslash stands before each character that it frees of its meaning, and before a line feed. -/
theorem isQuoted_iff :
    isQuoted character = true ↔ Shell.isEscapable character = true ∨ character = '\n' := by
  rw [isEscapable_iff]
  have listed : "$`\"\\\n".toList = ['$', Shell.backquote, '"', '\\', '\n'] := rfl
  rw [isQuoted, listed, List.contains_iff_mem]
  simp only [List.mem_cons, List.not_mem_nil, or_false]
  grind

theorem readQuoted?_plain (plain : Shell.isEscapable character = false) (rest : List Char) :
    readQuoted? escaped (character :: rest) =
      (readQuoted? escaped rest).map fun (text, after) => (character :: text, after) := by
  rw [← Bool.not_eq_true, isEscapable_iff] at plain
  simp only [not_or] at plain
  obtain ⟨noDollar, noQuote, noBackslash, noBackquote⟩ := plain
  rw [readQuoted?.eq_4 _ _ _ noQuote fun _ _ backslash _ => noBackslash backslash]
  exact if_neg (not_or.mpr ⟨noDollar, noBackquote⟩)

theorem readQuoted?_character (rest : List Char) :
    readQuoted? escaped (quotedWordCharacter character ++ rest) =
      (readQuoted? escaped rest).map fun (text, after) =>
        ((if isQuoted character then escaped character else [character]) ++ text, after) := by
  by_cases quoted : isQuoted character = true
  · have word : quotedWordCharacter character = ['\\', character] := if_pos quoted
    rw [word, if_pos quoted]
    rfl
  · have word : quotedWordCharacter character = [character] := if_neg quoted
    rw [word, if_neg quoted]
    rw [isQuoted_iff, not_or, Bool.not_eq_true] at quoted
    exact readQuoted?_plain quoted.1 rest

/-- **What a reader makes of a quoted word**, whatever follows it. -/
theorem readQuoted?_word (text after : List Char) :
    readQuoted? escaped (text.flatMap quotedWordCharacter ++ '"' :: after) =
      some (text.flatMap fun character =>
        if isQuoted character then escaped character else [character], after) := by
  induction text with
  | nil => rfl
  | cons character rest ih =>
    rw [List.flatMap_cons, List.append_assoc, readQuoted?_character, ih, List.flatMap_cons]
    rfl

theorem toList_shellQuoted (text : String) :
    (shellQuoted text).toList = '"' :: (text.toList.flatMap quotedWordCharacter ++ ['"']) := by
  rw [shellQuoted, String.toList_ofList]

end Quotes

/-! ### What a shell makes of a quoted word -/

/-- What a backslash between double quotes and the character after it stand for in a shell: nothing
before a line feed, which continues the line, the character alone where it has a meaning there, and
otherwise the two of them. -/
def shellEscaped (character : Char) : List Char :=
  if character = '\n' then []
  else if Shell.isEscapable character then [character]
  else ['\\', character]

/-- The text that a word stands for in a shell, if it is one word in double quotes which asks for no
value. -/
def denoted? (word : String) : Option String :=
  match word.toList with
  | '"' :: rest =>
    match readQuoted? shellEscaped rest with
    | some (text, []) => some (String.ofList text)
    | _ => none
  | _ => none

theorem shellEscaped_flatMap (text : List Char) :
    (text.flatMap fun character =>
      if isQuoted character then shellEscaped character else [character]) =
      text.filter (· ≠ '\n') := by
  induction text with
  | nil => rfl
  | cons character rest ih =>
    rw [List.flatMap_cons, ih]
    by_cases lineFeed : character = '\n'
    · subst lineFeed
      rfl
    · have kept : (if isQuoted character then shellEscaped character else [character]) =
          [character] := by
        split
        · rename_i quoted
          rw [shellEscaped, if_neg lineFeed, if_pos ((isQuoted_iff.mp quoted).resolve_right lineFeed)]
        · rfl
      rw [kept, List.filter_cons_of_pos (by simpa using lineFeed)]
      rfl

/-- **What a quoted word stands for in a shell**: its text without the line feeds. So it stands for
the text exactly if there is no line feed in it. -/
theorem shellQuoted_denotes (text : String) :
    denoted? (shellQuoted text) = some (String.ofList (text.toList.filter (· ≠ '\n'))) ∧
      (denoted? (shellQuoted text) = some text ↔ '\n' ∉ text.toList) := by
  have read : denoted? (shellQuoted text) =
      some (String.ofList (text.toList.filter (· ≠ '\n'))) := by
    unfold denoted?
    rw [toList_shellQuoted]
    simp only
    rw [readQuoted?_word, shellEscaped_flatMap]
  refine ⟨read, ?_⟩
  rw [read, Option.some_inj, ← String.toList_inj, String.toList_ofList, List.filter_eq_self]
  constructor
  · intro each inside
    exact absurd (each '\n' inside) (by decide)
  · intro free character inside
    have other : character ≠ '\n' := fun lineFeed => free (lineFeed ▸ inside)
    exact decide_eq_true other

/-- A line feed is lost. -/
theorem lineFeed_lost :
    denoted? (shellQuoted "eth0\neth1") = some "eth0eth1" ∧
      denoted? (shellQuoted "eth0\neth1") ≠ some "eth0\neth1" := by
  decide

namespace Command

/-! ### What a line tells -/

/-- Reads one word of a line: in quotes, where each backslash only takes away the meaning of the
character after it, or up to a space. -/
def readWord? : List Char → Option (List Char × List Char)
  | '"' :: rest => readQuoted? ([·]) rest
  | characters => some (characters.takeWhile (· ≠ ' '), characters.dropWhile (· ≠ ' '))

/-- A word is over where a line ends or goes on with a space. -/
def Ends (after : List Char) : Prop := ∀ character ∈ after.head?, character = ' '

/-- A text without spaces goes up to the end of the word. -/
theorem Ends.cut {front after : List Char} (ends : Ends after) (free : ' ' ∉ front) :
    (front ++ after).takeWhile (· ≠ ' ') = front ∧ (front ++ after).dropWhile (· ≠ ' ') = after := by
  refine run_append (fun character inside => ?_) fun character first => ?_
  · exact decide_eq_true fun space => free (space ▸ inside)
  · simp [ends character first]

theorem readWord?_quoted (text : String) (after : List Char) :
    readWord? ((shellQuoted text).toList ++ after) = some (text.toList, after) := by
  have same : (text.toList.flatMap fun character =>
      if isQuoted character then [character] else [character]) = text.toList := by
    simp
  rw [toList_shellQuoted, List.cons_append, List.append_assoc, List.singleton_append]
  show readQuoted? ([·]) _ = _
  rw [readQuoted?_word, same]

theorem readWord?_plain {text : String} (filled : text.isEmpty = false)
    (plain : text.toList.any needsQuotes = false) {after : List Char} (ends : Ends after) :
    readWord? (text.toList ++ after) = some (text.toList, after) := by
  rw [List.any_eq_false] at plain
  have free : ' ' ∉ text.toList := fun inside => plain ' ' inside (by decide)
  have unquoted : ∀ rest, text.toList ++ after = '"' :: rest → False := by
    intro rest starts
    cases characters : text.toList with
    | nil =>
      rw [String.toList_eq_nil_iff] at characters
      rw [characters] at filled
      cases filled
    | cons first others =>
      rw [characters, List.cons_append, List.cons.injEq] at starts
      refine plain first (by simp [characters]) ?_
      rw [starts.1]
      decide
  rw [readWord?.eq_2 _ unquoted, (ends.cut free).1, (ends.cut free).2]

/-- A word of a line is read as the text that it was written for. -/
theorem readWord?_shellWord (text : String) {after : List Char} (ends : Ends after) :
    readWord? ((shellWord text).toList ++ after) = some (text.toList, after) := by
  unfold shellWord
  split
  · exact readWord?_quoted text after
  · rename_i plain
    rw [Bool.not_eq_true, Bool.or_eq_false_iff] at plain
    exact readWord?_plain plain.1 plain.2 ends

theorem toList_words_cons (argument : String) (arguments : List String) :
    (words (argument :: arguments)).toList =
      ' ' :: ((shellWord argument).toList ++ (words arguments).toList) := by
  simp [words]

theorem words_ends (arguments : List String) : Ends (words arguments).toList := by
  cases arguments with
  | nil => nofun
  | cons argument arguments =>
    rw [toList_words_cons]
    rintro character ⟨⟩
    rfl

/-- **The words of arguments tell how many there are, and each of them.** -/
theorem words_injective : Function.Injective words := by
  intro first second same
  have characters := congrArg String.toList same
  clear same
  induction first generalizing second with
  | nil =>
    cases second with
    | nil => rfl
    | cons other others =>
      rw [toList_words_cons] at characters
      cases characters
  | cons argument arguments ih =>
    cases second with
    | nil =>
      rw [toList_words_cons] at characters
      cases characters
    | cons other others =>
      rw [toList_words_cons, toList_words_cons, List.cons.injEq] at characters
      have word := readWord?_shellWord argument (words_ends arguments)
      rw [characters.2, readWord?_shellWord other (words_ends others), Option.some_inj,
        Prod.mk.injEq, String.toList_inj] at word
      rw [word.1, ih word.2.symm]

/-- A program without spaces is what stands before the first space of its line. -/
theorem takeWhile_line {command : Command} (free : ' ' ∉ command.program.toList) :
    command.line.toList.takeWhile (· ≠ ' ') = command.program.toList := by
  rw [line, String.toList_append]
  exact ((words_ends command.arguments).cut free).1

/-- **A line tells its command.** Two commands with the same program and the same line have the same
arguments; and if there is no space in their programs, commands with the same line are the same. -/
theorem line_eq_iff :
    (∀ program arguments others,
      line ⟨program, arguments⟩ = line ⟨program, others⟩ ↔ arguments = others) ∧
      ∀ first second : Command, ' ' ∉ first.program.toList → ' ' ∉ second.program.toList →
        (first.line = second.line ↔ first = second) := by
  have told : ∀ program arguments others,
      line ⟨program, arguments⟩ = line ⟨program, others⟩ ↔ arguments = others := by
    intro program arguments others
    show program ++ words arguments = program ++ words others ↔ arguments = others
    rw [String.append_right_inj]
    exact words_injective.eq_iff
  refine ⟨told, fun first second free otherFree => ⟨fun same => ?_, fun same => by rw [same]⟩⟩
  have program : first.program = second.program := by
    rw [← String.toList_inj, ← takeWhile_line free, same, takeWhile_line otherFree]
  obtain ⟨name, arguments⟩ := first
  obtain ⟨other, others⟩ := second
  obtain rfl : name = other := program
  rw [(told name arguments others).mp same]

/-- No name and the name of two quotes, which is what no name is shown as. -/
theorem emptyName_told :
    ' ' ∉ (setHostname "").program.toList ∧ ' ' ∉ (setHostname "\"\"").program.toList ∧
      (setHostname "").line = "hostnamectl set-hostname \"\"" ∧
      (setHostname "").line ≠ (setHostname "\"\"").line := by
  refine ⟨by decide, by decide, by decide, fun same => ?_⟩
  have equal := (line_eq_iff.2 (setHostname "") (setHostname "\"\"") (by decide) (by decide)).mp same
  exact absurd equal (by decide)

/-- A space in a program passes for the end of it. -/
example : line ⟨"ip address", []⟩ = line ⟨"ip", ["address"]⟩ := by decide

end Command

end HostNet
