/-
**Text that cannot steer a terminal.**

The characters by which a text could steer the terminal that shows it are the bell, the backspace,
the form feed, the escape, the delete, and the controls beyond ASCII. A line of a log spells them
out.

* `inertCharacter_of_harmless`: every other character stands for itself;
* `inert_of_harmless`: a text without them is shown as it is.
-/

import HostNet.Text.Digit

namespace HostNet.Text

/-- A character by which a text could steer a terminal. -/
def steers (character : Char) : Bool :=
  [0x07, 0x08, 0x0C, 0x1B, 0x7F].contains character.toNat ||
    (0x80 ≤ character.toNat && character.toNat ≤ 0x9F)

/-- A character as a line of a log shows it. -/
def inertCharacter (character : Char) : List Char :=
  let digits := (writeRadix 16 character.toNat).toList
  if !steers character then [character]
  else if character.toNat < 0x10 then ['\\', 'x', '0'] ++ digits
  else if character.toNat < 0x80 then ['\\', 'x'] ++ digits
  else ['\\', 'u', '\x7b'] ++ digits ++ ['\x7d']

/-- A text as a line of a log shows it. -/
def inert (text : String) : String := String.ofList (text.toList.flatMap inertCharacter)

/-- A character that does not steer stands for itself. -/
theorem inertCharacter_of_harmless {character : Char} (harmless : steers character = false) :
    inertCharacter character = [character] := by
  simp [inertCharacter, harmless]

/-- A text without characters that steer is shown as it is. -/
theorem inert_of_harmless {text : String}
    (harmless : ∀ character ∈ text.toList, steers character = false) : inert text = text := by
  have same : ∀ list : List Char, (∀ character ∈ list, steers character = false) →
      list.flatMap inertCharacter = list := by
    intro list
    induction list with
    | nil => intro _; rfl
    | cons character rest ih =>
      intro each
      rw [List.flatMap_cons, inertCharacter_of_harmless (each character (by simp)),
        ih fun other member => each other (by simp [member])]
      rfl
  unfold inert
  rw [same _ harmless, String.ofList_toList]

example : inert "a\x1bb\x07\n" = "a\\x1bb\\x07\n" := by decide +kernel

end HostNet.Text
