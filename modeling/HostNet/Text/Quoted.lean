/-
**Quoted text.**

How error messages show a text of unknown content: between double quotes, with tab, carriage return,
line feed, quote, backslash and NUL as a backslash and one character, and every other character
without a glyph of its own as its code point in braces.

* `quoted_of_plain`: a text of shown characters without quotes and backslashes is quoted as it is.
-/

import HostNet.Text.Digit
import HostNet.Text.Unprintable

namespace HostNet.Text

/-- One character of a quoted text. -/
def quotedCharacter (character : Char) : List Char :=
  match character with
  | '\t' => ['\\', 't']
  | '\r' => ['\\', 'r']
  | '\n' => ['\\', 'n']
  | '"' => ['\\', '"']
  | '\\' => ['\\', '\\']
  | '\x00' => ['\\', '0']
  | other =>
    if isShown other then [other]
    else ['\\', 'u', '\x7b'] ++ (writeRadix 16 other.toNat).toList ++ ['\x7d']

/-- A text between double quotes, with what cannot be shown spelled out. -/
def quoted (text : String) : String :=
  String.ofList ('"' :: (text.toList.flatMap quotedCharacter ++ ['"']))

/-- A shown character that is neither a quote nor a backslash stands for itself. -/
theorem quotedCharacter_of_shown {character : Char} (shown : isShown character = true)
    (noQuote : character ≠ '"') (noBackslash : character ≠ '\\') :
    quotedCharacter character = [character] := by
  unfold quotedCharacter
  split
  · exact absurd shown (by decide)
  · exact absurd shown (by decide)
  · exact absurd shown (by decide)
  · exact absurd rfl noQuote
  · exact absurd rfl noBackslash
  · exact absurd shown (by decide)
  · simp [shown]

/-- A text of shown characters without quotes and backslashes is quoted as it is. -/
theorem quoted_of_plain {text : String}
    (plain : ∀ character ∈ text.toList,
      isShown character = true ∧ character ≠ '"' ∧ character ≠ '\\') :
    quoted text = String.ofList ('"' :: (text.toList ++ ['"'])) := by
  have same : ∀ list : List Char, (∀ character ∈ list,
      isShown character = true ∧ character ≠ '"' ∧ character ≠ '\\') →
        list.flatMap quotedCharacter = list := by
    intro list
    induction list with
    | nil => intro _; rfl
    | cons character rest ih =>
      intro each
      obtain ⟨shown, noQuote, noBackslash⟩ := each character (by simp)
      rw [List.flatMap_cons, quotedCharacter_of_shown shown noQuote noBackslash,
        ih fun other member => each other (by simp [member])]
      rfl
  unfold quoted
  rw [same _ plain]

end HostNet.Text
