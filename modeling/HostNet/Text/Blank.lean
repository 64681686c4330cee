/-
**White space.**

The one notion of blank character that the library uses: the characters with the Unicode property
`White_Space`. Trimming, the test whether an argument needs quotes and the reader of interface
listings all go by it.

* `isBlank_of_isWhitespace`: every character that core calls white space is blank;
* `trimList_eq_self`: a text whose ends are not blank is its own trimmed form.
-/

namespace HostNet.Text

/-- A character with the Unicode property `White_Space`. -/
def isBlank (character : Char) : Bool :=
  let code := character.toNat
  (0x09 ≤ code && code ≤ 0x0D) || code == 0x20 || code == 0x85 || code == 0xA0 ||
    code == 0x1680 || (0x2000 ≤ code && code ≤ 0x200A) || code == 0x2028 || code == 0x2029 ||
    code == 0x202F || code == 0x205F || code == 0x3000

/-- Core's white space, a part of ASCII, is blank. -/
theorem isBlank_of_isWhitespace {character : Char} (white : character.isWhitespace = true) :
    isBlank character = true := by
  simp only [Char.isWhitespace, Bool.or_eq_true, decide_eq_true_eq] at white
  rcases white with ((rfl | rfl) | rfl) | rfl <;> decide

/-- A list of characters without its blank ends. -/
def trimList (characters : List Char) : List Char :=
  ((characters.dropWhile isBlank).reverse.dropWhile isBlank).reverse

/-- A text without its blank ends. -/
def trim (text : String) : String :=
  String.ofList (trimList text.toList)

/-- A text without its blank end. -/
def trimEnd (text : String) : String :=
  String.ofList (text.toList.reverse.dropWhile isBlank).reverse

/-- A text whose first and last characters are not blank is left alone. -/
theorem trimList_eq_self {characters : List Char}
    (first : ∀ character, characters.head? = some character → isBlank character = false)
    (last : ∀ character, characters.getLast? = some character → isBlank character = false) :
    trimList characters = characters := by
  have keep : ∀ list : List Char,
      (∀ character, list.head? = some character → isBlank character = false) →
        list.dropWhile isBlank = list := by
    intro list headKept
    cases list with
    | nil => rfl
    | cons character rest => simp [headKept character rfl]
  unfold trimList
  rw [keep characters first, keep characters.reverse (by simpa using last),
    List.reverse_reverse]

end HostNet.Text
