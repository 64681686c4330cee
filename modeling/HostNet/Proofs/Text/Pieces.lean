/-
**Cutting and joining undo each other.**

* `split_append_separator`: a text is cut at a separator as its two sides are cut on their own;
* `split_join`: the pieces of joined pieces without separators are these pieces;
* `splitOnce?_append`: the first separator is the one after a text without separators;
* `run_append`: a run of characters of a class ends where one outside of it comes;
* `split_map`: a change of characters that respects the separator can be made before cutting or
  after;
* `isDigit_of_mem_toString`: a numeral holds no separators, only digits;
* `eq_of_toString`: a numeral tells its number.
-/

import HostNet.Text.Pieces

namespace HostNet.Text

variable {separator : Char}

theorem split_cons_of_ne {character : Char} (other : character ≠ separator) {rest piece : List Char}
    {pieces : List (List Char)} (cut : split separator rest = piece :: pieces) :
    split separator (character :: rest) = (character :: piece) :: pieces := by
  rw [split, if_neg other, cut]

theorem split_separator (rest : List Char) :
    split separator (separator :: rest) = [] :: split separator rest := by
  rw [split, if_pos rfl]

theorem split_of_free {piece : List Char} (free : separator ∉ piece) :
    split separator piece = [piece] := by
  induction piece with
  | nil => rfl
  | cons character rest ih =>
    simp only [List.mem_cons, not_or] at free
    exact split_cons_of_ne (Ne.symm free.1) (ih free.2)

/-- No piece of a text holds the separator. -/
theorem free_of_mem_split {characters piece : List Char} (member : piece ∈ split separator characters) :
    separator ∉ piece := by
  induction characters generalizing piece with
  | nil =>
    rw [split, List.mem_singleton] at member
    rw [member]
    exact List.not_mem_nil
  | cons character rest ih =>
    by_cases same : character = separator
    · subst same
      rw [split_separator, List.mem_cons] at member
      obtain rfl | later := member
      · exact List.not_mem_nil
      · exact ih later
    · obtain ⟨first, others, cut⟩ := List.exists_cons_of_ne_nil (split_ne_nil separator rest)
      rw [split_cons_of_ne same cut, List.mem_cons] at member
      rw [cut] at ih
      obtain rfl | later := member
      · rw [List.mem_cons, not_or]
        exact ⟨Ne.symm same, ih List.mem_cons_self⟩
      · exact ih (List.mem_cons_of_mem first later)

/-- **A text is cut at a separator as its two sides are cut on their own.** -/
theorem split_append_separator (front back : List Char) :
    split separator (front ++ separator :: back) =
      split separator front ++ split separator back := by
  induction front with
  | nil => exact split_separator back
  | cons character rest ih =>
    by_cases same : character = separator
    · subst same
      rw [List.cons_append, split_separator, split_separator, ih, List.cons_append]
    · obtain ⟨piece, pieces, cut⟩ := List.exists_cons_of_ne_nil (split_ne_nil separator rest)
      rw [cut, List.cons_append] at ih
      rw [List.cons_append, split_cons_of_ne same ih, split_cons_of_ne same cut, List.cons_append]

/-- **The pieces of joined pieces without separators are these pieces.** -/
theorem split_join {pieces : List (List Char)} (some : pieces ≠ [])
    (free : ∀ piece ∈ pieces, separator ∉ piece) :
    split separator (join separator pieces) = pieces := by
  induction pieces with
  | nil => exact absurd rfl some
  | cons piece pieces ih =>
    have first : separator ∉ piece := free piece (by simp)
    cases pieces with
    | nil => exact split_of_free first
    | cons next others =>
      have later := ih (by simp) fun other member => free other (by simp [member])
      rw [join, split_append_separator, split_of_free first, later]
      · rfl
      · simp

/-- The first separator is the one after a text without separators. -/
theorem splitOnce?_append {front : List Char} (free : separator ∉ front) (back : List Char) :
    splitOnce? separator (front ++ separator :: back) = some (front, back) := by
  induction front with
  | nil => rw [List.nil_append, splitOnce?, if_pos rfl]
  | cons character rest ih =>
    simp only [List.mem_cons, not_or] at free
    rw [List.cons_append, splitOnce?, if_neg (Ne.symm free.1), ih free.2]
    rfl

/-- A run of characters of a class ends where one outside of it comes. -/
theorem run_append {inClass : Char → Bool} {front after : List Char}
    (inside : ∀ character ∈ front, inClass character = true)
    (ends : ∀ character ∈ after.head?, inClass character = false) :
    (front ++ after).takeWhile inClass = front ∧ (front ++ after).dropWhile inClass = after := by
  rw [List.takeWhile_append_of_pos inside, List.dropWhile_append_of_pos inside]
  cases after with
  | nil => simp
  | cons character rest => simp [ends character rfl]

/-- The characters of joined texts are the joined characters. -/
theorem toList_joinWith (texts : List String) :
    (joinWith (String.singleton separator) texts).toList =
      join separator (texts.map String.toList) := by
  induction texts with
  | nil => rfl
  | cons text texts ih =>
    cases texts with
    | nil => rfl
    | cons next others =>
      rw [joinWith, String.toList_append, String.toList_append, ih]
      · simp [join]
      · exact List.cons_ne_nil next others

/-- What stands in joined pieces is a separator or stands in a piece. -/
theorem mem_join {separator character : Char} {pieces : List (List Char)}
    (inside : character ∈ join separator pieces) :
    character = separator ∨ ∃ piece ∈ pieces, character ∈ piece := by
  induction pieces with
  | nil => cases inside
  | cons piece pieces ih =>
    cases pieces with
    | nil => exact .inr ⟨piece, List.mem_cons_self, inside⟩
    | cons next others =>
      rw [join, List.mem_append, List.mem_cons] at inside
      · obtain here | same | later := inside
        · exact .inr ⟨piece, List.mem_cons_self, here⟩
        · exact .inl same
        · obtain same | ⟨other, member, there⟩ := ih later
          · exact .inl same
          · exact .inr ⟨other, List.mem_cons_of_mem piece member, there⟩
      · exact List.cons_ne_nil next others

/-- A change of characters that respects the separator can be made before cutting or after. -/
theorem split_map {change : Char → Char}
    (respects : ∀ character, change character = separator ↔ character = separator)
    (characters : List Char) :
    split separator (characters.map change) = (split separator characters).map (·.map change) := by
  induction characters with
  | nil => rfl
  | cons character rest ih =>
    by_cases same : character = separator
    · have changed : change character = separator := (respects character).mpr same
      rw [List.map_cons, changed, same, split_separator, split_separator, ih]
      rfl
    · have changed : change character ≠ separator := fun equal =>
        same ((respects character).mp equal)
      obtain ⟨piece, pieces, cut⟩ := List.exists_cons_of_ne_nil (split_ne_nil separator rest)
      rw [cut, List.map_cons] at ih
      rw [List.map_cons, split_cons_of_ne changed ih, split_cons_of_ne same cut]
      rfl

/-- A numeral holds nothing but digits. -/
theorem isDigit_of_mem_toString {number : Nat} {character : Char}
    (inside : character ∈ (toString number).toList) : character.isDigit = true := by
  rw [Nat.toString_eq_repr, Nat.toList_repr] at inside
  exact Nat.isDigit_of_mem_toDigits (by decide) (by decide) inside

/-- A numeral tells its number. -/
theorem eq_of_toString {number other : Nat} (same : toString number = toString other) :
    number = other := by
  rw [Nat.toString_eq_repr, Nat.toString_eq_repr] at same
  have digits := congrArg String.toList same
  rw [Nat.toList_repr, Nat.toList_repr] at digits
  have values := congrArg (Nat.ofDigitChars 10 · 0) digits
  simpa only [Nat.ofDigitChars_ten_toDigits] using values

end HostNet.Text
