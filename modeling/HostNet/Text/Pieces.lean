/-
**Cutting a text into pieces.**

* `split`: all pieces between the occurrences of a separator;
* `splitOnce?`: the pieces before and after the first occurrence;
* `join`: pieces with a separator between them, the inverse of `split` (`join_split`);
* `occursIn`: whether a text occurs inside another.
-/

namespace HostNet.Text

/-- All pieces between the occurrences of a separator, at least one. -/
def split (separator : Char) : List Char → List (List Char)
  | [] => [[]]
  | character :: rest =>
    if character = separator then [] :: split separator rest
    else match split separator rest with
      | [] => [[character]]
      | piece :: pieces => (character :: piece) :: pieces

/-- The pieces before and after the first occurrence of a separator. -/
def splitOnce? (separator : Char) : List Char → Option (List Char × List Char)
  | [] => none
  | character :: rest =>
    if character = separator then some ([], rest)
    else (splitOnce? separator rest).map fun (front, back) => (character :: front, back)

/-- Pieces with a separator between them. -/
def join (separator : Char) : List (List Char) → List Char
  | [] => []
  | [piece] => piece
  | piece :: pieces => piece ++ separator :: join separator pieces

/-- A text is cut into at least one piece. -/
theorem split_ne_nil (separator : Char) (characters : List Char) :
    split separator characters ≠ [] := by
  cases characters with
  | nil => simp [split]
  | cons character rest =>
    unfold split
    split
    · simp
    · split <;> simp

/-- Joining the pieces of a text gives the text back. -/
theorem join_split (separator : Char) (characters : List Char) :
    join separator (split separator characters) = characters := by
  induction characters with
  | nil => rfl
  | cons character rest ih =>
    unfold split
    by_cases same : character = separator
    · rw [if_pos same]
      cases cut : split separator rest with
      | nil => exact absurd cut (split_ne_nil separator rest)
      | cons piece pieces =>
        rw [cut] at ih
        simp [join, ih, same]
    · rw [if_neg same]
      cases cut : split separator rest with
      | nil => exact absurd cut (split_ne_nil separator rest)
      | cons piece pieces =>
        rw [cut] at ih
        cases pieces with
        | nil => simpa [join] using ih
        | cons next others => simpa [join] using ih

/-- The parts of a text cut at its first separator make up the text, and the first has none. -/
theorem splitOnce?_eq_some {separator : Char} {characters front back : List Char}
    (cut : splitOnce? separator characters = some (front, back)) :
    characters = front ++ separator :: back ∧ separator ∉ front := by
  induction characters generalizing front with
  | nil => simp [splitOnce?] at cut
  | cons character rest ih =>
    unfold splitOnce? at cut
    by_cases same : character = separator
    · rw [if_pos same] at cut
      cases cut
      simp [same]
    · rw [if_neg same] at cut
      obtain ⟨⟨inner, outer⟩, found, equal⟩ := Option.map_eq_some_iff.mp cut
      cases equal
      obtain ⟨whole, free⟩ := ih found
      exact ⟨by rw [whole]; rfl, by simp [free, Ne.symm same]⟩

/-- Strings with a separator between them. -/
def joinWith (separator : String) : List String → String
  | [] => ""
  | [text] => text
  | text :: texts => text ++ separator ++ joinWith separator texts

/-- Whether one list of characters starts with another. -/
def startsWith (characters front : List Char) : Bool :=
  front.isPrefixOf characters

/-- Whether one list of characters occurs inside another. -/
def occursIn (wanted : List Char) : List Char → Bool
  | [] => wanted.isEmpty
  | character :: rest => startsWith (character :: rest) wanted || occursIn wanted rest

/-- A text occurs inside another exactly when something stands before and after it. -/
theorem occursIn_iff (wanted characters : List Char) :
    occursIn wanted characters = true ↔
      ∃ before after, characters = before ++ wanted ++ after := by
  induction characters with
  | nil =>
    simp only [occursIn, List.isEmpty_iff]
    constructor
    · rintro rfl
      exact ⟨[], [], rfl⟩
    · rintro ⟨before, after, equal⟩
      have := congrArg List.length equal
      simp only [List.length_nil, List.length_append] at this
      exact List.eq_nil_of_length_eq_zero (by omega)
  | cons character rest ih =>
    simp only [occursIn, startsWith, Bool.or_eq_true, ih, List.isPrefixOf_iff_prefix]
    constructor
    · rintro (⟨after, equal⟩ | ⟨before, after, equal⟩)
      · exact ⟨[], after, by simpa using equal.symm⟩
      · exact ⟨character :: before, after, by simp [equal]⟩
    · rintro ⟨before, after, equal⟩
      cases before with
      | nil => exact Or.inl ⟨after, by simpa using equal.symm⟩
      | cons first others =>
        simp only [List.cons_append, List.cons.injEq] at equal
        exact Or.inr ⟨others, after, equal.2⟩

end HostNet.Text
