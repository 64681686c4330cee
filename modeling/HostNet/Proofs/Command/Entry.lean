/-
**The ways to read an entry of a listing.**

An entry is `inet` or `inet6`, a space, an address, a slash and a prefix length. What stands in a
listing can be read as an entry in several ways, since a word may hold more than one slash. The way
with the longest address and the most digits is preferred: each step of reading lists all its ways,
those that are preferred first, and a later step that fails leads back to the next way of an earlier
one.

* `mem_readings_iff`: the ways to read an entry at the front of a listing;
* `listed?_eq_head?`: the entry found there is read in the way that is preferred.
-/

import HostNet.Command.Report
import HostNet.Proofs.Text.Pieces

namespace HostNet

open HostNet.Text

/-! ### Steps of reading -/

section Steps

variable {inClass : Char → Bool} {characters front after : List Char}

theorem after?_eq_some_iff {text : String} :
    after? text characters = some after ↔ characters = text.toList ++ after := by
  unfold after? startsWith
  rw [Option.ite_none_right_eq_some, List.isPrefixOf_iff_prefix, Option.some_inj]
  constructor
  · rintro ⟨⟨rest, rfl⟩, rfl⟩
    rw [List.drop_left]
  · rintro rfl
    exact ⟨⟨after, rfl⟩, List.drop_left⟩

theorem after?_append (first second : String) (characters : List Char) :
    after? (first ++ second) characters = (after? first characters).bind (after? second) := by
  refine Option.ext fun after => ?_
  rw [Option.bind_eq_some_iff, after?_eq_some_iff]
  simp only [after?_eq_some_iff, String.toList_append, List.append_assoc]
  constructor
  · rintro rfl
    exact ⟨_, rfl, rfl⟩
  · rintro ⟨_, rfl, rfl⟩
    rfl

theorem after?_character {text : String} {wanted : Char} (one : text.toList = [wanted])
    (character : Char) (rest : List Char) :
    after? text (character :: rest) = if character = wanted then some rest else none := by
  refine Option.ext fun after => ?_
  rw [after?_eq_some_iff, one, Option.ite_none_right_eq_some, Option.some_inj]
  exact List.cons.injEq character rest wanted after ▸ Iff.rfl

/-- All ways to read one or more characters of a class, the longest first. -/
def runs (inClass : Char → Bool) : List Char → List (List Char × List Char)
  | [] => []
  | character :: rest =>
    if inClass character then
      (runs inClass rest).map (fun (run, after) => (character :: run, after)) ++
        [([character], rest)]
    else []

theorem mem_runs_iff :
    (front, after) ∈ runs inClass characters ↔
      characters = front ++ after ∧ front ≠ [] ∧ ∀ character ∈ front, inClass character = true := by
  induction characters generalizing front with
  | nil => cases front <;> simp [runs]
  | cons character rest ih =>
    unfold runs
    split
    · rename_i inside
      rw [List.mem_append, List.mem_map, List.mem_singleton]
      constructor
      · rintro (⟨⟨run, others⟩, member, equal⟩ | equal)
        · cases equal
          obtain ⟨rfl, _, each⟩ := ih.mp member
          exact ⟨rfl, List.cons_ne_nil _ _, List.forall_mem_cons.mpr ⟨inside, each⟩⟩
        · cases equal
          exact ⟨rfl, List.cons_ne_nil _ _, by simpa using inside⟩
      · rintro ⟨whole, filled, each⟩
        obtain ⟨first, others, rfl⟩ := List.exists_cons_of_ne_nil filled
        obtain ⟨rfl, rfl⟩ := List.cons.inj whole
        cases others with
        | nil => exact .inr rfl
        | cons next others =>
          refine .inl ⟨(next :: others, after), ih.mpr ⟨rfl, List.cons_ne_nil _ _, ?_⟩, rfl⟩
          exact (List.forall_mem_cons.mp each).2
    · rename_i outside
      refine ⟨nofun, fun ⟨whole, filled, each⟩ => ?_⟩
      obtain ⟨first, others, rfl⟩ := List.exists_cons_of_ne_nil filled
      obtain ⟨rfl, _⟩ := List.cons.inj whole
      exact absurd (each character List.mem_cons_self) outside

/-- The preferred way is to read as many characters of the class as there are. -/
theorem runs_head? (inClass : Char → Bool) (characters : List Char) :
    (runs inClass characters).head? =
      if characters.head?.any inClass then
        some (characters.takeWhile inClass, characters.dropWhile inClass)
      else none := by
  induction characters with
  | nil => rfl
  | cons character rest ih =>
    unfold runs
    cases inside : inClass character with
    | false => simp [inside]
    | true =>
      rw [if_pos rfl, List.head?_append, List.head?_map, ih]
      cases rest with
      | nil => simp [inside]
      | cons next others => cases more : inClass next <;> simp [inside, more]

end Steps

/-! ### The ways to read an entry -/

section Readings

variable {characters address after : List Char}

/-- All ways to read the word that tells the kind of an address; the longer word is preferred. -/
def keywordReadings (characters : List Char) : List (List Char) :=
  (after? "inet" characters).toList.flatMap fun rest =>
    ((after? "6" rest).toList ++ [rest]).flatMap fun rest => (after? " " rest).toList

/-- All ways to read a slash and a prefix length. -/
def lengthReadings (characters : List Char) : List (List Char) :=
  (after? "/" characters).toList.flatMap fun rest => (runs isDecimalDigit rest).map (·.2)

/-- All ways to read an address with its prefix length. -/
def addressReadings (characters : List Char) : List (List Char × List Char) :=
  (runs (!isBlank ·) characters).flatMap fun (address, rest) =>
    (lengthReadings rest).map (address, ·)

/-- All ways to read an entry at the front of a listing, those that are preferred first: its address
and what follows. -/
def readings (characters : List Char) : List (List Char × List Char) :=
  (keywordReadings characters).flatMap addressReadings

theorem keywordReadings_eq (characters : List Char) :
    keywordReadings characters =
      (after? "inet " characters <|> after? "inet6 " characters).toList := by
  have four : after? "inet " characters = (after? "inet" characters).bind (after? " ") :=
    after?_append "inet" " " characters
  have six : after? "inet6 " characters =
      (after? "inet" characters).bind fun rest => (after? "6" rest).bind (after? " ") := by
    show after? ("inet" ++ ("6" ++ " ")) characters = _
    rw [after?_append]
    exact congrArg _ (funext (after?_append "6" " "))
  rw [keywordReadings, four, six]
  cases after? "inet" characters with
  | none => rfl
  | some rest =>
    cases rest with
    | nil => rfl
    | cons character rest =>
      have digit : after? "6" (character :: rest) = if character = '6' then some rest else none :=
        after?_character rfl character rest
      have space : after? " " (character :: rest) = if character = ' ' then some rest else none :=
        after?_character rfl character rest
      by_cases isSix : character = '6'
      · subst isSix
        simp [digit, space]
      · simp [digit, isSix]

theorem mem_keywordReadings_iff :
    after ∈ keywordReadings characters ↔
      ∃ keyword, (keyword = "inet " ∨ keyword = "inet6 ") ∧
        characters = keyword.toList ++ after := by
  simp only [keywordReadings, List.mem_flatMap, Option.mem_toList, after?_eq_some_iff,
    List.mem_append, List.mem_singleton]
  constructor
  · rintro ⟨_, rfl, _, rfl | rfl, rfl⟩
    · exact ⟨"inet6 ", .inr rfl, rfl⟩
    · exact ⟨"inet ", .inl rfl, rfl⟩
  · rintro ⟨_, rfl | rfl, rfl⟩
    · exact ⟨' ' :: after, rfl, _, .inr rfl, rfl⟩
    · exact ⟨'6' :: ' ' :: after, rfl, _, .inl rfl, rfl⟩

theorem mem_lengthReadings_iff :
    after ∈ lengthReadings characters ↔
      ∃ length, characters = '/' :: (length ++ after) ∧ length ≠ [] ∧
        ∀ character ∈ length, isDecimalDigit character = true := by
  simp only [lengthReadings, List.mem_flatMap, Option.mem_toList, after?_eq_some_iff,
    List.mem_map, Prod.exists, mem_runs_iff]
  constructor
  · rintro ⟨_, rfl, length, _, ⟨rfl, filled, each⟩, rfl⟩
    exact ⟨length, rfl, filled, each⟩
  · rintro ⟨length, rfl, filled, each⟩
    exact ⟨_, rfl, length, after, ⟨rfl, filled, each⟩, rfl⟩

theorem mem_addressReadings_iff :
    (address, after) ∈ addressReadings characters ↔
      ∃ rest, characters = address ++ rest ∧
        (address ≠ [] ∧ ∀ character ∈ address, isBlank character = false) ∧
        after ∈ lengthReadings rest := by
  simp only [addressReadings, List.mem_flatMap, Prod.exists, mem_runs_iff, List.mem_map,
    Prod.mk.injEq, Bool.not_eq_true']
  constructor
  · rintro ⟨_, rest, ⟨rfl, written⟩, _, member, rfl, rfl⟩
    exact ⟨rest, rfl, written, member⟩
  · rintro ⟨rest, rfl, written, member⟩
    exact ⟨address, rest, ⟨rfl, written⟩, after, member, rfl, rfl⟩

/-- **The ways to read an entry at the front of a listing.** -/
theorem mem_readings_iff :
    (address, after) ∈ readings characters ↔
      ∃ keyword length, (keyword = "inet " ∨ keyword = "inet6 ") ∧
        characters = keyword.toList ++ (address ++ '/' :: (length ++ after)) ∧
        (address ≠ [] ∧ ∀ character ∈ address, isBlank character = false) ∧
        length ≠ [] ∧ ∀ character ∈ length, isDecimalDigit character = true := by
  simp only [readings, List.mem_flatMap, mem_keywordReadings_iff, mem_addressReadings_iff,
    mem_lengthReadings_iff]
  constructor
  · rintro ⟨_, ⟨keyword, keywords, rfl⟩, _, rfl, written, length, rfl, numeral⟩
    exact ⟨keyword, length, keywords, rfl, written, numeral⟩
  · rintro ⟨keyword, length, keywords, rfl, written, numeral⟩
    exact ⟨_, ⟨keyword, keywords, rfl⟩, _, rfl, written, length, rfl, numeral⟩

/-- What is read as an entry is at least one character. -/
theorem length_lt_of_mem_readings (member : (address, after) ∈ readings characters) :
    after.length < characters.length := by
  obtain ⟨keyword, length, _, rfl, _⟩ := mem_readings_iff.mp member
  simp only [List.length_append, List.length_cons]
  omega

/-! ### The preferred way -/

/-- A decimal digit of any script is part of a word. -/
theorem isBlank_of_isDecimalDigit {character : Char} (digit : isDecimalDigit character = true) :
    isBlank character = false := by
  have apart : ∀ start ∈ decimalZeros, ∀ offset < 10,
      isBlank (Char.ofNat (start + offset)) = false := by
    decide +kernel
  have found : ∃ start ∈ decimalZeros, start ≤ character.toNat ∧ character.toNat < start + 10 := by
    simp only [isDecimalDigit] at digit
    split at digit
    · simp only [Bool.and_eq_true, decide_eq_true_eq] at digit
      exact ⟨0x30, by decide, by omega⟩
    · simpa using digit
  obtain ⟨start, member, least, below⟩ := found
  have none := apart start member (character.toNat - start) (by omega)
  rwa [Nat.add_sub_cancel' least, Char.ofNat_toNat] at none

/-- Behind a slash all digits are taken, and there has to be one. -/
theorem lengthReadings_slash (rest : List Char) :
    (lengthReadings ('/' :: rest)).head? =
      if rest.head?.any isDecimalDigit then some (rest.dropWhile isDecimalDigit) else none := by
  have slash : after? "/" ('/' :: rest) = some rest := after?_eq_some_iff.mpr rfl
  rw [lengthReadings, slash, Option.toList_some, List.flatMap_singleton, List.head?_map,
    runs_head?]
  split <;> rfl

theorem lengthReadings_of_ne {character : Char} (other : character ≠ '/') (rest : List Char) :
    lengthReadings (character :: rest) = [] := by
  have slash : after? "/" (character :: rest) = if character = '/' then some rest else none :=
    after?_character rfl character rest
  rw [lengthReadings, slash, if_neg other]
  rfl

theorem addressReadings_cons {character : Char} (word : isBlank character = false)
    (rest : List Char) :
    addressReadings (character :: rest) =
      (addressReadings rest).map (fun (address, after) => (character :: address, after)) ++
        (lengthReadings rest).map ([character], ·) := by
  rw [addressReadings, runs, if_pos (by rw [word]; rfl), List.flatMap_append, List.flatMap_map,
    List.flatMap_singleton, addressReadings, List.map_flatMap]
  simp only [List.map_map]
  rfl

/-- The digits of a word are followed by what is left of the word and what follows it. -/
theorem dropWhile_digits (characters : List Char) :
    characters.dropWhile isDecimalDigit =
      (characters.takeWhile (!isBlank ·)).dropWhile isDecimalDigit ++
        characters.dropWhile (!isBlank ·) := by
  induction characters with
  | nil => rfl
  | cons character rest ih =>
    cases digit : isDecimalDigit character with
    | true => simp [digit, isBlank_of_isDecimalDigit digit, ih]
    | false =>
      cases blank : isBlank character with
      | true => simp [digit, blank]
      | false => simp [digit, blank, List.takeWhile_append_dropWhile]

theorem cutAtLength?_free {word : List Char} (free : '/' ∉ word) : cutAtLength? word = none := by
  cases cut : cutAtLength? word with
  | none => rfl
  | some pair =>
    obtain ⟨front, back⟩ := pair
    rw [cutAtLength?_eq_some cut] at free
    exact absurd (List.mem_append_right front List.mem_cons_self) free

/-- A word is cut at its last slash if a digit follows. -/
theorem cutAtLength?_last (front : List Char) {back : List Char} (free : '/' ∉ back)
    (digit : back.head?.any isDecimalDigit = true) :
    cutAtLength? (front ++ '/' :: back) = some (front, back) := by
  induction front with
  | nil =>
    rw [List.nil_append, cutAtLength?, cutAtLength?_free free]
    simp [digit]
  | cons character rest ih => rw [List.cons_append, cutAtLength?, ih]

theorem any_head?_takeWhile (characters : List Char) :
    (characters.takeWhile (!isBlank ·)).head?.any isDecimalDigit =
      characters.head?.any isDecimalDigit := by
  cases characters with
  | nil => rfl
  | cons character rest =>
    cases digit : isDecimalDigit character with
    | true => simp [isBlank_of_isDecimalDigit digit]
    | false => cases blank : isBlank character <;> simp [blank, digit]

section Word

variable {rest back : List Char}

/-- Where a word is cut before its first character, a prefix length is read there. -/
theorem lengthReadings_of_cut (cut : cutAtLength? (rest.takeWhile (!isBlank ·)) = some ([], back)) :
    (lengthReadings rest).head? =
      some (back.dropWhile isDecimalDigit ++ rest.dropWhile (!isBlank ·)) := by
  cases rest with
  | nil => cases cut
  | cons character others =>
    rw [List.takeWhile_cons] at cut
    split at cut
    · rename_i word
      rw [cutAtLength?, any_head?_takeWhile] at cut
      split at cut
      · cases cut
      · split at cut
        · rename_i here
          cases cut
          simp only [Bool.and_eq_true, decide_eq_true_eq] at here
          obtain ⟨rfl, digit⟩ := here
          rw [lengthReadings_slash, if_pos digit, dropWhile_digits]
          rfl
        · cases cut
    · cases cut

/-- Where a word is not cut, no prefix length is read. -/
theorem lengthReadings_of_uncut (uncut : cutAtLength? (rest.takeWhile (!isBlank ·)) = none) :
    (lengthReadings rest).head? = none := by
  cases rest with
  | nil => rfl
  | cons character others =>
    by_cases slash : character = '/'
    · subst slash
      rw [List.takeWhile_cons_of_pos rfl, cutAtLength?, any_head?_takeWhile] at uncut
      rw [lengthReadings_slash]
      split at uncut
      · cases uncut
      · simpa using uncut
    · rw [lengthReadings_of_ne slash]
      rfl

end Word

/-- Of an address and a prefix length the last slash before a digit is taken. -/
theorem addressReadings_head? (characters : List Char) :
    (addressReadings characters).head? =
      (cutAtLength? (characters.takeWhile (!isBlank ·))).bind fun (address, length) =>
        if address.isEmpty then none
        else some (address,
          length.dropWhile isDecimalDigit ++ characters.dropWhile (!isBlank ·)) := by
  induction characters with
  | nil => rfl
  | cons character rest ih =>
    cases blank : isBlank character with
    | true => simp [addressReadings, runs, blank, cutAtLength?]
    | false =>
      have word : (!isBlank character) = true := by rw [blank]; rfl
      rw [addressReadings_cons blank, List.head?_append, List.head?_map, List.head?_map, ih,
        List.takeWhile_cons, if_pos word, List.dropWhile_cons, if_pos word, cutAtLength?]
      cases cut : cutAtLength? (rest.takeWhile (!isBlank ·)) with
      | none =>
        rw [lengthReadings_of_uncut cut]
        show none = (if _ then some ([], _) else none).bind _
        split <;> rfl
      | some pair =>
        obtain ⟨front, back⟩ := pair
        cases front with
        | nil =>
          rw [lengthReadings_of_cut cut]
          rfl
        | cons first others => rfl

/-- **An entry is read in the way that is preferred.** -/
theorem listed?_eq_head? (characters : List Char) :
    listed? characters = (readings characters).head? := by
  rw [readings, keywordReadings_eq, listed?]
  cases after? "inet " characters <|> after? "inet6 " characters with
  | none => rfl
  | some rest =>
    rw [Option.toList_some, List.flatMap_singleton, addressReadings_head?]
    rfl

example : listed? "inet 192.0.2.1/8/24 up".toList =
    some ("192.0.2.1/8".toList, " up".toList) := by decide

end Readings

end HostNet
