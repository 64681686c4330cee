/-
**How the shell reads a quoted word.**

The shell reads what stands between double quotes in pieces, run by run, and the value of a piece of
text is the text itself. So a word in double quotes that asks for no value is the text that its
characters stand for, one after the other; and the quoted form of a text is one word, the text
without its line feeds.

* `readQuoted_eq`: the pieces read between double quotes make up the text that stands there;
* `readWord_shellQuoted`: the word read where the quoted form of a text stands.
-/

import HostNet.Proofs.Command.Line

namespace HostNet.Shell

open HostNet.Text

variable {escaped : Char → List Char} {characters text after : List Char}

/-- A run of characters without a meaning between double quotes is read as it is. -/
theorem readQuoted?_run (characters : List Char) :
    readQuoted? escaped characters =
      (readQuoted? escaped (characters.dropWhile (!isEscapable ·))).map fun (text, after) =>
        (characters.takeWhile (!isEscapable ·) ++ text, after) := by
  induction characters with
  | nil => rfl
  | cons character rest ih =>
    cases plain : isEscapable character with
    | true => simp [plain]
    | false =>
      rw [readQuoted?_plain plain, ih]
      simp [plain, Option.map_map, Function.comp_def]

/-- **The pieces read between double quotes make up the text that stands there.** -/
theorem readQuoted_eq (lines : Nat) {fuel : Nat} (enough : characters.length < fuel)
    (read : readQuoted? shellEscaped characters = some (text, after)) :
    ∃ texts : List Octets, readQuoted lines fuel characters = some (texts.map .quoted, after) ∧
      texts.flatten = text := by
  induction fuel generalizing characters text with
  | zero => exact absurd enough (Nat.not_lt_zero _)
  | succ fuel ih =>
    unfold readQuoted? at read
    split at read
    · cases read
    · cases read
      exact ⟨[], by rw [readQuoted.eq_3]; rfl, rfl⟩
    · rename_i character rest
      obtain ⟨⟨inner, others⟩, further, equal⟩ := Option.map_eq_some_iff.mp read
      cases equal
      simp only [List.length_cons] at enough
      obtain ⟨texts, pieces, joined⟩ := ih (by omega) further
      by_cases lineFeed : character = '\n'
      · subst lineFeed
        refine ⟨texts, ?_, joined⟩
        rw [readQuoted]
        exact pieces
      · have kept : shellEscaped character =
            if isEscapable character then [character] else ['\\', character] := if_neg lineFeed
        refine ⟨shellEscaped character :: texts, ?_, by rw [List.flatten_cons, joined]⟩
        rw [readQuoted, pieces, kept]
        · rfl
        · exact lineFeed
    · rename_i character rest noQuote noBackslash
      split at read
      · cases read
      · rename_i noValue
        obtain ⟨⟨inner, others⟩, further, equal⟩ := Option.map_eq_some_iff.mp read
        cases equal
        rw [readQuoted?_run] at further
        obtain ⟨⟨left, others⟩, further, equal⟩ := Option.map_eq_some_iff.mp further
        cases equal
        have shorter := (List.dropWhile_sublist (!isEscapable ·) (l := rest)).length_le
        simp only [List.length_cons] at enough
        obtain ⟨texts, pieces, joined⟩ := ih (by omega) further
        refine ⟨(character :: rest.takeWhile (!isEscapable ·)) :: texts, ?_, ?_⟩
        · rw [readQuoted, if_neg (by simpa using noValue)]
          dsimp only
          rw [pieces]
          · rfl
          · exact noQuote
          · exact fun rest => noBackslash '\n' rest
          · exact noBackslash
        · rw [List.flatten_cons, joined]
          rfl

/-- A word is over where the text ends or a character comes that ends it. -/
theorem readWord_over (lines : Nat) (fuel : Nat) (ended : after.head?.all endsWord = true) :
    readWord lines endsWord (fuel + 1) after = some ([], after) := by
  cases after with
  | nil => rw [readWord]
  | cons first rest =>
    have ends : endsWord first = true := ended
    have other : ∀ mark, endsWord mark = false → first ≠ mark := by
      rintro mark inside rfl
      rw [inside] at ends
      cases ends
    have noBackslash := other '\\' (by decide)
    rw [readWord, if_pos ends]
    · rfl
    · exact fun _ backslash _ => noBackslash backslash
    · exact fun _ _ backslash _ => noBackslash backslash
    · exact other '\'' (by decide)
    · exact other '"' (by decide)

/-- **The word read where the quoted form of a text stands**: pieces of text alone, which together
are the text without its line feeds. -/
theorem readWord_shellQuoted (lines : Nat) (text : String) (ended : after.head?.all endsWord = true)
    {fuel : Nat} (enough : (shellQuoted text).toList.length + after.length < fuel) :
    ∃ texts : List Octets,
      readWord lines endsWord fuel ((shellQuoted text).toList ++ after) =
        some (texts.map .quoted, after) ∧
      texts.flatten = text.toList.filter (· ≠ '\n') := by
  have written : (shellQuoted text).toList ++ after =
      '"' :: (text.toList.flatMap quotedWordCharacter ++ '"' :: after) := by
    rw [toList_shellQuoted]
    simp
  rw [← List.length_append, written, List.length_cons] at enough
  obtain ⟨fuel, rfl⟩ : ∃ less, fuel = less + 2 := ⟨fuel - 2, by omega⟩
  have room : (text.toList.flatMap quotedWordCharacter ++ '"' :: after).length < fuel + 1 := by omega
  obtain ⟨texts, pieces, joined⟩ := readQuoted_eq lines room (readQuoted?_word text.toList after)
  rw [shellEscaped_flatMap] at joined
  refine ⟨if texts.isEmpty then [[]] else texts, ?_, ?_⟩
  · rw [written, readWord, pieces]
    show (readWord lines endsWord (fuel + 1) after).bind _ = _
    rw [readWord_over lines fuel ended]
    cases texts <;> simp
  · rw [← joined]
    cases texts <;> rfl

end HostNet.Shell
