/-
**The addresses of a listing, line by line.**

No way to read an entry passes over a line feed, so that the addresses of a listing are those of its
lines. A line that holds one entry, with what may stand before and after it, has the address of this
entry and no other; so a listing of such lines is counted by their addresses.

* `readings_line`: the entries at the front of a listing are those of its first line;
* `listedAddresses_join`: the addresses of a listing are those of its lines;
* `routable_counted`: how many addresses are counted.
-/

import HostNet.Proofs.Command.Entry
import Mathlib.Algebra.GroupWithZero.Nat
import Mathlib.Data.List.TakeWhile

namespace HostNet

open HostNet.Text

/-! ### Line by line -/

section Lines

variable {inClass : Char → Bool} {characters address others : List Char}

theorem after?_line {text : String} (oneLine : '\n' ∉ text.toList) (front back : List Char) :
    after? text (front ++ '\n' :: back) = (after? text front).map (· ++ '\n' :: back) := by
  refine Option.ext fun after => ?_
  simp only [Option.map_eq_some_iff, after?_eq_some_iff]
  constructor
  · intro whole
    rcases List.append_eq_append_iff.mp whole with ⟨inner, text_, rest⟩ | ⟨inner, front_, rest⟩
    · -- The text goes no further than the line feed, which it does not hold.
      cases inner with
      | nil => exact ⟨[], by rw [text_, List.append_nil, List.append_nil], rest⟩
      | cons character inner =>
        obtain ⟨rfl, _⟩ := List.cons.inj rest
        exact absurd (text_ ▸ List.mem_append_right front List.mem_cons_self) oneLine
    · exact ⟨inner, front_, rest.symm⟩
  · rintro ⟨rest, rfl, rfl⟩
    rw [List.append_assoc]

theorem runs_line (outside : inClass '\n' = false) (front back : List Char) :
    runs inClass (front ++ '\n' :: back) =
      (runs inClass front).map fun (run, after) => (run, after ++ '\n' :: back) := by
  induction front with
  | nil => simp [runs, outside]
  | cons character rest ih =>
    rw [List.cons_append, runs, runs, ih]
    split
    · simp
    · rfl

theorem keywordReadings_line (front back : List Char) :
    keywordReadings (front ++ '\n' :: back) = (keywordReadings front).map (· ++ '\n' :: back) := by
  have digit : ∀ rest, after? "6" (rest ++ '\n' :: back) = (after? "6" rest).map (· ++ '\n' :: back) :=
    fun rest => after?_line (by decide) rest back
  have space : ∀ rest, after? " " (rest ++ '\n' :: back) = (after? " " rest).map (· ++ '\n' :: back) :=
    fun rest => after?_line (by decide) rest back
  rw [keywordReadings, after?_line (by decide)]
  simp only [keywordReadings, Option.toList_map, List.flatMap_map, List.map_flatMap, digit, space,
    List.flatMap_append, List.flatMap_singleton, List.map_append]

theorem lengthReadings_line (front back : List Char) :
    lengthReadings (front ++ '\n' :: back) = (lengthReadings front).map (· ++ '\n' :: back) := by
  have digits : ∀ rest, runs isDecimalDigit (rest ++ '\n' :: back) =
      (runs isDecimalDigit rest).map fun (run, after) => (run, after ++ '\n' :: back) :=
    fun rest => runs_line (by decide) rest back
  rw [lengthReadings, after?_line (by decide)]
  simp only [lengthReadings, Option.toList_map, List.flatMap_map, List.map_flatMap, digits,
    List.map_map, Function.comp_def]

theorem addressReadings_line (front back : List Char) :
    addressReadings (front ++ '\n' :: back) =
      (addressReadings front).map fun (address, after) => (address, after ++ '\n' :: back) := by
  rw [addressReadings, runs_line (by decide)]
  simp only [addressReadings, List.flatMap_map, List.map_flatMap, lengthReadings_line,
    List.map_map, Function.comp_def]

/-- **No way to read an entry passes over a line feed.** -/
theorem readings_line (front back : List Char) :
    readings (front ++ '\n' :: back) =
      (readings front).map fun (address, after) => (address, after ++ '\n' :: back) := by
  rw [readings, keywordReadings_line, List.flatMap_map, readings, List.map_flatMap]
  exact congrArg (List.flatMap · _) (funext fun rest => addressReadings_line rest back)

theorem listed?_line (front back : List Char) :
    listed? (front ++ '\n' :: back) =
      (listed? front).map fun (address, after) => (address, after ++ '\n' :: back) := by
  rw [listed?_eq_head?, listed?_eq_head?, readings_line, List.head?_map]

theorem length_lt_of_listed (found : listed? characters = some (address, others)) :
    others.length < characters.length := by
  rw [listed?_eq_head?] at found
  exact length_lt_of_mem_readings (List.mem_of_head? found)

/-- After an entry the next one is looked for behind it. -/
theorem listedAddresses_of_some (found : listed? characters = some (address, others)) :
    listedAddresses characters = address :: listedAddresses others := by
  cases characters with
  | nil => cases found
  | cons character rest =>
    rw [listedAddresses, found]
    exact if_pos (length_lt_of_listed found)

/-- Where there is no entry, it is looked for at the next character. -/
theorem listedAddresses_of_none {character : Char} {rest : List Char}
    (missing : listed? (character :: rest) = none) :
    listedAddresses (character :: rest) = listedAddresses rest := by
  rw [listedAddresses, missing]

/-- An entry starts with the word for the kind of its address. -/
theorem listed?_of_ne {character : Char} (other : character ≠ 'i') (rest : List Char) :
    listed? (character :: rest) = none := by
  rw [listed?_eq_head?, List.head?_eq_none_iff, List.eq_nil_iff_forall_not_mem]
  rintro ⟨address, after⟩ member
  obtain ⟨_, _, rfl | rfl, whole, _⟩ := mem_readings_iff.mp member
  · exact other (List.cons.inj whole).1
  · exact other (List.cons.inj whole).1

/-- **The addresses of a listing are those of its first line and those of the others.** -/
theorem listedAddresses_line (front back : List Char) :
    listedAddresses (front ++ '\n' :: back) = listedAddresses front ++ listedAddresses back := by
  fun_induction listedAddresses front with
  | case1 => exact listedAddresses_of_none (listed?_of_ne (by decide) back)
  | case2 character rest address others found shorter ih =>
    rw [List.cons_append, List.cons_append, ← ih]
    refine listedAddresses_of_some ?_
    rw [← List.cons_append, listed?_line, found]
    rfl
  | case3 character rest address others found long => exact absurd (length_lt_of_listed found) long
  | case4 character rest missing ih =>
    rw [List.cons_append, ← ih]
    refine listedAddresses_of_none ?_
    rw [← List.cons_append, listed?_line, missing]
    rfl

/-- **The addresses of a listing are those of its lines.** -/
theorem listedAddresses_join (lines : List (List Char)) :
    listedAddresses (join '\n' lines) = lines.flatMap listedAddresses := by
  induction lines with
  | nil => exact listedAddresses.eq_1
  | cons line lines ih =>
    cases lines with
    | nil => rw [join, List.flatMap_singleton]
    | cons next others =>
      rw [join, listedAddresses_line, ih]
      · rfl
      · exact List.cons_ne_nil next others

/-- White space before an entry is passed over. -/
theorem listedAddresses_blank {front : List Char}
    (blank : ∀ character ∈ front, isBlank character = true) (back : List Char) :
    listedAddresses (front ++ back) = listedAddresses back := by
  induction front with
  | nil => rfl
  | cons character rest ih =>
    rw [List.forall_mem_cons] at blank
    have other : character ≠ 'i' := by
      rintro rfl
      exact absurd blank.1 (by decide)
    rw [List.cons_append, listedAddresses_of_none (listed?_of_ne other _), ih blank.2]

/-- Where `inet` does not occur there is no entry. -/
theorem listedAddresses_silent (silent : occursIn "inet".toList characters = false) :
    listedAddresses characters = [] := by
  induction characters with
  | nil => exact listedAddresses.eq_1
  | cons character rest ih =>
    rw [occursIn, Bool.or_eq_false_iff] at silent
    have missing : listed? (character :: rest) = none := by
      rw [listed?_eq_head?, List.head?_eq_none_iff, List.eq_nil_iff_forall_not_mem]
      rintro ⟨address, after⟩ member
      obtain ⟨_, _, rfl | rfl, whole, _⟩ := mem_readings_iff.mp member
      · rw [whole] at silent
        cases silent.1
      · rw [whole] at silent
        cases silent.1
    rw [listedAddresses_of_none missing, ih silent.2]

end Lines

/-! ### Lines of one entry -/

/-- A line of a listing with one entry in it. -/
structure AddressLine where
  indentation : String
  six : Bool
  address : String
  length : String
  /-- What follows the prefix length. -/
  remark : String
  indented : indentation.toList.all isBlank = true := by decide
  filled : address.toList ≠ [] := by decide
  unspaced : address.toList.all (!isBlank ·) = true := by decide
  measured : length.toList ≠ [] := by decide
  decimal : length.toList.all isDecimalDigit = true := by decide
  /-- A remark is set off by white space. -/
  apart : remark.toList.head?.all isBlank = true := by decide
  silent : occursIn "inet".toList remark.toList = false := by decide

namespace AddressLine

/-- The text of a line. -/
def text (line : AddressLine) : String :=
  line.indentation ++ (if line.six then "inet6 " else "inet ") ++ line.address ++ "/" ++ line.length ++
    line.remark

/-- An address that reaches beyond the link. -/
def Routable (line : AddressLine) : Prop :=
  ¬ "169.254.".toList <+: line.address.toList ∧ ¬ "fe80:".toList <+: line.address.toList

instance : DecidablePred Routable := fun _ => inferInstanceAs (Decidable (_ ∧ _))

variable (line : AddressLine)

theorem isDecimalDigit_of_mem {character : Char} (inside : character ∈ line.length.toList) :
    isDecimalDigit character = true :=
  List.all_eq_true.mp line.decimal character inside

theorem noSlash_length : '/' ∉ line.length.toList := fun slash =>
  absurd (line.isDecimalDigit_of_mem slash) (by decide)

theorem length_starts : line.length.toList.head?.any isDecimalDigit = true := by
  obtain ⟨digit, others, characters⟩ := List.exists_cons_of_ne_nil line.measured
  rw [characters]
  exact line.isDecimalDigit_of_mem (by simp [characters])

/-- The address with its prefix length is one word. -/
theorem word :
    (line.address.toList ++ '/' :: (line.length.toList ++ line.remark.toList)).takeWhile
        (!isBlank ·) = line.address.toList ++ '/' :: line.length.toList ∧
    (line.address.toList ++ '/' :: (line.length.toList ++ line.remark.toList)).dropWhile
        (!isBlank ·) = line.remark.toList := by
  have whole : line.address.toList ++ '/' :: (line.length.toList ++ line.remark.toList) =
      (line.address.toList ++ '/' :: line.length.toList) ++ line.remark.toList := by simp
  rw [whole]
  refine run_append (fun character inside => ?_) fun character first => ?_
  · rw [List.mem_append, List.mem_cons] at inside
    rcases inside with inside | rfl | inside
    · exact List.all_eq_true.mp line.unspaced character inside
    · rfl
    · rw [isBlank_of_isDecimalDigit (line.isDecimalDigit_of_mem inside)]
      rfl
  · have blank := line.apart
    rw [Option.mem_def.mp first] at blank
    simpa using blank

theorem keyword_read (six : Bool) (rest : List Char) :
    (after? "inet " ((if six then "inet6 " else "inet ").toList ++ rest) <|>
      after? "inet6 " ((if six then "inet6 " else "inet ").toList ++ rest)) = some rest := by
  cases six <;> rfl

/-- The entry of a line is read with its own address. -/
theorem listed?_entry :
    listed? ((if line.six then "inet6 " else "inet ").toList ++
        (line.address.toList ++ '/' :: (line.length.toList ++ line.remark.toList))) =
      some (line.address.toList, line.remark.toList) := by
  have digits : line.length.toList.dropWhile isDecimalDigit = [] :=
    List.dropWhile_eq_nil_iff.mpr fun _ => line.isDecimalDigit_of_mem
  have filled : line.address.toList.isEmpty = false := List.isEmpty_eq_false_iff.mpr line.filled
  rw [listed?, keyword_read]
  show (cutAtLength? (List.takeWhile _ _)).bind _ = _
  rw [line.word.1, line.word.2, cutAtLength?_last _ line.noSlash_length line.length_starts]
  show (if line.address.toList.isEmpty then none else _) = _
  rw [filled, digits]
  rfl

/-- The only address of a line is that of its entry. -/
theorem listedAddresses_text : listedAddresses line.text.toList = [line.address.toList] := by
  have written : line.text.toList = line.indentation.toList ++
      ((if line.six then "inet6 " else "inet ").toList ++
        (line.address.toList ++ '/' :: (line.length.toList ++ line.remark.toList))) := by
    simp [text]
  rw [written, listedAddresses_blank (List.all_eq_true.mp line.indented), listedAddresses_of_some line.listed?_entry,
    listedAddresses_silent line.silent]

theorem isLinkLocal_iff : isLinkLocal line.address.toList = false ↔ line.Routable := by
  rw [isLinkLocal, Bool.or_eq_false_iff, startsWith, startsWith, ← Bool.not_eq_true,
    ← Bool.not_eq_true, List.isPrefixOf_iff_prefix, List.isPrefixOf_iff_prefix]
  exact Iff.rfl

end AddressLine

/-- **How many addresses of a listing reach beyond the link.** They are counted line by line; and in
a listing with one entry in each line they are those that start with neither `169.254.` nor
`fe80:`. -/
theorem routable_counted :
    (∀ front back, countRoutable (front ++ "\n" ++ back) =
      countRoutable front + countRoutable back) ∧
    (∀ listing : String, countRoutable listing =
      ((split '\n' listing.toList).map fun line => countRoutable (String.ofList line)).sum) ∧
    ∀ lines : List AddressLine, countRoutable (joinWith "\n" (lines.map AddressLine.text)) =
      (lines.filter fun line => line.Routable).length := by
  refine ⟨fun front back => ?_, fun listing => ?_, fun lines => ?_⟩
  · have lined : (front ++ "\n" ++ back).toList = front.toList ++ '\n' :: back.toList := by simp
    rw [countRoutable, lined, listedAddresses_line, List.filter_append, List.length_append]
    rfl
  · have lined := listedAddresses_join (split '\n' listing.toList)
    rw [join_split] at lined
    rw [countRoutable, lined, List.filter_flatMap, List.length_flatMap]
    simp only [countRoutable, String.toList_ofList]
  · have addresses : listedAddresses (joinWith "\n" (lines.map AddressLine.text)).toList =
        lines.map (·.address.toList) := by
      show listedAddresses (joinWith (String.singleton '\n') _).toList = _
      rw [toList_joinWith, listedAddresses_join, List.map_map, List.flatMap_map]
      simp only [Function.comp, AddressLine.listedAddresses_text]
      exact List.map_eq_flatMap.symm
    rw [countRoutable, addresses, List.filter_map, List.length_map]
    congr 1
    refine List.filter_congr fun line _ => ?_
    rw [Bool.eq_iff_iff, decide_eq_true_iff, ← line.isLinkLocal_iff]
    simp

/-- An address that a device gave itself. -/
def ownAddress : AddressLine where
  indentation := "    "
  six := false
  address := "169.254.10.20"
  length := "16"
  remark := " brd 169.254.255.255 scope link eth0"

/-- An address that reaches beyond the link, in a line without a remark. -/
def globalAddress : AddressLine where
  indentation := "\t"
  six := true
  address := "2001:db8::a8bb:ccff:fedd:eeff"
  length := "64"
  remark := ""

theorem twoAddresses_counted :
    countRoutable ("    inet 169.254.10.20/16 brd 169.254.255.255 scope link eth0\n" ++
      "\tinet6 2001:db8::a8bb:ccff:fedd:eeff/64") = 1 :=
  routable_counted.2.2 [ownAddress, globalAddress]

end HostNet
