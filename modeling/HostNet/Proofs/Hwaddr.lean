/-
**What a well-formed hardware address is, and what its device name tells.**

* `isWellFormed_iff`: the check accepts six octets of two hexadecimal digits with colons between
  them, and nothing else;
* `isWellFormed_key`: letter case does not matter to it;
* `deviceName_injective`: cards with different addresses have different device names.
-/

import HostNet.Hwaddr
import HostNet.Proofs.Text.Pieces
import Mathlib.Data.String.Basic

namespace HostNet.Text

/-- A hexadecimal digit in either letter case. -/
def IsHexadecimal (character : Char) : Prop :=
  ('0' ≤ character ∧ character ≤ '9') ∨ ('a' ≤ character ∧ character ≤ 'f') ∨
    ('A' ≤ character ∧ character ≤ 'F')

theorem isHexadecimal_iff_toNat (character : Char) :
    IsHexadecimal character ↔
      (48 ≤ character.toNat ∧ character.toNat ≤ 57) ∨
        (97 ≤ character.toNat ∧ character.toNat ≤ 102) ∨
          (65 ≤ character.toNat ∧ character.toNat ≤ 70) := Iff.rfl

theorem isHexDigit_iff (character : Char) :
    isHexDigit character = true ↔ IsHexadecimal character := by
  have order : ∀ first second : Char, first ≤ second ↔ first.toNat ≤ second.toNat :=
    fun _ _ => Iff.rfl
  rw [isHexadecimal_iff_toNat]
  simp only [isHexDigit, radixDigit?, digitValue?, order, Char.reduceToNat]
  by_cases decimal : 48 ≤ character.toNat ∧ character.toNat ≤ 57
  · rw [if_pos decimal]
    simp [decimal, Option.filter]
    omega
  · by_cases small : 97 ≤ character.toNat ∧ character.toNat ≤ 122
    · rw [if_neg decimal, if_pos small]
      simp [Option.filter]
      omega
    · by_cases capital : 65 ≤ character.toNat ∧ character.toNat ≤ 90
      · rw [if_neg decimal, if_neg small, if_pos capital]
        simp [Option.filter]
        omega
      · rw [if_neg decimal, if_neg small, if_neg capital]
        simp
        omega

theorem toNat_toLower (character : Char) :
    character.toLower.toNat =
      if 65 ≤ character.toNat ∧ character.toNat ≤ 90 then character.toNat + 32
      else character.toNat := by
  have codes : (character.val ≥ 'A'.val ∧ character.val ≤ 'Z'.val) ↔
      (65 ≤ character.toNat ∧ character.toNat ≤ 90) := Iff.rfl
  unfold Char.toLower
  by_cases upper : 65 ≤ character.toNat ∧ character.toNat ≤ 90
  · rw [if_pos upper, dif_pos (codes.mpr upper)]
    show (character.val + ('a'.val - 'A'.val)).toNat = character.val.toNat + 32
    have distance : ('a'.val - 'A'.val : UInt32).toNat = 32 := rfl
    have bound : character.val.toNat ≤ 90 := upper.2
    rw [UInt32.toNat_add, distance]
    omega
  · rw [if_neg upper, dif_neg fun other => upper (codes.mp other)]

theorem isHexDigit_toLower (character : Char) :
    isHexDigit character.toLower = isHexDigit character := by
  rw [Bool.eq_iff_iff, isHexDigit_iff, isHexDigit_iff, isHexadecimal_iff_toNat,
    isHexadecimal_iff_toNat, toNat_toLower]
  split <;> omega

end HostNet.Text

namespace HostNet.Hwaddr

open HostNet.Text

/-! ### Well-formed addresses -/

/-- Six octets of two hexadecimal digits with colons between them. -/
def Formed (hwaddr : String) : Prop :=
  ∃ octets : List (List Char), octets.length = 6 ∧
    (∀ octet ∈ octets, octet.length = 2 ∧ ∀ digit ∈ octet, IsHexadecimal digit) ∧
      hwaddr.toList = join ':' octets

theorem isOctet_iff (piece : List Char) :
    isOctet piece = true ↔ piece.length = 2 ∧ ∀ digit ∈ piece, IsHexadecimal digit := by
  simp [isOctet, isHexDigit_iff]

theorem ne_colon_of_isHexadecimal {digit : Char} (hexadecimal : IsHexadecimal digit) :
    digit ≠ ':' := by
  rintro rfl
  revert hexadecimal
  rw [isHexadecimal_iff_toNat]
  decide

/-- **The check accepts six octets with colons between them, and nothing else.** -/
theorem isWellFormed_iff (hwaddr : String) : isWellFormed hwaddr = true ↔ Formed hwaddr := by
  simp only [isWellFormed, Bool.and_eq_true, beq_iff_eq, List.all_eq_true, isOctet_iff]
  constructor
  · rintro ⟨count, each⟩
    exact ⟨split ':' hwaddr.toList, count, each, (join_split ':' hwaddr.toList).symm⟩
  · rintro ⟨octets, count, each, written⟩
    have free : ∀ octet ∈ octets, ':' ∉ octet := fun octet member colon =>
      ne_colon_of_isHexadecimal ((each octet member).2 ':' colon) rfl
    have filled : octets ≠ [] := by
      rintro rfl
      cases count
    rw [written, split_join filled free]
    exact ⟨count, each⟩

/-- A well-formed address is written with hexadecimal digits and colons. -/
theorem Formed.mem {hwaddr : String} (formed : Formed hwaddr) {character : Char}
    (inside : character ∈ hwaddr.toList) : isHexDigit character = true ∨ character = ':' := by
  obtain ⟨octets, _, each, written⟩ := formed
  rw [written] at inside
  obtain same | ⟨octet, member, there⟩ := mem_join inside
  · exact .inr same
  · exact .inl ((isHexDigit_iff character).mpr ((each octet member).2 character there))

/-! ### Letter case -/

theorem toList_key (hwaddr : String) : (key hwaddr).toList = hwaddr.toList.map Char.toLower := by
  simp [key]

/-- Letter case does not matter to the check. -/
theorem isWellFormed_key (hwaddr : String) : isWellFormed (key hwaddr) = isWellFormed hwaddr := by
  have lowered : ∀ piece : List Char, isOctet (piece.map Char.toLower) = isOctet piece := by
    intro piece
    simp only [isOctet, List.length_map, List.all_map]
    congr 2
    funext digit
    exact isHexDigit_toLower digit
  unfold isWellFormed
  rw [toList_key, split_map toLower_eq_colon]
  simp only [List.length_map, List.all_map]
  congr 2
  funext piece
  exact lowered piece

/-- An address that is the same card as a well-formed one is well-formed. -/
theorem Formed.of_key_eq {hwaddr other : String} (formed : Formed hwaddr)
    (same : key other = key hwaddr) : Formed other := by
  rw [← isWellFormed_iff, ← isWellFormed_key, same, isWellFormed_key, isWellFormed_iff]
  exact formed

/-! ### Device names -/

/-- Lists of pairs that come to the same list are the same. -/
theorem eq_of_flatten_eq {pairs others : List (List Char)}
    (two : ∀ pair ∈ pairs, pair.length = 2) (twoOthers : ∀ pair ∈ others, pair.length = 2)
    (same : pairs.flatten = others.flatten) : pairs = others := by
  induction pairs generalizing others with
  | nil =>
    cases others with
    | nil => rfl
    | cons other others =>
      have length := congrArg List.length same
      have filled := twoOthers other List.mem_cons_self
      simp only [List.flatten_nil, List.flatten_cons, List.length_append, List.length_nil] at length
      omega
  | cons pair pairs ih =>
    cases others with
    | nil =>
      have length := congrArg List.length same
      have filled := two pair List.mem_cons_self
      simp only [List.flatten_nil, List.flatten_cons, List.length_append, List.length_nil] at length
      omega
    | cons other others =>
      have lengths : pair.length = other.length :=
        (two pair List.mem_cons_self).trans (twoOthers other List.mem_cons_self).symm
      obtain ⟨first, later⟩ := List.append_inj same lengths
      rw [first, ih (fun pair member => two pair (List.mem_cons_of_mem _ member))
        (fun pair member => twoOthers pair (List.mem_cons_of_mem _ member)) later]

/-- Six octets have twelve digits. -/
theorem length_flatten_octets {octets : List (List Char)} (six : octets.length = 6)
    (two : ∀ octet ∈ octets, octet.length = 2) : octets.flatten.length = 12 := by
  rw [List.length_flatten, List.map_congr_left two, List.map_const', six]
  rfl

theorem filter_join {octets : List (List Char)} (free : ∀ octet ∈ octets, ':' ∉ octet) :
    (join ':' octets).filter (· ≠ ':') = octets.flatten := by
  have keep : ∀ octet : List Char, ':' ∉ octet → octet.filter (· ≠ ':') = octet := by
    intro octet absent
    rw [List.filter_eq_self]
    intro character member
    simp only [ne_eq, decide_not, Bool.not_eq_eq_eq_not, Bool.not_true, decide_eq_false_iff_not]
    rintro rfl
    exact absent member
  induction octets with
  | nil => rfl
  | cons octet octets ih =>
    have first := keep octet (free octet List.mem_cons_self)
    have later := ih fun other member => free other (List.mem_cons_of_mem octet member)
    cases octets with
    | nil =>
      rw [join, first]
      simp
    | cons next others =>
      rw [join, List.filter_append, first, List.filter_cons_of_neg (by simp), later]
      · rfl
      · exact List.cons_ne_nil next others

theorem map_join (octets : List (List Char)) :
    (join ':' octets).map Char.toLower = join ':' (octets.map (·.map Char.toLower)) := by
  induction octets with
  | nil => rfl
  | cons octet octets ih =>
    cases octets with
    | nil => rfl
    | cons next others =>
      have colon : Char.toLower ':' = ':' := (toLower_eq_colon ':').mpr rfl
      rw [join, List.map_append, List.map_cons, colon, ih]
      · rfl
      · simp

/-- Two spellings of one address give one device name. -/
theorem deviceName_eq_of_key_eq {first second : String} (same : key first = key second) :
    deviceName first = deviceName second := by
  rw [← deviceName_key, same, deviceName_key]

/-- The digits in the device name of a well-formed address. -/
theorem exists_deviceName_eq {hwaddr : String} (formed : Formed hwaddr) :
    ∃ octets : List (List Char), octets.length = 6 ∧ (∀ octet ∈ octets, octet.length = 2) ∧
      (key hwaddr).toList = join ':' octets ∧
        deviceName hwaddr = "en" ++ String.ofList octets.flatten := by
  obtain ⟨octets, count, each, written⟩ := formed
  have free : ∀ octet ∈ octets, ':' ∉ octet := fun octet member colon =>
    ne_colon_of_isHexadecimal ((each octet member).2 ':' colon) rfl
  refine ⟨octets.map (·.map Char.toLower), by simp [count], ?_, ?_, ?_⟩
  · intro octet member
    obtain ⟨original, inside, rfl⟩ := List.mem_map.mp member
    rw [List.length_map]
    exact (each original inside).1
  · rw [toList_key, written, map_join]
  · rw [deviceName, written, filter_join free, List.map_flatten]

/-- **Cards with different addresses have different device names.** -/
theorem deviceName_injective {first second : String} (formed : Formed first)
    (formedSecond : Formed second) (same : deviceName first = deviceName second) :
    key first = key second := by
  obtain ⟨octets, _, two, written, named⟩ := exists_deviceName_eq formed
  obtain ⟨others, _, twoOthers, writtenSecond, namedSecond⟩ := exists_deviceName_eq formedSecond
  rw [named, namedSecond] at same
  have digits : octets.flatten = others.flatten := by
    have characters := congrArg String.toList same
    simpa using characters
  apply String.toList_injective
  rw [written, writtenSecond, eq_of_flatten_eq two twoOthers digits]

/-- The device name of a card is written with two letters and hexadecimal digits. -/
theorem Formed.mem_deviceName {hwaddr : String} (formed : Formed hwaddr) {character : Char}
    (inside : character ∈ (deviceName hwaddr).toList) :
    isHexDigit character = true ∨ character ∈ ['e', 'n'] := by
  rw [deviceName, String.toList_append, List.mem_append] at inside
  obtain tag | lowered := inside
  · exact .inr tag
  · rw [String.toList_ofList] at lowered
    obtain ⟨original, kept, rfl⟩ := List.mem_map.mp lowered
    obtain ⟨there, noColon⟩ := List.mem_filter.mp kept
    rw [isHexDigit_toLower]
    exact .inl ((formed.mem there).resolve_right (by simpa using noColon))

/-- The device name of a card is short. -/
theorem Formed.utf8ByteSize_deviceName_le {hwaddr : String} (formed : Formed hwaddr) :
    (deviceName hwaddr).utf8ByteSize ≤ 50 := by
  obtain ⟨octets, six, two, _, named⟩ := exists_deviceName_eq formed
  have few : ∀ characters : List Char,
      (String.ofList characters).utf8ByteSize ≤ 4 * characters.length := by
    intro characters
    rw [String.utf8ByteSize_ofList]
    induction characters with
    | nil => exact Nat.le_refl _
    | cons character characters ih =>
      have size := character.utf8Size_le_four
      rw [String.utf8Len_cons, List.length_cons]
      omega
  have twelve := length_flatten_octets six two
  have tag : "en".utf8ByteSize = 2 := by decide
  have size := few octets.flatten
  rw [named, String.utf8ByteSize_append, tag]
  omega

end HostNet.Hwaddr
