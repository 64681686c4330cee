/-
**The notation of an address with its prefix length.**

An address, one slash, and a numeral in ASCII digits whose value does not exceed the width of the
address: the notation of a destination as it goes into a unit. The check accepts this notation, and
one more: a plus sign may stand before the numeral.

* `readNatFrom_eq_some_iff`: a numeral is read exactly if it is all digits, and as the number that it
  denotes;
* `prefixLength?_eq_some_iff`: what is read as a prefix length;
* `isAddressPrefix_iff_prefixText`: what the check accepts, with the sign and without.
-/

import HostNet.Proofs.Address
import HostNet.Proofs.Text.Pieces

namespace HostNet

open HostNet.Text

/-! ### Numerals -/

section Numeral

variable {value number digit length : Nat} {character : Char} {digits : List Char}

theorem radixDigit?_ten_eq_some_iff :
    radixDigit? 10 character = some digit ↔
      character.isDigit = true ∧ digit = character.toNat - 48 := by
  have order : ∀ first second : Char, first ≤ second ↔ first.toNat ≤ second.toNat :=
    fun _ _ => Iff.rfl
  have ascii : character.isDigit = true ↔ 48 ≤ character.toNat ∧ character.toNat ≤ 57 := by
    rw [Char.isDigit, Bool.and_eq_true, decide_eq_true_eq, decide_eq_true_eq]
    exact Iff.rfl
  rw [ascii, radixDigit?, Option.filter_eq_some_iff, decide_eq_true_eq]
  simp only [digitValue?, order, Char.reduceToNat]
  by_cases decimal : 48 ≤ character.toNat ∧ character.toNat ≤ 57
  · rw [if_pos decimal, Option.some_inj]
    omega
  -- A letter is a digit too, but of no radix as small as ten.
  · rw [if_neg decimal]
    split
    · rw [Option.some_inj]
      omega
    · split
      · rw [Option.some_inj]
        omega
      · simp [decimal]

/-- A numeral is read exactly if it is all digits, and as the number that it denotes. -/
theorem readNatFrom_eq_some_iff :
    readNatFrom 10 value digits = some number ↔
      (∀ character ∈ digits, character.isDigit = true) ∧
        Nat.ofDigitChars 10 digits value = number := by
  induction digits generalizing value with
  | nil => simp [readNatFrom]
  | cons character rest ih =>
    rw [readNatFrom, List.forall_mem_cons, Nat.ofDigitChars_cons]
    cases read : radixDigit? 10 character with
    | none =>
      have noDigit : ¬ character.isDigit = true := fun digit => by
        rw [radixDigit?_ten_eq_some_iff.mpr ⟨digit, rfl⟩] at read
        cases read
      simp [noDigit]
    | some digit =>
      obtain ⟨isDigit, rfl⟩ := radixDigit?_ten_eq_some_iff.mp read
      show readNatFrom 10 (value * 10 + (character.toNat - 48)) rest = some number ↔ _
      rw [ih, Nat.mul_comm value 10]
      simp [isDigit]

/-- What is read as a number below a bound. -/
theorem readNat?_filter_eq_some_iff {bound : Nat} :
    (readNat? 10 digits).filter (· < bound) = some number ↔
      digits ≠ [] ∧ (∀ character ∈ digits, character.isDigit = true) ∧
        Nat.ofDigitChars 10 digits 0 = number ∧ number < bound := by
  rw [Option.filter_eq_some_iff, decide_eq_true_eq, readNat?]
  cases digits with
  | nil => simp
  | cons character rest =>
    show readNatFrom 10 0 (character :: rest) = some number ∧ number < bound ↔ _
    rw [readNatFrom_eq_some_iff, and_assoc]
    simp

/-- What is read as a prefix length: a numeral below 256, with a plus sign before it or without. -/
theorem prefixLength?_eq_some_iff :
    prefixLength? digits = some length ↔
      ∃ sign numeral, digits = sign ++ numeral ∧ (sign = [] ∨ sign = ['+']) ∧ numeral ≠ [] ∧
        (∀ character ∈ numeral, character.isDigit = true) ∧
        Nat.ofDigitChars 10 numeral 0 = length ∧ length < 256 := by
  unfold prefixLength? readBoundedNat?
  constructor
  · intro read
    split at read
    · rename_i rest
      exact ⟨['+'], rest, rfl, .inr rfl, readNat?_filter_eq_some_iff.mp read⟩
    · exact ⟨[], digits, rfl, .inl rfl, readNat?_filter_eq_some_iff.mp read⟩
  · rintro ⟨sign, numeral, rfl, rfl | rfl, denoted⟩
    · rw [List.nil_append]
      split
      · -- A plus sign is no digit, so that a numeral does not start with one.
        exact absurd (denoted.2.1 '+' List.mem_cons_self) (by decide)
      · exact readNat?_filter_eq_some_iff.mpr denoted
    · exact readNat?_filter_eq_some_iff.mpr denoted

end Numeral

/-! ### The notation -/

/-- An address, a slash, a sign, and a numeral that does not exceed the width of the address. The
sign is the empty text in the notation proper. -/
def PrefixText (sign value : String) : Prop :=
  ∃ (address numeral : String) (parsed : IpAddr), value = address ++ "/" ++ sign ++ numeral ∧
    IpAddr.parse? address = some parsed ∧ numeral ≠ "" ∧
    (∀ character ∈ numeral.toList, character.isDigit = true) ∧
    Nat.ofDigitChars 10 numeral.toList 0 ≤ parsed.width

theorem IpAddr.width_le (address : IpAddr) : address.width ≤ 128 := by
  cases address with
  | v4 octets => exact Nat.le_of_ble_eq_true rfl
  | v6 groups => exact Nat.le_refl 128

/-- There is neither a slash nor a plus sign in an address. -/
theorem IpAddr.parse?_marks {address : String} {parsed : IpAddr}
    (read : IpAddr.parse? address = some parsed) :
    '/' ∉ address.toList ∧ '+' ∉ address.toList := by
  have written := IpAddr.parse?_written read
  refine ⟨fun slash => ?_, fun plus => ?_⟩
  · exact absurd (written '/' slash) (by unfold IsAddressCharacter; decide)
  · exact absurd (written '+' plus) (by unfold IsAddressCharacter; decide)

namespace PrefixText

variable {sign value : String}

/-- Without a sign there is no plus sign anywhere. -/
theorem plus_notMem (written : PrefixText "" value) : '+' ∉ value.toList := by
  obtain ⟨address, numeral, parsed, rfl, read, _, decimal, _⟩ := written
  simp only [String.toList_append, List.mem_append, not_or]
  refine ⟨⟨⟨(IpAddr.parse?_marks read).2, by decide⟩, by decide⟩, fun inside => ?_⟩
  exact absurd (decimal '+' inside) (by decide)

/-- With a plus sign there is one. -/
theorem plus_mem (written : PrefixText "+" value) : '+' ∈ value.toList := by
  obtain ⟨address, numeral, parsed, rfl, _⟩ := written
  simp

/-- The check accepts the text. -/
theorem accepted (written : PrefixText sign value) (signs : sign = "" ∨ sign = "+") :
    isAddressPrefix value = true := by
  obtain ⟨address, numeral, parsed, rfl, read, filled, decimal, within⟩ := written
  have cut : splitOnce? '/' (address ++ "/" ++ sign ++ numeral).toList =
      some (address.toList, sign.toList ++ numeral.toList) := by
    rw [← splitOnce?_append (IpAddr.parse?_marks read).1]
    simp
  have length : prefixLength? (sign.toList ++ numeral.toList) =
      some (Nat.ofDigitChars 10 numeral.toList 0) := by
    refine prefixLength?_eq_some_iff.mpr ⟨sign.toList, numeral.toList, rfl, ?_, ?_, decimal, rfl, ?_⟩
    · exact signs.imp (fun none => by rw [none]; rfl) (fun plus => by rw [plus]; rfl)
    · rwa [Ne, String.toList_eq_nil_iff]
    · have narrow := parsed.width_le
      omega
  exact (isAddressPrefix_iff _).mpr ⟨address.toList, _, _, parsed, cut, length,
    by rwa [String.ofList_toList], within⟩

end PrefixText

/-- What the check accepts is written with a plus sign or without. -/
theorem exists_prefixText {value : String} (accepted : isAddressPrefix value = true) :
    ∃ sign, (sign = "" ∨ sign = "+") ∧ PrefixText sign value := by
  obtain ⟨address, digits, length, parsed, cut, measured, read, within⟩ :=
    (isAddressPrefix_iff value).mp accepted
  obtain ⟨sign, numeral, rfl, signs, filled, decimal, rfl, _⟩ := prefixLength?_eq_some_iff.mp measured
  refine ⟨String.ofList sign, ?_, String.ofList address, String.ofList numeral, parsed, ?_, read, ?_⟩
  · exact signs.imp (congrArg String.ofList) (congrArg String.ofList)
  · refine String.toList_inj.mp ?_
    rw [(splitOnce?_eq_some cut).1]
    simp
  · rw [String.toList_ofList]
    exact ⟨fun empty => filled (by simpa using empty), decimal, within⟩

/-- **What the check accepts as an address with its prefix length.** These are the texts of an
address, a slash, and a numeral in ASCII digits that does not exceed the width of the address, and
those with a plus sign before the numeral; the former are the ones that hold no plus sign. -/
theorem isAddressPrefix_iff_prefixText (value : String) :
    (isAddressPrefix value = true ↔ PrefixText "" value ∨ PrefixText "+" value) ∧
      (PrefixText "" value ↔ isAddressPrefix value = true ∧ '+' ∉ value.toList) := by
  refine ⟨⟨fun accepted => ?_, ?_⟩, fun written => ?_, fun ⟨accepted, free⟩ => ?_⟩
  · obtain ⟨sign, rfl | rfl, written⟩ := exists_prefixText accepted
    · exact .inl written
    · exact .inr written
  · rintro (written | written)
    · exact written.accepted (.inl rfl)
    · exact written.accepted (.inr rfl)
  · exact ⟨written.accepted (.inl rfl), written.plus_notMem⟩
  · obtain ⟨sign, rfl | rfl, written⟩ := exists_prefixText accepted
    · exact written
    · exact absurd written.plus_mem free

/-- A length with a plus sign passes the check, which is outside of the notation. -/
theorem signedLength_accepted :
    isAddressPrefix "192.0.2.1/+24" = true ∧ ¬ PrefixText "" "192.0.2.1/+24" := by
  refine ⟨by decide, fun written => ?_⟩
  exact absurd written.plus_notMem (by decide)

end HostNet
