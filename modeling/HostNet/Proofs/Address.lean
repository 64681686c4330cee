/-
**How addresses are written.**

An address is read from its front, and nothing may be left in the end; so its text holds nothing but
what the steps of reading pass over. These are hexadecimal digits, dots and colons, and for an
address with its prefix length also the slash before the length and a plus sign.

* `Passes`: a step of reading passes over characters of an address;
* `parse?_written`: the characters of an address;
* `isAddressPrefix_written`: the characters of an address with its prefix length.
-/

import HostNet.Address.Basic

namespace HostNet

open HostNet.Text

/-- A character that an address may be written with. -/
def IsAddressCharacter (character : Char) : Prop :=
  isHexDigit character = true ∨ character = '.' ∨ character = ':'

/-- What comes after some characters of an address. -/
def Passes (characters after : List Char) : Prop :=
  ∃ front, characters = front ++ after ∧ ∀ character ∈ front, IsAddressCharacter character

namespace Passes

variable {characters middle after : List Char}

theorem refl (characters : List Char) : Passes characters characters :=
  ⟨[], rfl, nofun⟩

theorem trans (first : Passes characters middle) (second : Passes middle after) :
    Passes characters after := by
  obtain ⟨front, rfl, each⟩ := first
  obtain ⟨back, rfl, others⟩ := second
  refine ⟨front ++ back, by rw [List.append_assoc], fun character inside => ?_⟩
  exact (List.mem_append.mp inside).elim (each character) (others character)

theorem step {character : Char} (written : IsAddressCharacter character) (after : List Char) :
    Passes (character :: after) after :=
  ⟨[character], rfl, fun other inside => by rwa [List.mem_singleton.mp inside]⟩

/-- If nothing comes after, all characters are those of an address. -/
theorem all (passes : Passes characters []) :
    ∀ character ∈ characters, IsAddressCharacter character := by
  obtain ⟨front, rfl, each⟩ := passes
  rwa [List.append_nil]

end Passes

namespace IpAddr

variable {characters after : List Char}

theorem isHexDigit_of_radixDigit? {radix digit : Nat} {character : Char} (small : radix ≤ 16)
    (read : radixDigit? radix character = some digit) : isHexDigit character = true := by
  obtain ⟨value, within⟩ := Option.filter_eq_some_iff.mp read
  have below : digit < 16 := Nat.lt_of_lt_of_le (of_decide_eq_true within) small
  rw [isHexDigit, radixDigit?, value, Option.filter_some, if_pos (by simpa using below)]
  rfl

theorem spanDigits_passes {radix : Nat} (small : radix ≤ 16) (characters : List Char) :
    Passes characters (spanDigits radix characters).2 := by
  induction characters with
  | nil => exact Passes.refl _
  | cons character rest ih =>
    unfold spanDigits
    split
    · rename_i digit read
      exact (Passes.step (.inl (isHexDigit_of_radixDigit? small read)) rest).trans ih
    · exact Passes.refl _

theorem number?_passes {radix most value : Nat} {zeros : Bool} (small : radix ≤ 16)
    (read : number? radix most zeros characters = some (value, after)) :
    Passes characters after := by
  have passes := spanDigits_passes small characters
  unfold number? at read
  generalize spanDigits radix characters = span at passes read
  dsimp only at read
  split at read
  · cases read
  · split at read
    · cases read
    · cases read
      exact passes

theorem expect?_passes {wanted : Char} (written : IsAddressCharacter wanted)
    (read : expect? wanted characters = some after) : Passes characters after := by
  cases characters with
  | nil => cases read
  | cons character rest =>
    by_cases same : character = wanted
    · rw [expect?, if_pos same] at read
      cases read
      exact same ▸ Passes.step written _
    · rw [expect?, if_neg same] at read
      cases read

theorem moreOctets?_passes {count : Nat} {octets : List Nat}
    (read : moreOctets? count characters = some (octets, after)) : Passes characters after := by
  induction count generalizing characters octets with
  | zero =>
    cases read
    exact Passes.refl _
  | succ count ih =>
    unfold moreOctets? at read
    obtain ⟨behind, dot, read⟩ := Option.bind_eq_some_iff.mp read
    obtain ⟨⟨octet, rest⟩, number, read⟩ := Option.bind_eq_some_iff.mp read
    dsimp only at read
    split at read
    · cases read
    · obtain ⟨⟨others, last⟩, more, read⟩ := Option.bind_eq_some_iff.mp read
      cases read
      exact ((expect?_passes (.inr (.inl rfl)) dot).trans (number?_passes (by decide) number)).trans
        (ih more)

theorem dotted?_passes {octets : List Nat} (read : dotted? characters = some (octets, after)) :
    Passes characters after := by
  unfold dotted? at read
  obtain ⟨⟨octet, rest⟩, number, read⟩ := Option.bind_eq_some_iff.mp read
  dsimp only at read
  split at read
  · cases read
  · obtain ⟨⟨others, last⟩, more, read⟩ := Option.bind_eq_some_iff.mp read
    cases read
    exact (number?_passes (by decide) number).trans (moreOctets?_passes more)

theorem groups_passes (room : Nat) (first : Bool) (characters : List Char) :
    Passes characters (groups room first characters).2.2 := by
  induction room generalizing first characters with
  | zero => exact Passes.refl _
  | succ room ih =>
    have bodyPasses : ∀ rest, (if first then some characters else expect? ':' characters) =
        some rest → Passes characters rest := by
      intro rest found
      split at found
      · cases found
        exact Passes.refl _
      · exact expect?_passes (.inr (.inr rfl)) found
    unfold groups
    dsimp only
    generalize (if first then some characters else expect? ':' characters) = body at bodyPasses
    split
    · rename_i octets after found
      have some : body.bind dotted? = some (octets, after) := by
        split at found
        · cases found
        · exact found
      obtain ⟨rest, here, read⟩ := Option.bind_eq_some_iff.mp some
      exact (bodyPasses rest here).trans (dotted?_passes read)
    · split
      · exact Passes.refl _
      · rename_i group after found
        obtain ⟨rest, here, read⟩ := Option.bind_eq_some_iff.mp found
        exact ((bodyPasses rest here).trans (number?_passes (by decide) read)).trans (ih false after)

theorem grouped?_passes {found : List Nat} (read : grouped? characters = some (found, after)) :
    Passes characters after := by
  have head := groups_passes 8 true characters
  unfold grouped? at read
  generalize groups 8 true characters = parts at head read
  obtain ⟨groupsHead, ended, rest⟩ := parts
  dsimp only at head read
  split at read
  · cases read
    exact head
  · split at read
    · cases read
    · obtain ⟨once, colon, read⟩ := Option.bind_eq_some_iff.mp read
      obtain ⟨twice, colonAgain, read⟩ := Option.bind_eq_some_iff.mp read
      cases read
      exact ((head.trans (expect?_passes (.inr (.inr rfl)) colon)).trans
        (expect?_passes (.inr (.inr rfl)) colonAgain)).trans (groups_passes _ true twice)

/-- **The characters of an address.** -/
theorem parse?_written {text : String} {address : IpAddr} (read : parse? text = some address) :
    ∀ character ∈ text.toList, IsAddressCharacter character := by
  obtain ⟨octets, _, four⟩ | ⟨found, _, six⟩ := parse?_eq_some read
  · unfold parseV4? at four
    split at four
    · rename_i parsed dotted
      exact (dotted?_passes dotted).all
    · cases four
  · unfold parseV6? at six
    split at six
    · rename_i parsed grouped
      exact (grouped?_passes grouped).all
    · cases six

end IpAddr

/-! ### Prefix lengths -/

theorem readNatFrom_written {radix value number : Nat} {digits : List Char} (small : radix ≤ 16)
    (read : readNatFrom radix value digits = some number) :
    ∀ character ∈ digits, isHexDigit character = true := by
  induction digits generalizing value with
  | nil => nofun
  | cons character rest ih =>
    unfold readNatFrom at read
    split at read
    · rename_i digit found
      exact List.forall_mem_cons.mpr ⟨IpAddr.isHexDigit_of_radixDigit? small found, ih read⟩
    · cases read

theorem readNat?_written {radix number : Nat} {digits : List Char} (small : radix ≤ 16)
    (read : readNat? radix digits = some number) :
    ∀ character ∈ digits, isHexDigit character = true := by
  by_cases empty : digits.isEmpty = true
  · rw [readNat?, if_pos empty] at read
    cases read
  · rw [readNat?, if_neg empty] at read
    exact readNatFrom_written small read

theorem prefixLength?_written {digits : List Char} {length : Nat}
    (read : prefixLength? digits = some length) :
    ∀ character ∈ digits, isHexDigit character = true ∨ character = '+' := by
  unfold prefixLength? readBoundedNat? at read
  obtain ⟨number, _⟩ := Option.filter_eq_some_iff.mp read
  have written := readNat?_written (by decide) number
  split at written
  · exact List.forall_mem_cons.mpr ⟨.inr rfl, fun character inside => .inl (written character inside)⟩
  · exact fun character inside => .inl (written character inside)

/-- **The characters of an address with its prefix length.** -/
theorem isAddressPrefix_written {value : String} (accepted : isAddressPrefix value = true) :
    ∀ character ∈ value.toList, IsAddressCharacter character ∨ character = '/' ∨ character = '+' := by
  obtain ⟨address, digits, length, parsed, cut, prefixRead, addressRead, _⟩ :=
    (isAddressPrefix_iff value).mp accepted
  have addressWritten := IpAddr.parse?_written addressRead
  rw [String.toList_ofList] at addressWritten
  rw [(splitOnce?_eq_some cut).1]
  intro character inside
  rw [List.mem_append, List.mem_cons] at inside
  obtain front | slash | back := inside
  · exact .inl (addressWritten character front)
  · exact .inr (.inl slash)
  · exact (prefixLength?_written prefixRead character back).imp .inl .inr

end HostNet
