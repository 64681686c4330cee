/-
**Hardware addresses.**

A hardware address is written as six octets of two hexadecimal digits with colons between them, in
either case. A network card is named after its address: `en` and the twelve digits in lower case.

* `key_key`: the form in lower case is its own form;
* `deviceName_key`: letter case does not show in a device name.
-/

import HostNet.Text.Digit
import HostNet.Text.Pieces

namespace HostNet.Hwaddr

open HostNet.Text

/-- Two hexadecimal digits. -/
def isOctet (piece : List Char) : Bool :=
  piece.length == 2 && piece.all isHexDigit

/-- Six octets with colons between them. -/
def isWellFormed (hwaddr : String) : Bool :=
  let pieces := split ':' hwaddr.toList
  pieces.length == 6 && pieces.all isOctet

/-- A hardware address in lower case; two addresses are the same card if their keys agree. -/
def key (hwaddr : String) : String :=
  String.ofList (hwaddr.toList.map Char.toLower)

/-- The device name of the card with a hardware address. -/
def deviceName (hwaddr : String) : String :=
  "en" ++ String.ofList ((hwaddr.toList.filter (· ≠ ':')).map Char.toLower)

/-- A character in lower case is its own lower case. -/
theorem toLower_toLower (character : Char) : character.toLower.toLower = character.toLower := by
  unfold Char.toLower
  split
  · rename_i upper
    split
    · rename_i again
      exfalso
      simp only [ge_iff_le, UInt32.le_iff_toNat_le] at upper again
      have bound : (character.val + ('a'.val - 'A'.val)).toNat = character.val.toNat + 32 := by
        rw [UInt32.toNat_add]
        have : ('a'.val - 'A'.val : UInt32).toNat = 32 := rfl
        rw [this]
        have high : character.val.toNat ≤ 90 := upper.2
        omega
      have high : (character.val + ('a'.val - 'A'.val)).toNat ≤ 90 := again.2
      have low : 65 ≤ character.val.toNat := upper.1
      omega
    · rfl
  · rfl

/-- Only the colon has the colon as its lower case. -/
theorem toLower_eq_colon (character : Char) : character.toLower = ':' ↔ character = ':' := by
  unfold Char.toLower
  split
  · rename_i upper
    constructor
    · intro same
      exfalso
      have codes := congrArg (fun other : Char => other.val.toNat) same
      have bound : (character.val + ('a'.val - 'A'.val)).toNat = character.val.toNat + 32 := by
        rw [UInt32.toNat_add]
        have : ('a'.val - 'A'.val : UInt32).toNat = 32 := rfl
        rw [this]
        have high : character.val.toNat ≤ 90 := UInt32.le_iff_toNat_le.mp upper.2
        omega
      have colon : (':' : Char).val.toNat = 58 := rfl
      have low : 65 ≤ character.val.toNat := UInt32.le_iff_toNat_le.mp upper.1
      simp only at codes
      omega
    · rintro rfl
      exact absurd upper (by decide)
  · exact Iff.rfl

/-- Letter case does not show in a device name. -/
theorem deviceName_key (hwaddr : String) : deviceName (key hwaddr) = deviceName hwaddr := by
  have filtered : ∀ list : List Char,
      ((list.map Char.toLower).filter (· ≠ ':')).map Char.toLower =
        (list.filter (· ≠ ':')).map Char.toLower := by
    intro list
    induction list with
    | nil => rfl
    | cons character rest ih =>
      by_cases colon : character = ':'
      · simp only [List.map_cons, List.filter_cons, colon]
        simpa using ih
      · have lower : character.toLower ≠ ':' := fun same =>
          colon ((toLower_eq_colon character).mp same)
        simp only [List.map_cons, List.filter_cons, colon, lower, ne_eq, not_false_eq_true,
          decide_true, if_true, toLower_toLower]
        rw [ih]
  simp only [deviceName, key, String.toList_ofList, filtered]

/-- The form in lower case is its own form. -/
theorem key_key (hwaddr : String) : key (key hwaddr) = key hwaddr := by
  simp only [key, String.toList_ofList, List.map_map]
  congr 2
  funext character
  exact toLower_toLower character

end HostNet.Hwaddr
