/-
**Digits.**

Two notions of digit: the decimal digits of all scripts (the Unicode category `Nd`), which come in
runs of ten from a zero, and the digits of a radix written in ASCII.

* `isDecimalDigit_of_isDigit`: the ASCII digits are decimal digits;
* `readNatFrom_append`: reading a longer numeral continues reading its front.
-/

namespace HostNet.Text

/-- The zeros of the runs of ten decimal digits. -/
def decimalZeros : List Nat := [
  0x30, 0x660, 0x6F0, 0x7C0, 0x966, 0x9E6, 0xA66, 0xAE6, 0xB66, 0xBE6, 0xC66, 0xCE6, 0xD66,
   0xDE6, 0xE50, 0xED0, 0xF20, 0x1040, 0x1090, 0x17E0, 0x1810, 0x1946, 0x19D0, 0x1A80, 0x1A90,
   0x1B50, 0x1BB0, 0x1C40, 0x1C50, 0xA620, 0xA8D0, 0xA900, 0xA9D0, 0xA9F0, 0xAA50, 0xABF0,
   0xFF10, 0x104A0, 0x10D30, 0x10D40, 0x11066, 0x110F0, 0x11136, 0x111D0, 0x112F0, 0x11450,
   0x114D0, 0x11650, 0x116C0, 0x116D0, 0x116DA, 0x11730, 0x118E0, 0x11950, 0x11BF0, 0x11C50,
   0x11D50, 0x11DA0, 0x11F50, 0x16130, 0x16A60, 0x16AC0, 0x16B50, 0x16D70, 0x1CCF0, 0x1D7CE,
   0x1D7D8, 0x1D7E2, 0x1D7EC, 0x1D7F6, 0x1E140, 0x1E2F0, 0x1E4F0, 0x1E5F1, 0x1E950, 0x1FBF0]

/-- A character of the Unicode category `Nd`. -/
def isDecimalDigit (character : Char) : Bool :=
  let code := character.toNat
  if code < 0x80 then 0x30 ≤ code && code ≤ 0x39
  else decimalZeros.any fun start => start ≤ code && code < start + 10

/-- The ASCII digits are decimal digits. -/
theorem isDecimalDigit_of_isDigit {character : Char} (digit : character.isDigit = true) :
    isDecimalDigit character = true := by
  simp only [Char.isDigit, Bool.and_eq_true, decide_eq_true_eq] at digit
  change 48 ≤ character.toNat ∧ character.toNat ≤ 57 at digit
  simp only [isDecimalDigit]
  rw [if_pos (by omega)]
  simp [digit.1, digit.2]

/-- The value of an ASCII letter or digit as a digit, of either case. -/
def digitValue? (character : Char) : Option Nat :=
  if '0' ≤ character ∧ character ≤ '9' then some (character.toNat - 48)
  else if 'a' ≤ character ∧ character ≤ 'z' then some (character.toNat - 87)
  else if 'A' ≤ character ∧ character ≤ 'Z' then some (character.toNat - 55)
  else none

/-- The value of a digit of the given radix. -/
def radixDigit? (radix : Nat) (character : Char) : Option Nat :=
  (digitValue? character).filter (· < radix)

/-- An ASCII hexadecimal digit. -/
def isHexDigit (character : Char) : Bool :=
  (radixDigit? 16 character).isSome

/-- Continues a number by the digits of a numeral; none where a character is no digit. -/
def readNatFrom (radix : Nat) (value : Nat) : List Char → Option Nat
  | [] => some value
  | character :: rest =>
    match radixDigit? radix character with
    | some digit => readNatFrom radix (value * radix + digit) rest
    | none => none

/-- The number a non-empty numeral denotes. -/
def readNat? (radix : Nat) (digits : List Char) : Option Nat :=
  if digits.isEmpty then none else readNatFrom radix 0 digits

/-- The number a numeral denotes if it is below a bound; one plus sign may stand in front. -/
def readBoundedNat? (radix bound : Nat) (numeral : List Char) : Option Nat :=
  let digits := match numeral with
    | '+' :: rest => rest
    | other => other
  (readNat? radix digits).filter (· < bound)

/-- Reading a longer numeral continues reading its front. -/
theorem readNatFrom_append (radix value : Nat) (front back : List Char) :
    readNatFrom radix value (front ++ back) =
      (readNatFrom radix value front).bind fun middle => readNatFrom radix middle back := by
  induction front generalizing value with
  | nil => rfl
  | cons character rest ih =>
    simp only [List.cons_append, readNatFrom]
    cases radixDigit? radix character with
    | none => rfl
    | some digit => exact ih _

/-- A number in the digits of a radix of at most 16, without leading zeros, in lower case. -/
def writeRadix (radix value : Nat) : String :=
  String.ofList (Nat.toDigits radix value)

end HostNet.Text
