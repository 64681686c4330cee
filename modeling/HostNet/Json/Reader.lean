/-
**Reading JSON.**

Blanks are the space, the tab, the line feed and the carriage return. A number is read into at
most 64 bits of digits: the first digit that would not fit and all after it only count for the
exponent.

* `JsonNumber.ofParts`: the value of a number from its digits and its exponent;
* `Json.read`: a document as a value and whether nothing else follows it.
-/

import HostNet.Json.Basic
import HostNet.Text.Digit
import HostNet.Text.Pieces

namespace HostNet

open HostNet.Text

/-! ### Numbers -/

/-- The digits of a number read so far. -/
structure Significand where
  /-- The digits that were kept, as a number below `2 ^ 64`. -/
  value : Nat
  /-- The power of ten that the last kept digit stands for. -/
  exponent : Int
  /-- Whether a digit was left out. -/
  full : Bool := false
  deriving Repr, DecidableEq

namespace Significand

/-- Whether a further digit still fits. -/
def fits (significand : Significand) (digit : Nat) : Bool :=
  !significand.full && significand.value * 10 + digit < Nat.pow 2 64

/-- A further digit before the point. -/
def whole (significand : Significand) (digit : Nat) : Significand :=
  if significand.fits digit then { significand with value := significand.value * 10 + digit }
  else { significand with exponent := significand.exponent + 1, full := true }

/-- A further digit after the point. -/
def decimal (significand : Significand) (digit : Nat) : Significand :=
  if significand.fits digit then
    { significand with
      value := significand.value * 10 + digit, exponent := significand.exponent - 1 }
  else { significand with full := true }

end Significand

namespace JsonNumber

/-- Divides by `10 ^ 308` until the rest of a negative exponent is at least `-308`. -/
def shrink (value : Binary64) (exponent : Nat) : Nat → Option Binary64
  | 0 => some value
  | fuel + 1 =>
    if value.significand = 0 then some value
    else if exponent ≤ 308 then value.overTen? exponent
    else (value.overTen? 308).bind fun smaller => shrink smaller (exponent - 308) fuel

/-- A number with a fraction or an exponent, rounded once for its digits and once for its
exponent. -/
def ofParts (negative : Bool) (significand : Nat) (exponent : Int) : JsonNumber :=
  let magnitude? := do
    let digits ← Binary64.round? significand 1
    if exponent < 0 then shrink digits exponent.natAbs 4
    else if exponent ≤ 308 then digits.timesTen? exponent.toNat
    else if digits.significand = 0 then some digits
    else none
  match magnitude? with
  | some magnitude => fraction negative magnitude
  | none => overflow

/-- A number without a point and an exponent. -/
def ofWhole (negative : Bool) (significand : Significand) : JsonNumber :=
  if significand.full then ofParts negative significand.value significand.exponent
  else if !negative then natural significand.value
  else if 0 < significand.value ∧ significand.value ≤ Nat.pow 2 63 then .negative significand.value
  else ofParts true significand.value 0

/-- Cuts the ASCII digits off the front. -/
def spanDigits : List Char → List Nat × List Char
  | [] => ([], [])
  | character :: rest =>
    match radixDigit? 10 character with
    | some digit =>
      let (digits, others) := spanDigits rest
      (digit :: digits, others)
    | none => ([], character :: rest)

/-- The greatest exponent that is still read as a number. -/
def exponentLimit : Nat := Nat.pow 2 31

/-- Reads what follows the letter of an exponent. -/
def readExponent (negative : Bool) (significand : Significand) (characters : List Char) :
    Option (JsonNumber × List Char) :=
  let (down, unsigned) := match characters with
    | '+' :: rest => (false, rest)
    | '-' :: rest => (true, rest)
    | other => (false, other)
  let (digits, rest) := spanDigits unsigned
  if digits.isEmpty then none
  else
    let size := digits.foldl (fun value digit => value * 10 + digit) 0
    let number :=
      if size < exponentLimit then
        ofParts negative significand.value
          (if down then significand.exponent - size else significand.exponent + size)
      else if significand.value = 0 ∨ down then fraction negative ⟨0, Binary64.leastExponent⟩
      else overflow
    some (number, rest)

/-- Reads what may follow the decimal places. -/
def readTail (negative : Bool) (significand : Significand) (characters : List Char) :
    Option (JsonNumber × List Char) :=
  match characters with
  | 'e' :: rest | 'E' :: rest => readExponent negative significand rest
  | other => some (ofParts negative significand.value significand.exponent, other)

/-- Reads a number whose sign has been read. A zero in front stands alone. -/
def readUnsigned (negative : Bool) (characters : List Char) :
    Option (JsonNumber × List Char) :=
  let (digits, rest) := spanDigits characters
  match digits with
  | [] => none
  | 0 :: _ :: _ => none
  | _ =>
    let significand := digits.foldl Significand.whole ⟨0, 0, false⟩
    match rest with
    | '.' :: others =>
      let (decimals, others) := spanDigits others
      if decimals.isEmpty then none
      else readTail negative (decimals.foldl Significand.decimal { significand with full := false })
        others
    | 'e' :: others | 'E' :: others => readExponent negative significand others
    | others => some (ofWhole negative significand, others)

end JsonNumber

/-! ### Texts -/

namespace Json

/-- Reads four hexadecimal digits. -/
def readHex4 : List Char → Option (Nat × List Char)
  | first :: second :: third :: fourth :: rest =>
    (readNat? 16 [first, second, third, fourth]).map fun code => (code, rest)
  | _ => none

/-- The character of a simple escape. -/
def simpleEscape? : Char → Option Char
  | '"' => some '"'
  | '\\' => some '\\'
  | '/' => some '/'
  | 'b' => some '\x08'
  | 'f' => some '\x0c'
  | 'n' => some '\n'
  | 'r' => some '\r'
  | 't' => some '\t'
  | _ => none

/-- What an escape of four digits at the start of a text stands for. -/
inductive Escaped where
  | character (value : Char) (rest : List Char)
  /-- Half a surrogate pair; reading goes on behind its four digits. -/
  | half (rest : List Char)
  deriving Repr

/-- Reads the digits of an escape and the second half of a surrogate pair. -/
def readUnicode (characters : List Char) : Option Escaped := do
  let (code, rest) ← readHex4 characters
  if 0xDC00 ≤ code ∧ code ≤ 0xDFFF then return .half rest
  if code < 0xD800 ∨ 0xDBFF < code then return .character (Char.ofNat code) rest
  match rest with
  | '\\' :: 'u' :: more =>
    match readHex4 more with
    | some (low, others) =>
      if 0xDC00 ≤ low ∧ low ≤ 0xDFFF then
        return .character (Char.ofNat (0x10000 + (code - 0xD800) * 0x400 + (low - 0xDC00))) others
      else return .half rest
    | none => none
  | _ => return .half rest

/-- Reads a text after its opening quote: whether it is unbroken, its characters in reverse and
what follows. -/
def readText : Nat → Bool → List Char → List Char → Option (Json × List Char)
  | 0, _, _, _ => none
  | _ + 1, _, _, [] => none
  | fuel + 1, sound, taken, character :: rest =>
    if character = '"' then
      some (if sound then text (String.ofList taken.reverse) else brokenText, rest)
    else if character.toNat < 0x20 then none
    else if character = '\\' then
      match rest with
      | 'u' :: digits =>
        match readUnicode digits with
        | some (.character value others) => readText fuel sound (value :: taken) others
        | some (.half others) => readText fuel false taken others
        | none => none
      | letter :: others =>
        match simpleEscape? letter with
        | some value => readText fuel sound (value :: taken) others
        | none => none
      | [] => none
    else readText fuel sound (character :: taken) rest

/-! ### Values -/

/-- A blank between the parts of a document. -/
def isJsonBlank (character : Char) : Bool :=
  character = ' ' || character = '\t' || character = '\n' || character = '\r'

/-- Leaves out blanks at the front. -/
def skipBlanks (characters : List Char) : List Char :=
  characters.dropWhile isJsonBlank

/-- A value and what follows it, or a value that was cut. -/
abbrev Reading (α : Type) := α × Option (List Char)

/-- A word that stands for a value. -/
def readWord (word : String) (value : Json) (characters : List Char) : Reading Json :=
  if startsWith characters word.toList then (value, some (characters.drop word.length))
  else (cut, none)

mutual

/-- Reads a value. -/
def readValue : Nat → List Char → Reading Json
  | 0, _ => (cut, none)
  | fuel + 1, characters =>
    match skipBlanks characters with
    | [] => (cut, none)
    | first :: rest =>
      if first = '"' then
        match readText (rest.length + 1) true [] rest with
        | some (value, others) => (value, some others)
        | none => (cut, none)
      else if first = '[' then
        let (items, others) := readItems fuel true rest
        (array items, others)
      else if first = '\x7b' then
        let (members, others) := readMembers fuel true rest
        (object members, others)
      else if first = '-' then
        match JsonNumber.readUnsigned true rest with
        | some (value, others) => (number value, some others)
        | none => (cut, none)
      else if first.isDigit then
        match JsonNumber.readUnsigned false (first :: rest) with
        | some (value, others) => (number value, some others)
        | none => (cut, none)
      else if first = 'n' then readWord "null" null (first :: rest)
      else if first = 't' then readWord "true" (bool true) (first :: rest)
      else if first = 'f' then readWord "false" (bool false) (first :: rest)
      else (cut, none)

/-- Reads the items of an array up to its end. -/
def readItems : Nat → Bool → List Char → Reading (List Json)
  | 0, _, _ => ([cut], none)
  | fuel + 1, isFirst, characters =>
    match skipBlanks characters with
    | ']' :: rest => ([], some rest)
    | first :: rest =>
      if isFirst || first = ',' then
        let (item, others) := readValue fuel (if isFirst then first :: rest else rest)
        match others with
        | none => ([item], none)
        | some others =>
          let (items, others) := readItems fuel false others
          (item :: items, others)
      else ([cut], none)
    | [] => ([cut], none)

/-- Reads the members of an object up to its end. -/
def readMembers : Nat → Bool → List Char → Reading (List (Json × Json))
  | 0, _, _ => ([(cut, cut)], none)
  | fuel + 1, isFirst, characters =>
    match skipBlanks characters with
    | '\x7d' :: rest => ([], some rest)
    | first :: rest =>
      if isFirst || first = ',' then
        let (name, others) := readValue fuel (if isFirst then first :: rest else rest)
        match name.isAnyText, (others.map skipBlanks) with
        | true, some (':' :: others) =>
          let (value, others) := readValue fuel others
          match others with
          | none => ([(name, value)], none)
          | some others =>
            let (members, others) := readMembers fuel false others
            ((name, value) :: members, others)
        | _, _ => ([(name, cut)], none)
      else ([(cut, cut)], none)
    | [] => ([(cut, cut)], none)

end

/-- Reads a document: its value, and whether only blanks follow it. -/
def read (document : String) : Json × Bool :=
  let characters := document.toList
  let (value, others) := readValue (characters.length + 1) characters
  (value, match others with
    | some rest => (skipBlanks rest).isEmpty
    | none => false)

end Json

end HostNet
