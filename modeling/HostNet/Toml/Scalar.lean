/-
**Words, numbers and dates of TOML.**

A scalar without quotes is one word: a truth value, a number, or a date with or without a time.
Digits of a number may be grouped by single underscores; a decimal number has no zero in front.

* `readDigits?`: the digits of a number without the underscores between them;
* `scalar?`: the value of a word.
-/

import HostNet.Text.Digit
import HostNet.Text.Pieces
import HostNet.Toml.Table

namespace HostNet.Toml

open HostNet.Text

/-! ### Numbers -/

/-- The digits of a number in a radix, with single underscores between digits. -/
def readDigits? (radix : Nat) (numeral : List Char) : Option (List Char) :=
  let groups := split '_' numeral
  if groups.all fun group =>
      !group.isEmpty && group.all fun digit => (radixDigit? radix digit).isSome
  then some groups.flatten
  else none

/-- A number without a sign in a radix. -/
def readRadix? (radix : Nat) (numeral : List Char) : Option Nat := do
  readNat? radix (← readDigits? radix numeral)

/-- A decimal number without a sign and without a zero in front. -/
def readDecimal? : List Char → Option Nat
  | '0' :: _ :: _ => none
  | numeral => readRadix? 10 numeral

/-- Cuts a sign off the front: whether it is a minus. -/
def cutSign : List Char → Bool × List Char
  | '+' :: rest => (false, rest)
  | '-' :: rest => (true, rest)
  | numeral => (false, numeral)

/-- A whole number. -/
def integer? : List Char → Option Int
  | '0' :: 'x' :: digits => (readRadix? 16 digits).map Int.ofNat
  | '0' :: 'o' :: digits => (readRadix? 8 digits).map Int.ofNat
  | '0' :: 'b' :: digits => (readRadix? 2 digits).map Int.ofNat
  | numeral =>
    let (negative, digits) := cutSign numeral
    (readDecimal? digits).map fun amount => if negative then -(amount : Int) else amount

/-- Whether a word is what may follow the letter of an exponent. -/
def isExponent (numeral : List Char) : Bool := (readDigits? 10 (cutSign numeral).2).isSome

/-- Whether a word is a number with a fraction or an exponent. -/
def isFraction (word : List Char) : Bool :=
  let numeral := (cutSign word).2
  if numeral = "inf".toList || numeral = "nan".toList then true
  else
    let isMark (character : Char) : Bool := character = 'e' || character = 'E'
    let significand := numeral.takeWhile (!isMark ·)
    let exponent := (numeral.dropWhile (!isMark ·)).drop 1
    let hasExponent := significand.length < numeral.length
    let (whole, decimals?) := match splitOnce? '.' significand with
      | some (front, back) => (front, some back)
      | none => (significand, none)
    (readDecimal? whole).isSome &&
      (match decimals? with
        | some decimals => (readDigits? 10 decimals).isSome
        | none => hasExponent) &&
      (!hasExponent || isExponent exponent)

/-! ### Dates and times -/

/-- A number of just this many digits. -/
def fixedNumber? (digits : Nat) (numeral : List Char) : Option Nat :=
  if numeral.length = digits then readNat? 10 numeral else none

/-- The number of days of a month. -/
def monthDays (year month : Nat) : Nat :=
  if month = 2 then
    if year % 4 = 0 && (year % 100 ≠ 0 || year % 400 = 0) then 29 else 28
  else if month = 4 || month = 6 || month = 9 || month = 11 then 30
  else 31

/-- Whether a word is a date. -/
def isDate (word : List Char) : Bool :=
  match split '-' word with
  | [years, months, days] =>
    match fixedNumber? 4 years, fixedNumber? 2 months, fixedNumber? 2 days with
    | some year, some month, some day =>
      1 ≤ month && month ≤ 12 && 1 ≤ day && day ≤ monthDays year month
    | _, _, _ => false
  | _ => false

/-- Whether a word is a number of two digits up to a bound. -/
def isClock (bound : Nat) (numeral : List Char) : Bool := (fixedNumber? 2 numeral).any (· ≤ bound)

/-- Whether a word is seconds, with or without decimal places. -/
def isSeconds (word : List Char) : Bool :=
  match splitOnce? '.' word with
  | some (whole, decimals) =>
    isClock 60 whole && !decimals.isEmpty && decimals.all Char.isDigit
  | none => isClock 60 word

/-- Whether a word is a time of the day. -/
def isTime (word : List Char) : Bool :=
  match split ':' word with
  | [hours, minutes] => isClock 23 hours && isClock 59 minutes
  | [hours, minutes, seconds] => isClock 23 hours && isClock 59 minutes && isSeconds seconds
  | _ => false

/-- Whether a word is a time of the day with or without its distance from universal time. -/
def isZonedTime (word : List Char) : Bool :=
  let isMark (character : Char) : Bool := character = '+' || character = '-'
  let time := word.takeWhile (!isMark ·)
  match word.dropWhile (!isMark ·) with
  | _ :: offset =>
    isTime time &&
      (match split ':' offset with
        | [hours, minutes] => isClock 23 hours && isClock 59 minutes
        | _ => false)
  | [] =>
    match word.getLast? with
    | some 'Z' | some 'z' => isTime word.dropLast
    | _ => isTime word

/-- Whether a word is a date, a time or both. -/
def isMoment (word : List Char) : Bool :=
  let isMark (character : Char) : Bool := character = 'T' || character = 't' || character = ' '
  let date := word.take 10
  match word.drop 10 with
  | [] => isDate date || isTime word
  | mark :: time => (isDate date && isMark mark && isZonedTime time) || isTime word

/-! ### Words -/

/-- The number of bits that hold any whole number. -/
def integerBits : Nat := 128

/-- The value of a word. -/
def scalar? (word : List Char) : Option Value :=
  if word = "true".toList then some (.flag true)
  else if word = "false".toList then some (.flag false)
  else
    match integer? word with
    | some amount =>
      if -(Nat.pow 2 (integerBits - 1) : Int) ≤ amount && amount < Nat.pow 2 integerBits then
        some (.integer amount)
      else none
    | none =>
      if isFraction word then some .fraction
      else if isMoment word then some .moment
      else none

/-- A number without underscores has its digits. -/
theorem readDigits?_plain {radix : Nat} {numeral : List Char} (filled : numeral ≠ [])
    (digits : ∀ digit ∈ numeral, (radixDigit? radix digit).isSome = true) :
    readDigits? radix numeral = some numeral := by
  have whole : split '_' numeral = [numeral] := by
    clear filled
    induction numeral with
    | nil => rfl
    | cons digit numeral ih =>
      have other : digit ≠ '_' := by
        rintro rfl
        have := digits '_' (List.mem_cons_self ..)
        simp [radixDigit?, digitValue?] at this
      simp [split, other, ih fun inner member => digits inner (List.mem_cons_of_mem _ member)]
  have full : numeral.isEmpty = false := by simpa using filled
  simp only [readDigits?, whole, List.all_cons, full, Bool.not_false, Bool.true_and, List.all_nil,
    Bool.and_true, List.flatten_cons, List.flatten_nil, List.append_nil]
  rw [if_pos (by simpa using digits)]

example : integer? "1_000".toList = some 1000 := by decide +kernel
example : integer? "-0".toList = some 0 := by decide +kernel
example : integer? "010".toList = none := by decide +kernel
example : isFraction "6.626e-34".toList = true := by decide +kernel
example : isMoment "1979-05-27 07:32Z".toList = true := by decide +kernel

end HostNet.Toml
