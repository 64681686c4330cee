/-
**Binary fractions of 53 bits.**

A number with a fraction or an exponent is held as the nearest fraction of 53 binary digits, ties to
an even last digit. Its text has the fewest decimal digits that single it out among its neighbours.

* `divEven_of_dvd`: a division without remainder is exact;
* `round?_zero`: zero is held as zero;
* the examples at the end read off texts on both sides of the bounds of positional notation.
-/

namespace HostNet

/-- A magnitude `significand * 2 ^ exponent`, with its significand below `2 ^ 53`. -/
structure Binary64 where
  significand : Nat
  exponent : Int
  deriving Repr, DecidableEq, Inhabited

namespace Binary64

/-! ### Rounding -/

/-- The nearest whole number to a quotient, a tie going to the even one. -/
def divEven (numerator denominator : Nat) : Nat :=
  let quotient := numerator / denominator
  let twice := 2 * (numerator % denominator)
  if denominator < twice ∨ (denominator = twice ∧ quotient % 2 = 1) then quotient + 1
  else quotient

/-- A division without remainder is exact. -/
theorem divEven_of_dvd {numerator denominator : Nat} (positive : 0 < denominator)
    (exact : numerator % denominator = 0) :
    divEven numerator denominator = numerator / denominator := by
  unfold divEven
  rw [exact, if_neg (by omega)]

/-- A quotient divided by a power of two, as a quotient. -/
def scale (numerator denominator : Nat) (exponent : Int) : Nat × Nat :=
  if 0 ≤ exponent then (numerator, denominator * Nat.pow 2 exponent.toNat)
  else (numerator * Nat.pow 2 (-exponent).toNat, denominator)

/-- The exponent of the greatest power of two that is not above a positive quotient. -/
def log2 (numerator denominator : Nat) : Int :=
  let guess : Int := numerator.log2 - denominator.log2
  let (above, below) := scale numerator denominator guess
  if below ≤ above then guess else guess - 1

/-- The least exponent. -/
def leastExponent : Int := -1074

/-- The greatest exponent. -/
def greatestExponent : Int := 971

/-- The magnitude nearest to a quotient; none if it is too large. -/
def round? (numerator denominator : Nat) : Option Binary64 :=
  if numerator = 0 then some ⟨0, leastExponent⟩
  else
    let exponent := max (log2 numerator denominator - 52) leastExponent
    let (above, below) := scale numerator denominator exponent
    let significand := divEven above below
    let rounded : Binary64 :=
      if significand = Nat.pow 2 53 then ⟨Nat.pow 2 52, exponent + 1⟩ else ⟨significand, exponent⟩
    if rounded.exponent ≤ greatestExponent then some rounded else none

/-- Zero is held as zero. -/
@[simp] theorem round?_zero (denominator : Nat) :
    round? 0 denominator = some ⟨0, leastExponent⟩ := rfl

/-- A magnitude as a quotient. -/
def quotient (value : Binary64) : Nat × Nat :=
  scale value.significand 1 (-value.exponent)

/-- The magnitude nearest to the product of a magnitude and a power of ten. -/
def timesTen? (value : Binary64) (power : Nat) : Option Binary64 := do
  let factor ← round? (Nat.pow 10 power) 1
  round? (value.quotient.1 * factor.quotient.1) (value.quotient.2 * factor.quotient.2)

/-- The magnitude nearest to the quotient of a magnitude and a power of ten. -/
def overTen? (value : Binary64) (power : Nat) : Option Binary64 := do
  let divisor ← round? (Nat.pow 10 power) 1
  round? (value.quotient.1 * divisor.quotient.2) (value.quotient.2 * divisor.quotient.1)

/-! ### The fewest decimal digits -/

/-- How many decimal digits a number has. -/
def digitCount (number : Nat) : Nat := (Nat.toDigits 10 number).length

/-- The exponent of the greatest power of ten that is not above a positive quotient. -/
def log10 (numerator denominator : Nat) : Int :=
  if denominator ≤ numerator then digitCount (numerator / denominator) - 1
  else
    let places := digitCount (denominator / numerator)
    if denominator ≤ numerator * Nat.pow 10 (places - 1) then 1 - (places : Int)
    else -(places : Int)

/-- A decimal number as a quotient. -/
def decimalQuotient (digits : Nat) (exponent : Int) : Nat × Nat :=
  if 0 ≤ exponent then (digits * Nat.pow 10 exponent.toNat, 1)
  else (digits, Nat.pow 10 (-exponent).toNat)

/-- Whether a decimal number is closer to a magnitude than to its neighbours. A number in the middle
counts for the magnitude with the even significand. -/
def singlesOut (value : Binary64) (digits : Nat) (exponent : Int) : Bool :=
  let (above, below) := decimalQuotient digits exponent
  let lowGap := if value.significand = Nat.pow 2 52 ∧ leastExponent < value.exponent then 1 else 2
  let low := quotient ⟨4 * value.significand - lowGap, value.exponent - 2⟩
  let high := quotient ⟨4 * value.significand + 2, value.exponent - 2⟩
  if value.significand % 2 = 0 then
    low.1 * below ≤ above * low.2 && above * high.2 ≤ high.1 * below
  else low.1 * below < above * low.2 && above * high.2 < high.1 * below

/-- A decimal number near a magnitude on the grid of a power of ten, if one singles it out: the
nearer neighbour on the grid, a tie going to the even one. -/
def onGrid? (value : Binary64) (exponent : Int) : Option Nat :=
  let (above, below) := value.quotient
  let (unitAbove, unitBelow) := decimalQuotient 1 exponent
  let scaledAbove := above * unitBelow
  let scaledBelow := below * unitAbove
  let floor := scaledAbove / scaledBelow
  let nearest := divEven scaledAbove scaledBelow
  let other := if nearest = floor then floor + 1 else floor
  if singlesOut value nearest exponent then some nearest
  else if singlesOut value other exponent then some other
  else none

/-- Tries finer and finer grids, down to a number of further ones. -/
def finer (value : Binary64) (exponent : Int) : Nat → Nat × Int
  | 0 => ((onGrid? value exponent).getD 0, exponent)
  | further + 1 =>
    match onGrid? value exponent with
    | some digits => (digits, exponent)
    | none => finer value (exponent - 1) further

/-- The digits of a positive magnitude and the exponent of the first one. Seventeen digits always
suffice. -/
def shortest (value : Binary64) : List Char × Int :=
  let (above, below) := value.quotient
  let (digits, exponent) := finer value (log10 above below) 16
  let characters := Nat.toDigits 10 digits
  ((characters.reverse.dropWhile (· = '0')).reverse,
    exponent + (characters.length : Int) - 1)

/-! ### Text -/

/-- Digits with a point after a number of them, and at least one on either side. -/
def withPoint (digits : List Char) (whole : Int) : List Char :=
  if whole ≤ 0 then '0' :: '.' :: (List.replicate (-whole).toNat '0' ++ digits)
  else
    let padded := digits ++ List.replicate (whole.toNat - digits.length) '0'
    let decimals := padded.drop whole.toNat
    padded.take whole.toNat ++ '.' :: (if decimals.isEmpty then ['0'] else decimals)

/-- An exponent with its sign and at least two digits. -/
def exponentText (exponent : Int) : List Char :=
  let digits := Nat.toDigits 10 exponent.natAbs
  (if exponent < 0 then '-' else '+') :: (List.replicate (2 - digits.length) '0' ++ digits)

/-- The text of a magnitude: positional if its first digit stands for a power of ten from `-5` to
`15`, scientific otherwise. -/
def text (value : Binary64) : String :=
  if value.significand = 0 then "0.0"
  else
    let (digits, exponent) := shortest value
    if -5 ≤ exponent ∧ exponent ≤ 15 then String.ofList (withPoint digits (exponent + 1))
    else
      let mantissa := match digits with
        | first :: second :: rest => first :: '.' :: second :: rest
        | short => short
      String.ofList (mantissa ++ 'e' :: exponentText exponent)

/-- The text of a decimal number by way of the magnitude nearest to it. -/
def textOfDecimal (digits : Nat) (exponent : Int) : Option String :=
  let (above, below) := decimalQuotient digits exponent
  (round? above below).map text

example : textOfDecimal 15 2 = some "1500.0" := by decide +kernel
example : textOfDecimal 105 (-1) = some "10.5" := by decide +kernel
example : textOfDecimal 18446744073709551616 0 = some "1.8446744073709552e+19" := by
  decide +kernel
example : textOfDecimal 9223372036854775809 0 = some "9.223372036854776e+18" := by
  decide +kernel
example : textOfDecimal 1 (-5) = some "0.00001" := by decide +kernel
example : textOfDecimal 1 16 = some "1e+16" := by decide +kernel
example : textOfDecimal 3 (-1) = some "0.3" := by decide +kernel
example : textOfDecimal 112589990684262425 (-2) = some "1125899906842624.2" := by
  decide +kernel

end Binary64

end HostNet
