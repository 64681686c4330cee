/-
**Spans of time.**

A span is a number of nanoseconds. Its text uses the largest unit that is not zero (`s`, `ms`, `µs`,
`ns`) and as many decimal places as the span needs.

* `toMillis_ofMillis`: a span of whole milliseconds is recovered from its milliseconds;
* the examples at the end read off the text of a span in each unit.
-/

namespace HostNet

/-- A span of time. -/
structure Duration where
  nanos : Nat
  deriving Repr, DecidableEq, Inhabited

namespace Duration

/-- A span of whole milliseconds. -/
def ofMillis (millis : Nat) : Duration := ⟨millis * 1000000⟩

/-- A span of whole seconds. -/
def ofSecs (secs : Nat) : Duration := ⟨secs * 1000000000⟩

/-- The whole milliseconds of a span. -/
def toMillis (span : Duration) : Nat := span.nanos / 1000000

/-- A span of whole milliseconds is recovered from its milliseconds. -/
theorem toMillis_ofMillis (millis : Nat) : (ofMillis millis).toMillis = millis := by
  simp [ofMillis, toMillis]

/-- The decimal places of a remainder below `10 ^ places`, without zeros at the end. -/
def fraction : Nat → Nat → List Char
  | 0, _ => []
  | places + 1, remainder =>
    if remainder = 0 then []
    else
      let unit := Nat.pow 10 places
      Nat.digitChar (remainder / unit) :: fraction places (remainder % unit)

/-- An amount of a unit that has `10 ^ places` parts. -/
def amount (whole places remainder : Nat) (unit : String) : String :=
  let decimals := fraction places remainder
  toString whole ++ (if decimals.isEmpty then "" else String.ofList ('.' :: decimals)) ++ unit

/-- A span in the largest unit that is not zero. -/
def text (span : Duration) : String :=
  if 1000000000 ≤ span.nanos then
    amount (span.nanos / 1000000000) 9 (span.nanos % 1000000000) "s"
  else if 1000000 ≤ span.nanos then
    amount (span.nanos / 1000000) 6 (span.nanos % 1000000) "ms"
  else if 1000 ≤ span.nanos then amount (span.nanos / 1000) 3 (span.nanos % 1000) "µs"
  else amount span.nanos 0 0 "ns"

/-- No decimal places are written for a whole amount. -/
theorem fraction_zero (places : Nat) : fraction places 0 = [] := by
  cases places <;> rfl

example : (⟨0⟩ : Duration).text = "0ns" := by decide +kernel
example : (⟨1500⟩ : Duration).text = "1.5µs" := by decide +kernel
example : (⟨999999999⟩ : Duration).text = "999.999999ms" := by decide +kernel
example : (⟨10010000000⟩ : Duration).text = "10.01s" := by decide +kernel

end Duration

end HostNet
