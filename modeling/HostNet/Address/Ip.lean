/-
**IP addresses in text.**

The dotted form of version 4 (four decimal octets of at most three digits, none with a leading
zero) and the form of version 6 (eight groups of one to four hexadecimal digits; one `::` stands
for one or more zero groups; the last two groups may be a dotted version 4 address). Nothing may
surround an address: no zone, no brackets, no port.

* `parse?_eq_some`: a text is read as one of the two versions, never both ways.
-/

import HostNet.Text.Digit

namespace HostNet

/-- An IP address: four octets, or eight groups of sixteen bits. -/
inductive IpAddr where
  | v4 (octets : List Nat)
  | v6 (groups : List Nat)
  deriving Repr, DecidableEq

namespace IpAddr

open HostNet.Text

/-- The longest run of digits of a radix at the front, and what follows it. -/
def spanDigits (radix : Nat) : List Char → List Nat × List Char
  | [] => ([], [])
  | character :: rest =>
    match radixDigit? radix character with
    | some digit =>
      let (digits, after) := spanDigits radix rest
      (digit :: digits, after)
    | none => ([], character :: rest)

/-- A number of one to `most` digits at the front. A zero in front of other digits is refused
unless `zeros` allows it. -/
def number? (radix most : Nat) (zeros : Bool) (characters : List Char) :
    Option (Nat × List Char) :=
  let (digits, after) := spanDigits radix characters
  if digits.isEmpty || most < digits.length then none
  else if !zeros && digits.head? == some 0 && 1 < digits.length then none
  else some (digits.foldl (fun value digit => value * radix + digit) 0, after)

/-- Passes over a given character. -/
def expect? (wanted : Char) : List Char → Option (List Char)
  | [] => none
  | character :: rest => if character = wanted then some rest else none

/-- `count` further octets, each after a dot. -/
def moreOctets? : Nat → List Char → Option (List Nat × List Char)
  | 0, characters => some ([], characters)
  | count + 1, characters => do
    let characters ← expect? '.' characters
    let (octet, characters) ← number? 10 3 false characters
    if 255 < octet then none
    else
      let (octets, characters) ← moreOctets? count characters
      some (octet :: octets, characters)

/-- A dotted address at the front. -/
def dotted? (characters : List Char) : Option (List Nat × List Char) := do
  let (octet, characters) ← number? 10 3 false characters
  if 255 < octet then none
  else
    let (octets, characters) ← moreOctets? 3 characters
    some (octet :: octets, characters)

/-- Two groups from four octets. -/
def groupsOfOctets : List Nat → List Nat
  | high :: low :: rest => (high * 256 + low) :: groupsOfOctets rest
  | _ => []

/-- Up to `room` groups at the front, each but the first after a colon; says whether they end in a
dotted address, which fills two groups. -/
def groups : Nat → Bool → List Char → List Nat × Bool × List Char
  | 0, _, characters => ([], false, characters)
  | room + 1, first, characters =>
    let body := if first then some characters else expect? ':' characters
    let dotted := if room = 0 then none else body.bind dotted?
    match dotted with
    | some (octets, after) => (groupsOfOctets octets, true, after)
    | none =>
      match body.bind (number? 16 4 true) with
      | none => ([], false, characters)
      | some (group, after) =>
        let (others, ended, after) := groups room false after
        (group :: others, ended, after)

/-- A version 6 address at the front. -/
def grouped? (characters : List Char) : Option (List Nat × List Char) :=
  let (head, ended, after) := groups 8 true characters
  if head.length = 8 then some (head, after)
  else if ended then none
  else do
    let after ← expect? ':' after
    let after ← expect? ':' after
    let (tail, _, after) := groups (7 - head.length) true after
    some (head ++ List.replicate (8 - head.length - tail.length) 0 ++ tail, after)

/-- A text that is a version 4 address and nothing else. -/
def parseV4? (characters : List Char) : Option (List Nat) :=
  match dotted? characters with
  | some (octets, []) => some octets
  | _ => none

/-- A text that is a version 6 address and nothing else. -/
def parseV6? (characters : List Char) : Option (List Nat) :=
  match grouped? characters with
  | some (found, []) => some found
  | _ => none

/-- The address a text denotes. What starts with a dotted address is not read as version 6. -/
def parse? (text : String) : Option IpAddr :=
  let characters := text.toList
  match dotted? characters with
  | some (octets, after) => if after.isEmpty then some (.v4 octets) else none
  | none => (parseV6? characters).map .v6

/-- The number of bits of an address of this version. -/
def width : IpAddr → Nat
  | .v4 _ => 32
  | .v6 _ => 128

/-- What a text denotes follows from the two forms. -/
theorem parse?_eq_some {text : String} {address : IpAddr} (read : parse? text = some address) :
    (∃ octets, address = .v4 octets ∧ parseV4? text.toList = some octets) ∨
      (∃ found, address = .v6 found ∧ parseV6? text.toList = some found) := by
  unfold parse? at read
  simp only at read
  split at read
  · rename_i octets after found
    split at read
    · rename_i empty
      rw [List.isEmpty_iff] at empty
      subst empty
      cases read
      exact Or.inl ⟨octets, rfl, by simp [parseV4?, found]⟩
    · cases read
  · obtain ⟨found, same, rfl⟩ := Option.map_eq_some_iff.mp read
    exact Or.inr ⟨found, rfl, same⟩

end IpAddr

end HostNet
