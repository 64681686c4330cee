/-
**What commands answer.**

An outcome is an exit code with the two outputs of a command. The outputs of two commands are read
further: the state of a device, and its addresses that reach beyond the link.

* `Outcome.combined`: both outputs for a message;
* `LinkState.ofStatus`: a device is online or required if its status says so anywhere;
* `countRoutable`: entries `inet` or `inet6`, a space, an address, a slash and a digit, less the
  addresses of the link.
-/

import HostNet.Text.Blank
import HostNet.Text.Digit
import HostNet.Text.Pieces

namespace HostNet

open HostNet.Text

/-- How a command ended and what it wrote. -/
structure Outcome where
  exitCode : Int := 0
  stdout : String := ""
  stderr : String := ""
  deriving Repr, DecidableEq, Inhabited

/-- Whether a command succeeded. -/
def Outcome.succeeded (outcome : Outcome) : Bool := outcome.exitCode = 0

/-- Both outputs, with a line feed between them if neither is empty. -/
def Outcome.combined (outcome : Outcome) : String :=
  if outcome.stderr.isEmpty then outcome.stdout
  else if outcome.stdout.isEmpty then outcome.stderr
  else outcome.stdout ++ "\n" ++ outcome.stderr

/-! ### The state of a device -/

/-- The state of a device. -/
structure LinkState where
  online : Bool
  /-- Whether the host waits for the device. -/
  required : Bool
  deriving Repr, DecidableEq, Inhabited

/-- The state assumed when the status could not be asked for. -/
def LinkState.unknown : LinkState := ⟨false, true⟩

/-- The state that a status reports. -/
def LinkState.ofStatus (status : String) : LinkState where
  online := occursIn "Online state: online".toList status.toList
  required := occursIn "Required For Online: yes".toList status.toList

/-! ### The addresses of a device -/

/-- Cuts a word at its last slash before a digit. -/
def cutAtLength? : List Char → Option (List Char × List Char)
  | [] => none
  | character :: rest =>
    match cutAtLength? rest with
    | some (front, back) => some (character :: front, back)
    | none =>
      if character = '/' && rest.head?.any isDecimalDigit then some ([], rest) else none

/-- What follows a text at the front of another. -/
def after? (front : String) (characters : List Char) : Option (List Char) :=
  if startsWith characters front.toList then some (characters.drop front.toList.length) else none

/-- An entry at the front of a listing: its address and what follows its prefix length. -/
def listed? (characters : List Char) : Option (List Char × List Char) := do
  let rest ← after? "inet " characters <|> after? "inet6 " characters
  let word := rest.takeWhile (!isBlank ·)
  let (address, length) ← cutAtLength? word
  if address.isEmpty then none
  else some (address, length.dropWhile isDecimalDigit ++ rest.dropWhile (!isBlank ·))

/-- The addresses of the entries of a listing, from left to right. -/
def listedAddresses : List Char → List (List Char)
  | [] => []
  | character :: rest =>
    match listed? (character :: rest) with
    | some (address, others) =>
      if others.length < rest.length + 1 then address :: listedAddresses others else [address]
    | none => listedAddresses rest
  termination_by characters => characters.length

/-- An address that does not reach beyond the link. -/
def isLinkLocal (address : List Char) : Bool :=
  startsWith address "169.254.".toList || startsWith address "fe80:".toList

/-- How many addresses of a listing reach beyond the link. -/
def countRoutable (listing : String) : Nat :=
  ((listedAddresses listing.toList).filter (!isLinkLocal ·)).length

/-- Cutting a word loses only the slash. -/
theorem cutAtLength?_eq_some {word front back : List Char}
    (cut : cutAtLength? word = some (front, back)) : word = front ++ '/' :: back := by
  induction word generalizing front with
  | nil => simp [cutAtLength?] at cut
  | cons character rest ih =>
    unfold cutAtLength? at cut
    split at cut
    · rename_i inner outer found
      cases cut
      rw [ih found]
      rfl
    · split at cut
      · rename_i slash
        cases cut
        simp only [Bool.and_eq_true, decide_eq_true_eq] at slash
        rw [slash.1]
        rfl
      · cases cut

end HostNet
