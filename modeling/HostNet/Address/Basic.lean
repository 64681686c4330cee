/-
**Addresses, destinations and gateways of a configuration.**

An address entry is one of three words that ask for automatic addressing, or a literal address with
its prefix length. A gateway is one of two words, or a literal address.

* `AddressToken.text_ofText` and `Gateway.text_ofText`: a text is recovered from its class;
* `isAddressPrefix_iff`: what counts as an address with a prefix length.
-/

import HostNet.Address.Ip
import HostNet.Text.Pieces

namespace HostNet

open HostNet.Text

/-- An entry of a device's address list. -/
inductive AddressToken where
  | dhcp4
  | dhcp6
  | slaac
  | static (literal : String)
  deriving Repr, DecidableEq

namespace AddressToken

/-- Classifies an entry; only the exact words are automatic. -/
def ofText (entry : String) : AddressToken :=
  if entry = "dhcp4" then .dhcp4
  else if entry = "dhcp6" then .dhcp6
  else if entry = "slaac" then .slaac
  else .static entry

/-- The entry a token was read from. -/
def text : AddressToken → String
  | .dhcp4 => "dhcp4"
  | .dhcp6 => "dhcp6"
  | .slaac => "slaac"
  | .static literal => literal

/-- The literal of a static entry. -/
def literal? : AddressToken → Option String
  | .static literal => some literal
  | _ => none

/-- An entry is recovered from its token. -/
@[simp] theorem text_ofText (entry : String) : (ofText entry).text = entry := by
  unfold ofText
  by_cases four : entry = "dhcp4"
  · simp [four, text]
  · by_cases six : entry = "dhcp6"
    · simp [six, text]
    · by_cases auto : entry = "slaac"
      · simp [auto, text]
      · simp [four, six, auto, text]

end AddressToken

/-- How a route reaches its gateway. -/
inductive Gateway where
  /-- The gateway handed out by DHCP. -/
  | dhcp4
  /-- The router learned from router advertisements. -/
  | slaac
  | literal (address : String)
  deriving Repr, DecidableEq

namespace Gateway

/-- Classifies a gateway; only the exact words are automatic. -/
def ofText (via : String) : Gateway :=
  if via = "dhcp4" then .dhcp4
  else if via = "slaac" then .slaac
  else .literal via

/-- The text a gateway was read from. -/
def text : Gateway → String
  | .dhcp4 => "dhcp4"
  | .slaac => "slaac"
  | .literal address => address

/-- A gateway's text is recovered from it. -/
@[simp] theorem text_ofText (via : String) : (ofText via).text = via := by
  unfold ofText
  by_cases four : via = "dhcp4"
  · simp [four, text]
  · by_cases auto : via = "slaac"
    · simp [auto, text]
    · simp [four, auto, text]

end Gateway

/-- The prefix length written after an address: a numeral below 256, which a plus sign and zeros
may precede. -/
def prefixLength? (digits : List Char) : Option Nat :=
  readBoundedNat? 10 256 digits

/-- An address and, after the first slash, a prefix length that its version allows. -/
def isAddressPrefix (value : String) : Bool :=
  match splitOnce? '/' value.toList with
  | none => false
  | some (address, digits) =>
    match prefixLength? digits, IpAddr.parse? (String.ofList address) with
    | some length, some address => length ≤ address.width
    | _, _ => false

/-- What counts as an address with a prefix length. -/
theorem isAddressPrefix_iff (value : String) :
    isAddressPrefix value = true ↔
      ∃ address digits length parsed, splitOnce? '/' value.toList = some (address, digits) ∧
        prefixLength? digits = some length ∧
        IpAddr.parse? (String.ofList address) = some parsed ∧ length ≤ parsed.width := by
  constructor
  · intro accepted
    unfold isAddressPrefix at accepted
    split at accepted
    · cases accepted
    · rename_i address digits cut
      split at accepted
      · rename_i length parsed read found
        exact ⟨address, digits, length, parsed, cut, read, found, of_decide_eq_true accepted⟩
      · cases accepted
  · rintro ⟨address, digits, length, parsed, cut, read, found, within⟩
    unfold isAddressPrefix
    rw [cut]
    simp only
    rw [read, found]
    exact decide_eq_true within

/-- An entry that a device may list: a word for automatic addressing or an address with its prefix
length. -/
def isAddressEntry (entry : String) : Bool :=
  match AddressToken.ofText entry with
  | .static literal => isAddressPrefix literal
  | _ => true

/-- A gateway that a route may name: a word for an automatic gateway or an address. -/
def isGateway (via : String) : Bool :=
  match Gateway.ofText via with
  | .literal address => (IpAddr.parse? address).isSome
  | _ => true

end HostNet
