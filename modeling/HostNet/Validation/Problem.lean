/-
**What can be wrong with a configuration.**

Each problem names the device it was found on and the value that breaks a rule.

* `Problem.message`: the sentence that reports a problem; values of unknown content are quoted.
-/

import HostNet.Text.Quoted

namespace HostNet

open HostNet.Text

/-- The three kinds of device. -/
inductive DeviceKind where
  | interface
  | bond
  | vlan
  deriving Repr, DecidableEq, Inhabited

/-- The word for a kind of device. -/
def DeviceKind.text : DeviceKind → String
  | .interface => "interface"
  | .bond => "bond"
  | .vlan => "vlan"

/-- A broken rule of a configuration. -/
inductive Problem where
  /-- There is no configuration at all. -/
  | missing
  | emptyName (kind : DeviceKind)
  | duplicateName (name : String)
  | invalidHwaddr (device hwaddr : String)
  | duplicateHwaddr (hwaddr first second : String)
  | emptyBond (bond : String)
  | unknownBondMember (bond member : String)
  | duplicateBondMember (member first second : String)
  | unknownVlanParent (vlan parent : String)
  | invalidVlanId (device : String) (id : UInt16)
  | invalidMtu (device : String) (mtu : UInt32)
  | invalidAddress (device address : String)
  | invalidRouteDestination (device destination : String)
  | invalidRouteGateway (device via : String)
  deriving Repr, DecidableEq, Inhabited

/-- The sentence that reports a problem. -/
def Problem.message : Problem → String
  | .missing => "no network configuration provided"
  | .emptyName kind => kind.text ++ " name cannot be empty"
  | .duplicateName name => "device name " ++ quoted name ++ " is used more than once"
  | .invalidHwaddr device hwaddr => device ++ ": invalid hardware address " ++ quoted hwaddr
  | .duplicateHwaddr hwaddr first second =>
    "hardware address " ++ quoted hwaddr ++ " is declared by both " ++ first ++ " and " ++ second
  | .emptyBond bond => "bond " ++ bond ++ " has no members"
  | .unknownBondMember bond member =>
    "bond " ++ bond ++ ": member " ++ quoted member ++ " does not match any declared interface"
  | .duplicateBondMember member first second =>
    "member " ++ quoted member ++ " is used by both bond " ++ first ++ " and bond " ++ second
  | .unknownVlanParent vlan parent =>
    "vlan " ++ vlan ++ ": parent " ++ quoted parent ++ " is not a declared interface or bond"
  | .invalidVlanId device id =>
    device ++ ": invalid VLAN id " ++ toString id.toNat ++ " (must be 1-4094)"
  | .invalidMtu device mtu => device ++ ": invalid MTU " ++ toString mtu.toNat
  | .invalidAddress device address => device ++ ": invalid address " ++ quoted address
  | .invalidRouteDestination device destination =>
    device ++ ": invalid route destination " ++ quoted destination
  | .invalidRouteGateway device via => device ++ ": invalid route gateway " ++ quoted via

end HostNet
