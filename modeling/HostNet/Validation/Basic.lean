/-
**Checking a configuration.**

The rules are checked in a fixed order and the first broken one is reported: the names of all
devices, then each interface, each bond and each VLAN, with the rules of one device in the order
in which `checkInterfaces`, `checkBonds` and `checkVlans` list them.

* `checkEach_ok_iff`: a list passes exactly when each of its items does;
* `exists_of_checkEach_error`: what is reported of a list is reported of one of its items;
* `NetworkConfig.validate_ok_iff`: a configuration passes exactly when its four parts do.
-/

import HostNet.Config.Basic
import HostNet.Validation.Problem

namespace HostNet

/-- The outcome of a check: passed, or the first problem found. -/
abbrev Verdict := Except Problem Unit

namespace Verdict

/-- Passes if a rule holds. -/
def require (rule : Bool) (problem : Problem) : Verdict :=
  if rule then .ok () else .error problem

@[simp] theorem require_ok_iff (rule : Bool) (problem : Problem) :
    require rule problem = .ok () ↔ rule = true := by
  cases rule <;> simp [require]

@[simp] theorem require_error_iff {rule : Bool} {problem reported : Problem} :
    require rule problem = .error reported ↔ rule = false ∧ reported = problem := by
  cases rule <;> simp [require, eq_comm]

/-- Two checks, of which the first is made first. -/
def both (first second : Verdict) : Verdict :=
  match first with
  | .ok () => second
  | .error problem => .error problem

@[simp] theorem both_ok_iff (first second : Verdict) :
    both first second = .ok () ↔ first = .ok () ∧ second = .ok () := by
  cases first with
  | ok => simp [both]
  | error => simp [both]

@[simp] theorem both_error_iff {first second : Verdict} {reported : Problem} :
    both first second = .error reported ↔
      first = .error reported ∨ (first = .ok () ∧ second = .error reported) := by
  cases first with
  | ok => simp [both]
  | error => simp [both]

/-- Several checks, made in order. -/
def all : List Verdict → Verdict
  | [] => .ok ()
  | check :: checks => both check (all checks)

@[simp] theorem all_ok_iff (checks : List Verdict) :
    all checks = .ok () ↔ ∀ check ∈ checks, check = .ok () := by
  induction checks with
  | nil => simp [all]
  | cons check checks ih => simp [all, ih]

/-- What some checks report is reported by one of them. -/
theorem exists_of_all_error {checks : List Verdict} {reported : Problem}
    (refused : all checks = .error reported) : .error reported ∈ checks := by
  induction checks with
  | nil => cases refused
  | cons check checks ih =>
    obtain here | ⟨_, later⟩ := both_error_iff.mp refused
    · exact List.mem_cons.mpr (.inl here.symm)
    · exact List.mem_cons_of_mem check (ih later)

end Verdict

open Verdict

/-- Checks the items of a list in order. -/
def checkEach {α : Type} (check : α → Verdict) (items : List α) : Verdict :=
  all (items.map check)

/-- A list passes exactly when each of its items does. -/
@[simp] theorem checkEach_ok_iff {α : Type} (check : α → Verdict) (items : List α) :
    checkEach check items = .ok () ↔ ∀ item ∈ items, check item = .ok () := by
  simp [checkEach]

/-- What the check of a list reports is reported of one of its items. -/
theorem exists_of_checkEach_error {α : Type} {check : α → Verdict} {items : List α}
    {reported : Problem} (refused : checkEach check items = .error reported) :
    ∃ item ∈ items, check item = .error reported :=
  List.mem_map.mp (exists_of_all_error refused)

/-! ### Rules of one device -/

/-- An MTU that a device may have. -/
def isMtu (mtu : UInt32) : Bool := 68 ≤ mtu && mtu ≤ 65535

/-- An id that a VLAN may have. -/
def isVlanId (id : UInt16) : Bool := 1 ≤ id && id ≤ 4094

/-- The MTU of a device, if set, is in range. -/
def checkMtu (device : String) (mtu : Option UInt32) : Verdict :=
  match mtu with
  | some mtu => require (isMtu mtu) (.invalidMtu device mtu)
  | none => .ok ()

/-- A VLAN id is in range. -/
def checkVlanId (device : String) (id : UInt16) : Verdict :=
  require (isVlanId id) (.invalidVlanId device id)

/-- The native VLAN and then the tagged VLANs of a bridge port are in range. -/
def checkPortVlans (device : String) (native : Option UInt16) (tags : List UInt16) : Verdict :=
  checkEach (checkVlanId device) (native.toList ++ tags)

/-- The address entries of a device are words or addresses with a prefix length. -/
def checkAddresses (device : String) (addresses : List String) : Verdict :=
  checkEach (fun address => require (isAddressEntry address) (.invalidAddress device address))
    addresses

/-- A route leads to an address with a prefix length by a gateway. -/
def checkRoute (device : String) (route : Route) : Verdict :=
  both
    (require (isAddressPrefix route.destination)
      (.invalidRouteDestination device route.destination))
    (require (isGateway route.via) (.invalidRouteGateway device route.via))

/-- The routes of a device. -/
def checkRoutes (device : String) (routes : List Route) : Verdict :=
  checkEach (checkRoute device) routes

/-! ### Names -/

/-- The names of all devices with their kinds: interfaces, then bonds, then VLANs. -/
def NetworkConfig.names (config : NetworkConfig) : List (DeviceKind × String) :=
  config.interfaces.map (fun interface => (.interface, interface.name)) ++
    config.bonds.map (fun bond => (.bond, bond.name)) ++
    config.vlans.map (fun vlan => (.vlan, vlan.name))

/-- Names are not empty and none repeats an earlier one. -/
def checkNames (earlier : List String) : List (DeviceKind × String) → Verdict
  | [] => .ok ()
  | (kind, name) :: rest =>
    if name = "" then .error (.emptyName kind)
    else if earlier.contains name then .error (.duplicateName name)
    else checkNames (name :: earlier) rest

/-! ### Interfaces, bonds and VLANs -/

/-- What a bridge port and the device behind it have in common. -/
def checkPort (device : String) (mtu : Option UInt32) (native : Option UInt16)
    (tags : List UInt16) (addresses : List String) (routes : List Route) : Verdict :=
  all [checkMtu device mtu, checkPortVlans device native tags, checkAddresses device addresses,
    checkRoutes device routes]

/-- Interfaces have well-formed hardware addresses, none of which repeats an earlier one in any
letter case. `earlier` holds the keys seen so far with the names of their interfaces. -/
def checkInterfaces (earlier : List (String × String)) : List Interface → Verdict
  | [] => .ok ()
  | interface :: rest =>
    if Hwaddr.isWellFormed interface.hwaddr then
      match earlier.lookup (Hwaddr.key interface.hwaddr) with
      | some first =>
        .error (.duplicateHwaddr interface.hwaddr first interface.name)
      | none =>
        both
          (checkPort interface.name interface.mtu interface.vlan interface.vlanTags
            interface.addresses interface.routes)
          (checkInterfaces ((Hwaddr.key interface.hwaddr, interface.name) :: earlier) rest)
    else .error (.invalidHwaddr interface.name interface.hwaddr)

/-- The members of one bond are declared interfaces that no bond has taken yet; answers the members
taken so far with the names of their bonds. -/
def claimMembers (declared : List String) (bond : String) (taken : List (String × String)) :
    List String → Except Problem (List (String × String))
  | [] => .ok taken
  | member :: rest =>
    if Hwaddr.isWellFormed member && declared.contains (Hwaddr.key member) then
      match taken.lookup (Hwaddr.key member) with
      | some first => .error (.duplicateBondMember member first bond)
      | none => claimMembers declared bond ((Hwaddr.key member, bond) :: taken) rest
    else .error (.unknownBondMember bond member)

/-- A hardware address set for a bond is well-formed. -/
def checkBondHwaddr (bond : Bond) : Verdict :=
  match bond.explicitHwaddr? with
  | some hwaddr => require (Hwaddr.isWellFormed hwaddr) (.invalidHwaddr bond.name hwaddr)
  | none => .ok ()

/-- Bonds have members of their own. -/
def checkBonds (declared : List String) (taken : List (String × String)) :
    List Bond → Verdict
  | [] => .ok ()
  | bond :: rest =>
    if bond.members.isEmpty then .error (.emptyBond bond.name)
    else
      match claimMembers declared bond.name taken bond.members with
      | .error problem => .error problem
      | .ok taken =>
        both (checkBondHwaddr bond)
          (both
            (checkPort bond.name bond.mtu bond.vlan bond.vlanTags bond.addresses bond.routes)
            (checkBonds declared taken rest))

/-- The names that a VLAN may have as its parent. -/
def NetworkConfig.parents (config : NetworkConfig) : List String :=
  config.interfaces.map (·.name) ++ config.bonds.map (·.name)

/-- A VLAN stands on a declared interface or bond. -/
def checkVlan (parents : List String) (vlan : Vlan) : Verdict :=
  all [require (parents.contains vlan.parent) (.unknownVlanParent vlan.name vlan.parent),
    checkVlanId vlan.name vlan.id, checkMtu vlan.name vlan.mtu,
    checkAddresses vlan.name vlan.addresses, checkRoutes vlan.name vlan.routes]

/-- The VLANs of a configuration. -/
def checkVlans (parents : List String) (vlans : List Vlan) : Verdict :=
  checkEach (checkVlan parents) vlans

/-- The keys of the declared interfaces' hardware addresses. -/
def NetworkConfig.declaredKeys (config : NetworkConfig) : List String :=
  config.interfaces.map fun interface => Hwaddr.key interface.hwaddr

/-- Checks a configuration and reports the first problem found. -/
def NetworkConfig.validate (config : NetworkConfig) : Verdict :=
  all [checkNames [] config.names, checkInterfaces [] config.interfaces,
    checkBonds config.declaredKeys [] config.bonds, checkVlans config.parents config.vlans]

/-- A configuration passes exactly when its four parts do. -/
theorem NetworkConfig.validate_ok_iff (config : NetworkConfig) :
    config.validate = .ok () ↔
      checkNames [] config.names = .ok () ∧ checkInterfaces [] config.interfaces = .ok () ∧
        checkBonds config.declaredKeys [] config.bonds = .ok () ∧
          checkVlans config.parents config.vlans = .ok () := by
  simp [validate]

end HostNet
