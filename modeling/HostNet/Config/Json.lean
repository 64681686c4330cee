/-
**Configurations in JSON.**

A part that is absent and a list that is empty are not written, with three exceptions: `lldp`, the
members of a bond and the time servers are always there.

* `NetworkConfig.toJson`: a configuration as a value;
* `NetworkConfig.ofJson`: a configuration from a value;
* `NetworkConfig.decodeJson`: a configuration from a document.
-/

import HostNet.Config.Fields
import HostNet.Json.Format

namespace HostNet

namespace Json

/-- A natural number. -/
def ofNat (value : Nat) : Json := .number (.natural value)

/-- A list of texts. -/
def ofTexts (texts : List String) : Json := .array (texts.map .text)

/-- A member that is always written. -/
def always (name : String) (value : Json) : List (String × Json) := [(name, value)]

/-- A member that is written if it is present. -/
def ifPresent {α : Type} (name : String) (encode : α → Json) (value : Option α) :
    List (String × Json) :=
  match value with
  | some present => [(name, encode present)]
  | none => []

/-- A list that is written if it is not empty. -/
def ifFilled {α : Type} (name : String) (encode : α → Json) (items : List α) :
    List (String × Json) :=
  if items.isEmpty then [] else [(name, .array (items.map encode))]

end Json

open Json

/-- A route as a value. -/
def Route.toJson (route : Route) : Json :=
  record (always "to" (.text route.destination) ++ always "via" (.text route.via))

/-- A policy as a value. -/
def OnlinePolicy.toJson (policy : OnlinePolicy) : Json := .text policy.text

/-- The parts that all devices have after their own. -/
def deviceMembers (mtu : Option UInt32) (addresses : List String) (routes : List Route) :
    List (String × Json) :=
  ifPresent "mtu" (fun mtu => ofNat mtu.toNat) mtu ++ ifFilled "addresses" .text addresses ++
    ifFilled "routes" Route.toJson routes

/-- The parts that interfaces and bonds have for the ports of their bridges. -/
def portMembers (vlan : Option UInt16) (tags : List UInt16) (lldp : Bool) :
    List (String × Json) :=
  ifPresent "vlan" (fun id => ofNat id.toNat) vlan ++
    ifFilled "vlan_tags" (fun id => ofNat id.toNat) tags ++ always "lldp" (.bool lldp)

/-- The policy of a device. -/
def policyMembers (policy : Option OnlinePolicy) : List (String × Json) :=
  ifPresent "required_for_online" OnlinePolicy.toJson policy

/-- An interface as a value. -/
def Interface.toJson (interface : Interface) : Json :=
  record (always "name" (.text interface.name) ++ always "hwaddr" (.text interface.hwaddr) ++
    deviceMembers interface.mtu interface.addresses interface.routes ++
    portMembers interface.vlan interface.vlanTags interface.lldp ++
    policyMembers interface.requiredForOnline)

/-- A bond as a value. -/
def Bond.toJson (bond : Bond) : Json :=
  record (always "name" (.text bond.name) ++ ifPresent "hwaddr" .text bond.hwaddr ++
    always "members" (ofTexts bond.members) ++ always "mode" (.text bond.mode.text) ++
    deviceMembers bond.mtu bond.addresses bond.routes ++
    portMembers bond.vlan bond.vlanTags bond.lldp ++ policyMembers bond.requiredForOnline)

/-- A VLAN as a value. -/
def Vlan.toJson (vlan : Vlan) : Json :=
  record (always "name" (.text vlan.name) ++ always "id" (ofNat vlan.id.toNat) ++
    always "parent" (.text vlan.parent) ++
    deviceMembers vlan.mtu vlan.addresses vlan.routes ++ policyMembers vlan.requiredForOnline)

/-- Name resolution as a value. -/
def Dns.toJson (dns : Dns) : Json :=
  record (ifPresent "hostname" .text dns.hostname ++ ifPresent "domain" .text dns.domain ++
    ifFilled "search_domains" .text dns.searchDomains ++
    ifFilled "nameservers" .text dns.nameservers)

/-- Time synchronization as a value. -/
def Ntp.toJson (ntp : Ntp) : Json :=
  record (always "timeservers" (ofTexts ntp.timeservers))

/-- The web proxies as a value. -/
def Proxy.toJson (proxy : Proxy) : Json :=
  record (ifPresent "http_proxy" .text proxy.http ++ ifPresent "https_proxy" .text proxy.https ++
    ifPresent "no_proxy" .text proxy.exempt)

/-- A configuration as a value. -/
def NetworkConfig.toJson (config : NetworkConfig) : Json :=
  record (ifFilled "interfaces" Interface.toJson config.interfaces ++
    ifFilled "bonds" Bond.toJson config.bonds ++ ifFilled "vlans" Vlan.toJson config.vlans ++
    ifPresent "dns" Dns.toJson config.dns ++ ifPresent "ntp" Ntp.toJson config.ntp ++
    ifPresent "proxy" Proxy.toJson config.proxy)

/-- A configuration from a value. -/
def NetworkConfig.ofJson (value : Json) : Decoded NetworkConfig :=
  (NetworkConfig.fields Json.format).read Json.format value

/-- A configuration from a document. -/
def NetworkConfig.decodeJson (document : String) : Decoded NetworkConfig :=
  Json.decode (NetworkConfig.fields Json.format) document

end HostNet
