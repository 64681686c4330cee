/-
**The fields of a configuration.**

The names that the parts of a configuration have in documents of any format, in their order. A field
is required exactly when its part has no default.

* `NetworkConfig.fields`: the root record;
* `OnlinePolicy.ofText?_text` and `BondMode.ofText?_text`: a word stands for one value only.
-/

import HostNet.Config.Basic
import HostNet.Schema.Record

namespace HostNet

/-- The policy of a word. -/
def OnlinePolicy.ofText? (word : String) : Option OnlinePolicy :=
  OnlinePolicy.all.find? (·.text = word)

/-- The mode of a word. -/
def BondMode.ofText? (word : String) : Option BondMode :=
  BondMode.all.find? (·.text = word)

/-- A policy is recovered from its word. -/
theorem OnlinePolicy.ofText?_text (policy : OnlinePolicy) :
    OnlinePolicy.ofText? policy.text = some policy := by
  cases policy <;> decide

/-- A mode is recovered from its word. -/
theorem BondMode.ofText?_text (mode : BondMode) : BondMode.ofText? mode.text = some mode := by
  cases mode <;> decide

variable {V : Type} (format : Format V)

/-! ### Values -/

/-- An MTU. -/
def Format.mtu (value : V) : Decoded UInt32 := do
  return .ofNat (← format.natural 32 value)

/-- The id of a VLAN. -/
def Format.vlanId (value : V) : Decoded UInt16 := do
  return .ofNat (← format.natural 16 value)

/-- A list of texts. -/
def Format.texts (value : V) : Decoded (List String) := format.list format.text value

/-- A policy. -/
def Format.policy (value : V) : Decoded OnlinePolicy :=
  format.choice OnlinePolicy.all OnlinePolicy.text value

/-- A mode. -/
def Format.mode (value : V) : Decoded BondMode :=
  format.choice BondMode.all BondMode.text value

/-! ### Records -/

/-- A route. -/
def Route.fields : Record V Route where
  title := "struct Route"
  blank := ⟨"", ""⟩
  fields := [
    .needed "to" format.text fun text draft => { draft with destination := text },
    .needed "via" format.text fun text draft => { draft with via := text }]

/-- A list of routes. -/
def Format.routes (value : V) : Decoded (List Route) :=
  format.list ((Route.fields format).read format) value

/-- An interface. -/
def Interface.fields : Record V Interface where
  title := "struct Interface"
  blank := { name := "", hwaddr := "" }
  fields := [
    .needed "name" format.text fun text draft => { draft with name := text },
    .needed "hwaddr" format.text fun text draft => { draft with hwaddr := text },
    .defaulted "mtu" (format.option format.mtu) fun mtu draft => { draft with mtu := mtu },
    .defaulted "addresses" format.texts fun list draft => { draft with addresses := list },
    .defaulted "routes" format.routes fun list draft => { draft with routes := list },
    .defaulted "vlan" (format.option format.vlanId) fun id draft => { draft with vlan := id },
    .defaulted "vlan_tags" (format.list format.vlanId)
      fun list draft => { draft with vlanTags := list },
    .defaulted "lldp" format.flag fun flag draft => { draft with lldp := flag },
    .defaulted "required_for_online" (format.option format.policy)
      fun policy draft => { draft with requiredForOnline := policy }]

/-- A bond. -/
def Bond.fields : Record V Bond where
  title := "struct Bond"
  blank := { name := "", members := [], mode := .balanceRoundRobin }
  fields := [
    .needed "name" format.text fun text draft => { draft with name := text },
    .defaulted "hwaddr" (format.option format.text)
      fun text draft => { draft with hwaddr := text },
    .needed "members" format.texts fun list draft => { draft with members := list },
    .needed "mode" format.mode fun mode draft => { draft with mode := mode },
    .defaulted "mtu" (format.option format.mtu) fun mtu draft => { draft with mtu := mtu },
    .defaulted "addresses" format.texts fun list draft => { draft with addresses := list },
    .defaulted "routes" format.routes fun list draft => { draft with routes := list },
    .defaulted "vlan" (format.option format.vlanId) fun id draft => { draft with vlan := id },
    .defaulted "vlan_tags" (format.list format.vlanId)
      fun list draft => { draft with vlanTags := list },
    .defaulted "lldp" format.flag fun flag draft => { draft with lldp := flag },
    .defaulted "required_for_online" (format.option format.policy)
      fun policy draft => { draft with requiredForOnline := policy }]

/-- A VLAN. -/
def Vlan.fields : Record V Vlan where
  title := "struct Vlan"
  blank := { name := "", id := 0, parent := "" }
  fields := [
    .needed "name" format.text fun text draft => { draft with name := text },
    .needed "id" format.vlanId fun id draft => { draft with id := id },
    .needed "parent" format.text fun text draft => { draft with parent := text },
    .defaulted "mtu" (format.option format.mtu) fun mtu draft => { draft with mtu := mtu },
    .defaulted "addresses" format.texts fun list draft => { draft with addresses := list },
    .defaulted "routes" format.routes fun list draft => { draft with routes := list },
    .defaulted "required_for_online" (format.option format.policy)
      fun policy draft => { draft with requiredForOnline := policy }]

/-- Name resolution. -/
def Dns.fields : Record V Dns where
  title := "struct Dns"
  blank := {}
  fields := [
    .defaulted "hostname" (format.option format.text)
      fun text draft => { draft with hostname := text },
    .defaulted "domain" (format.option format.text)
      fun text draft => { draft with domain := text },
    .defaulted "search_domains" format.texts
      fun list draft => { draft with searchDomains := list },
    .defaulted "nameservers" format.texts
      fun list draft => { draft with nameservers := list }]

/-- Time synchronization. -/
def Ntp.fields : Record V Ntp where
  title := "struct Ntp"
  blank := {}
  fields := [
    .defaulted "timeservers" format.texts fun list draft => { draft with timeservers := list }]

/-- The web proxies. -/
def Proxy.fields : Record V Proxy where
  title := "struct Proxy"
  blank := {}
  fields := [
    .defaulted "http_proxy" (format.option format.text)
      fun text draft => { draft with http := text },
    .defaulted "https_proxy" (format.option format.text)
      fun text draft => { draft with https := text },
    .defaulted "no_proxy" (format.option format.text)
      fun text draft => { draft with exempt := text }]

/-- The declared network. -/
def NetworkConfig.fields : Record V NetworkConfig where
  title := "struct NetworkConfig"
  blank := {}
  fields := [
    .defaulted "interfaces" (format.list ((Interface.fields format).read format))
      fun list draft => { draft with interfaces := list },
    .defaulted "bonds" (format.list ((Bond.fields format).read format))
      fun list draft => { draft with bonds := list },
    .defaulted "vlans" (format.list ((Vlan.fields format).read format))
      fun list draft => { draft with vlans := list },
    .defaulted "dns" (format.option ((Dns.fields format).read format))
      fun dns draft => { draft with dns := dns },
    .defaulted "ntp" (format.option ((Ntp.fields format).read format))
      fun ntp draft => { draft with ntp := ntp },
    .defaulted "proxy" (format.option ((Proxy.fields format).read format))
      fun proxy draft => { draft with proxy := proxy }]

end HostNet
