/-
**The ends that carry the names of devices.**

Each interface, each bond and each VLAN has one end that carries its own name, and one unit for that
end. Its text says whether the host waits for the device, then which VLANs are stacked on the device,
one line for each, then the name and time servers of the host, and in the end how the device gets its
addresses and routes.

* `OwnEnd`: what the unit of such an end is written from;
* `OwnEnd.contents_eq`: the text of the unit, piece by piece.
-/

import HostNet.Proofs.Unit.Addressing

namespace HostNet

open UnitLine

/-! ### The text of an end -/

/-- The lines that attach VLANs to a device. -/
def vlanEntries (stacked : List Vlan) : String :=
  String.join (stacked.map fun vlan => "VLAN=" ++ vlan.name ++ "\n")

theorem vlanEntries_append (front back : List Vlan) :
    vlanEntries (front ++ back) = vlanEntries front ++ vlanEntries back := by
  rw [vlanEntries, List.map_append, String.join_append]
  rfl

theorem vlanEntries_cons (vlan : Vlan) (rest : List Vlan) :
    vlanEntries (vlan :: rest) = "VLAN=" ++ vlan.name ++ "\n" ++ vlanEntries rest := by
  rw [vlanEntries, List.map_cons, String.join_cons]
  rfl

/-- The lines about the name and time servers of the host. -/
def hostText (config : NetworkConfig) : String := render (networkSectionLines config [])

/-- The text that does not depend on the device. -/
def dhcpText : String := "\n[DHCP]\nClientIdentifier=mac\nRouteMetric=100\nUseMTU=true\n"

/-- What the unit of the end that carries a device's own name is written from. -/
structure OwnEnd where
  /-- The rank of the unit. -/
  rank : String
  name : String
  addresses : List String
  routes : List Route
  policy : Option OnlinePolicy
  /-- The VLANs whose parent the device is. -/
  stacked : List Vlan

namespace OwnEnd

/-- The unit of the end. -/
def unit (config : NetworkConfig) (own : OwnEnd) : UnitFile :=
  endNetwork config own.rank own.name own.addresses own.routes own.policy own.stacked

/-- The text in front of the lines that say whether the host waits for the device. -/
def opening (own : OwnEnd) : String := "[Match]\nName=" ++ own.name ++ "\n\n[Link]\n"

/-- The lines that say whether the host waits for the device. -/
def onlineText (own : OwnEnd) : String :=
  render (requiredForOnlineLines own.addresses own.policy)

/-- The text in front of the lines that attach VLANs. -/
def head (own : OwnEnd) : String := own.opening ++ own.onlineText ++ dhcpText ++ "\n[Network]\n"

/-- The text behind the lines that attach VLANs. -/
def tail (config : NetworkConfig) (own : OwnEnd) : String :=
  hostText config ++ addressingText own.addresses own.routes

theorem networkSectionLines_text (config : NetworkConfig) (stacked : List Vlan) :
    render (networkSectionLines config stacked) = vlanEntries stacked ++ hostText config := by
  have attached : render (stacked.map fun vlan => .setting "VLAN" vlan.name) = vlanEntries stacked := by
    induction stacked with
    | nil => rfl
    | cons vlan rest ih =>
      rw [vlanEntries_cons, List.map_cons, render, ih, text]
      rfl
  rw [hostText, ← attached, ← render_append, networkSectionLines, networkSectionLines]
  simp only [List.map_nil, List.nil_append, List.append_assoc]

/-- **The text of the unit of an end**, piece by piece. -/
theorem contents_eq (config : NetworkConfig) (own : OwnEnd) :
    (own.unit config).contents = own.head ++ vlanEntries own.stacked ++ own.tail config := by
  have opened : render [.header "Match", .setting "Name" own.name, .blank, .header "Link"] =
      own.opening := by
    simp [render, text, opening, ← String.toList_inj]
  have dhcp : render [.blank, .header "DHCP", .setting "ClientIdentifier" "mac",
      .setting "RouteMetric" "100", .setting "UseMTU" "true", .blank, .header "Network"] =
      dhcpText ++ "\n[Network]\n" := by decide
  simp only [UnitFile.contents, unit, endNetwork, render_append, opened, dhcp,
    networkSectionLines_text, head, tail, addressingText, onlineText, String.append_assoc]

end OwnEnd

end HostNet
