/-
**A configuration is what its JSON value says.**

Every record of a configuration is read back from the value written for it, whatever the order of
the members in that value: the fields of a record set parts of their own, those that are left out
are in the blank record as they were to be written, and a value that is written is never null.

* `Route.readBack` to `NetworkConfig.readBack` — each record, from the smallest to the whole;
* `Json.Terse` — what is left out: nothing that is null is written, and no empty list but the members
  of a bond and the time servers;
* `NetworkConfig.json_round_trip` — **a configuration is read back from its value**, so different
  configurations have different values, and a value that was read and written again stays as it is.
-/

import HostNet.Proofs.Json.Same

namespace HostNet

open Json

/-! ### Reading back -/

theorem Route.orderly : (Route.fields Json.format).Orderly where
  distinct := by decide
  independent := by
    simp [Route.fields, Field.needed, Field.independent, -bind_pure_comp]

theorem Route.readBack : ReadBack ((Route.fields Json.format).read Json.format) Route.toJson := by
  refine .record Route.orderly fun route => ?_
  simp only [List.append_assoc]
  exact written_always .text <| written_always .text <| .nil _

theorem Interface.orderly : (Interface.fields Json.format).Orderly where
  distinct := by decide
  independent := by
    simp [Interface.fields, Field.needed, Field.defaulted, Field.independent, -bind_pure_comp]

theorem Interface.readBack :
    ReadBack ((Interface.fields Json.format).read Json.format) Interface.toJson := by
  refine .record Interface.orderly fun interface => ?_
  simp only [deviceMembers, portMembers, policyMembers, List.append_assoc]
  exact written_always .text <| written_always .text <| written_ifPresent .mtu rfl <|
    written_ifFilled .text rfl <| written_ifFilled Route.readBack rfl <|
    written_ifPresent .vlanId rfl <| written_ifFilled .vlanId rfl <| written_always .flag <|
    written_ifPresent .policy rfl <| .nil _

theorem Bond.orderly : (Bond.fields Json.format).Orderly where
  distinct := by decide
  independent := by
    simp [Bond.fields, Field.needed, Field.defaulted, Field.independent, -bind_pure_comp]

theorem Bond.readBack : ReadBack ((Bond.fields Json.format).read Json.format) Bond.toJson := by
  refine .record Bond.orderly fun bond => ?_
  simp only [deviceMembers, portMembers, policyMembers, List.append_assoc]
  exact written_always .text <| written_ifPresent .text rfl <| written_always .texts <|
    written_always .mode <| written_ifPresent .mtu rfl <| written_ifFilled .text rfl <|
    written_ifFilled Route.readBack rfl <| written_ifPresent .vlanId rfl <|
    written_ifFilled .vlanId rfl <| written_always .flag <| written_ifPresent .policy rfl <|
    .nil _

theorem Vlan.orderly : (Vlan.fields Json.format).Orderly where
  distinct := by decide
  independent := by
    simp [Vlan.fields, Field.needed, Field.defaulted, Field.independent, -bind_pure_comp]

theorem Vlan.readBack : ReadBack ((Vlan.fields Json.format).read Json.format) Vlan.toJson := by
  refine .record Vlan.orderly fun vlan => ?_
  simp only [deviceMembers, policyMembers, List.append_assoc]
  exact written_always .text <| written_always .vlanId <| written_always .text <|
    written_ifPresent .mtu rfl <| written_ifFilled .text rfl <|
    written_ifFilled Route.readBack rfl <| written_ifPresent .policy rfl <| .nil _

theorem Dns.orderly : (Dns.fields Json.format).Orderly where
  distinct := by decide
  independent := by
    simp [Dns.fields, Field.defaulted, Field.independent, -bind_pure_comp]

theorem Dns.readBack : ReadBack ((Dns.fields Json.format).read Json.format) Dns.toJson := by
  refine .record Dns.orderly fun dns => ?_
  simp only [List.append_assoc]
  exact written_ifPresent .text rfl <| written_ifPresent .text rfl <|
    written_ifFilled .text rfl <| written_ifFilled .text rfl <| .nil _

theorem Ntp.orderly : (Ntp.fields Json.format).Orderly where
  distinct := by decide
  independent := by simp [Ntp.fields]

theorem Ntp.readBack : ReadBack ((Ntp.fields Json.format).read Json.format) Ntp.toJson :=
  .record Ntp.orderly fun _ => written_always .texts <| .nil _

theorem Proxy.orderly : (Proxy.fields Json.format).Orderly where
  distinct := by decide
  independent := by
    simp [Proxy.fields, Field.defaulted, Field.independent, -bind_pure_comp]

theorem Proxy.readBack : ReadBack ((Proxy.fields Json.format).read Json.format) Proxy.toJson := by
  refine .record Proxy.orderly fun proxy => ?_
  simp only [List.append_assoc]
  exact written_ifPresent .text rfl <| written_ifPresent .text rfl <|
    written_ifPresent .text rfl <| .nil _

theorem NetworkConfig.orderly : (NetworkConfig.fields Json.format).Orderly where
  distinct := by decide
  independent := by
    simp [NetworkConfig.fields, Field.defaulted, Field.independent, -bind_pure_comp]

theorem NetworkConfig.readBack : ReadBack NetworkConfig.ofJson NetworkConfig.toJson := by
  refine .record NetworkConfig.orderly fun config => ?_
  simp only [List.append_assoc]
  exact written_ifFilled Interface.readBack rfl <| written_ifFilled Bond.readBack rfl <|
    written_ifFilled Vlan.readBack rfl <| written_ifPresent Dns.readBack rfl <|
    written_ifPresent Ntp.readBack rfl <| written_ifPresent Proxy.readBack rfl <| .nil _

/-! ### What is left out -/

/-- No part of a value is null, and no member is an empty list but those that are always written. -/
inductive Json.Terse : Json → Prop
  | leaf {value : Json} (simple : value.isLeaf = true) (present : value ≠ .null) : Terse value
  | array {items : List Json} (each : ∀ item ∈ items, Terse item) : Terse (.array items)
  | object {members : List (Json × Json)} (each : ∀ member ∈ members, Terse member.2)
      (filled : ∀ member ∈ members, member.2 = .array [] →
        member.1 = .text "members" ∨ member.1 = .text "timeservers") : Terse (.object members)

namespace Json

/-- A member whose value is terse, and filled unless it is one that is always written. -/
def TerseMember (member : String × Json) : Prop :=
  member.2.Terse ∧ (member.2 = .array [] → member.1 = "members" ∨ member.1 = "timeservers")

theorem terse_record {members : List (String × Json)}
    (each : ∀ member ∈ members, TerseMember member) : (record members).Terse := by
  refine .object ?_ ?_
  · rintro _ inside
    obtain ⟨member, known, rfl⟩ := List.mem_map.mp inside
    exact (each member known).1
  · rintro _ inside empty
    obtain ⟨member, known, rfl⟩ := List.mem_map.mp inside
    exact ((each member known).2 empty).imp (congrArg _) (congrArg _)

theorem terse_text (text : String) : Terse (.text text) := .leaf rfl nofun

theorem terse_ofNat (value : Nat) : (ofNat value).Terse := .leaf rfl nofun

theorem terse_texts (texts : List String) : (ofTexts texts).Terse := by
  refine .array fun item inside => ?_
  obtain ⟨text, -, rfl⟩ := List.mem_map.mp inside
  exact .leaf rfl nofun

section Parts

variable {α : Type} {name : String} {write : α → Json}

theorem terse_always {value : Json} (terse : value.Terse) (filled : value ≠ .array []) :
    ∀ member ∈ always name value, TerseMember member := by
  intro member inside
  rw [List.mem_singleton.mp inside]
  exact ⟨terse, fun empty => absurd empty filled⟩

theorem terse_ifPresent {value : Option α} (terse : ∀ value, (write value).Terse)
    (filled : ∀ value, write value ≠ .array []) :
    ∀ member ∈ ifPresent name write value, TerseMember member := by
  intro member inside
  cases value with
  | none => cases inside
  | some value =>
    rw [List.mem_singleton.mp inside]
    exact ⟨terse value, fun empty => absurd empty (filled value)⟩

theorem terse_ifFilled {items : List α} (terse : ∀ item, (write item).Terse) :
    ∀ member ∈ ifFilled name write items, TerseMember member := by
  intro member inside
  cases items with
  | nil => cases inside
  | cons first items =>
    rw [List.mem_singleton.mp inside]
    refine ⟨.array fun item written => ?_, nofun⟩
    obtain ⟨value, -, rfl⟩ := List.mem_map.mp written
    exact terse value

end Parts

end Json

theorem Route.toJson_terse (route : Route) : route.toJson.Terse := by
  refine terse_record (List.forall_mem_append.mpr ⟨?_, ?_⟩)
  · exact terse_always (terse_text _) nofun
  · exact terse_always (terse_text _) nofun

theorem deviceMembers_terse (mtu : Option UInt32) (addresses : List String)
    (routes : List Route) : ∀ member ∈ deviceMembers mtu addresses routes, TerseMember member := by
  rw [deviceMembers, List.forall_mem_append, List.forall_mem_append]
  exact ⟨⟨terse_ifPresent (fun _ => terse_ofNat _) nofun, terse_ifFilled terse_text⟩,
    terse_ifFilled Route.toJson_terse⟩

theorem portMembers_terse (vlan : Option UInt16) (tags : List UInt16) (lldp : Bool) :
    ∀ member ∈ portMembers vlan tags lldp, TerseMember member := by
  rw [portMembers, List.forall_mem_append, List.forall_mem_append]
  exact ⟨⟨terse_ifPresent (fun _ => terse_ofNat _) nofun, terse_ifFilled fun _ => terse_ofNat _⟩,
    terse_always (.leaf rfl nofun) nofun⟩

theorem policyMembers_terse (policy : Option OnlinePolicy) :
    ∀ member ∈ policyMembers policy, TerseMember member :=
  terse_ifPresent (fun _ => terse_text _) nofun

theorem Interface.toJson_terse (interface : Interface) : interface.toJson.Terse := by
  refine terse_record ?_
  simp only [List.forall_mem_append]
  exact ⟨⟨⟨⟨terse_always (terse_text _) nofun, terse_always (terse_text _) nofun⟩,
    deviceMembers_terse _ _ _⟩, portMembers_terse _ _ _⟩, policyMembers_terse _⟩

theorem Bond.toJson_terse (bond : Bond) : bond.toJson.Terse := by
  have members : ∀ member ∈ always "members" (ofTexts bond.members), TerseMember member := by
    intro member inside
    rw [List.mem_singleton.mp inside]
    exact ⟨terse_texts _, fun _ => .inl rfl⟩
  refine terse_record ?_
  simp only [List.forall_mem_append]
  exact ⟨⟨⟨⟨⟨⟨terse_always (terse_text _) nofun, terse_ifPresent terse_text nofun⟩, members⟩,
    terse_always (terse_text _) nofun⟩, deviceMembers_terse _ _ _⟩, portMembers_terse _ _ _⟩,
    policyMembers_terse _⟩

theorem Vlan.toJson_terse (vlan : Vlan) : vlan.toJson.Terse := by
  refine terse_record ?_
  simp only [List.forall_mem_append]
  exact ⟨⟨⟨⟨terse_always (terse_text _) nofun, terse_always (terse_ofNat _) nofun⟩,
    terse_always (terse_text _) nofun⟩, deviceMembers_terse _ _ _⟩, policyMembers_terse _⟩

theorem Dns.toJson_terse (dns : Dns) : dns.toJson.Terse := by
  refine terse_record ?_
  simp only [List.forall_mem_append]
  exact ⟨⟨⟨terse_ifPresent terse_text nofun, terse_ifPresent terse_text nofun⟩,
    terse_ifFilled terse_text⟩, terse_ifFilled terse_text⟩

theorem Ntp.toJson_terse (ntp : Ntp) : ntp.toJson.Terse := by
  refine terse_record fun member inside => ?_
  rw [List.mem_singleton.mp inside]
  exact ⟨terse_texts _, fun _ => .inr rfl⟩

theorem Proxy.toJson_terse (proxy : Proxy) : proxy.toJson.Terse := by
  refine terse_record ?_
  simp only [List.forall_mem_append]
  exact ⟨⟨terse_ifPresent terse_text nofun, terse_ifPresent terse_text nofun⟩,
    terse_ifPresent terse_text nofun⟩

theorem NetworkConfig.toJson_terse (config : NetworkConfig) : config.toJson.Terse := by
  refine terse_record ?_
  simp only [List.forall_mem_append]
  exact ⟨⟨⟨⟨⟨terse_ifFilled Interface.toJson_terse, terse_ifFilled Bond.toJson_terse⟩,
    terse_ifFilled Vlan.toJson_terse⟩, terse_ifPresent Dns.toJson_terse nofun⟩,
    terse_ifPresent Ntp.toJson_terse nofun⟩, terse_ifPresent Proxy.toJson_terse nofun⟩

/-! ### What is written -/

namespace Json

/-- The value of the first member of a name. -/
def member? (name : String) : Json → Option Json
  | .object members => (members.map fun member => (member.1.name?, member.2)).lookup (some name)
  | _ => none

theorem member?_record (name : String) (members : List (String × Json)) :
    (record members).member? name = members.lookup name := by
  rw [record, member?, List.map_map]
  induction members with
  | nil => rfl
  | cons member members ih =>
    rw [List.map_cons, List.lookup_cons, List.lookup_cons, ih]
    rfl

section Parts

variable {α : Type} {write : α → Json}

theorem lookup_always (name other : String) (value : Json) :
    (always other value).lookup name = if name = other then some value else none := by
  by_cases same : name = other <;> simp [always, List.lookup_cons, same, beq_eq_false_iff_ne.mpr]

theorem lookup_ifPresent (name other : String) (value : Option α) :
    (ifPresent other write value).lookup name = if name = other then value.map write else none := by
  cases value with
  | none => simp [ifPresent]
  | some value => exact lookup_always name other (write value)

theorem lookup_ifFilled (name other : String) (items : List α) :
    (ifFilled other write items).lookup name =
      if name = other ∧ items ≠ [] then some (.array (items.map write)) else none := by
  cases items with
  | nil => simp [ifFilled]
  | cons first items =>
    have lookup := lookup_always name other (.array ((first :: items).map write))
    simpa [ifFilled, always] using lookup

end Parts

end Json

/-- The value that is written for a value that can be read. -/
def NetworkConfig.rewritten (value : Json) : Decoded Json :=
  (NetworkConfig.ofJson value).map NetworkConfig.toJson

/-- **Configurations are what their values say**, up to the order of members. -/
structure NetworkConfig.ToldByJson : Prop where
  /-- A configuration is read from its value. -/
  read : ∀ config value, (toJson config).Same value → ofJson value = .ok config
  /-- Different configurations have different values. -/
  distinct : ∀ config other, (toJson config).Same (toJson other) → config = other
  /-- A value that was read and written again stays as it is. -/
  settled : ∀ value written, rewritten value = .ok written →
    ∀ other, written.Same other → rewritten other = .ok written
  /-- Nothing that is absent or empty is written, but the members of a bond and time servers. -/
  terse : ∀ config, (toJson config).Terse
  /-- A section is written exactly if it is there, empty or not. -/
  dns : ∀ config, (toJson config).member? "dns" = config.dns.map Dns.toJson
  ntp : ∀ config, (toJson config).member? "ntp" = config.ntp.map Ntp.toJson
  proxy : ∀ config, (toJson config).member? "proxy" = config.proxy.map Proxy.toJson
  /-- What is always written. -/
  interfaceLldp : ∀ interface : Interface,
    interface.toJson.member? "lldp" = some (.bool interface.lldp)
  bondLldp : ∀ bond : Bond, bond.toJson.member? "lldp" = some (.bool bond.lldp)
  members : ∀ bond : Bond, bond.toJson.member? "members" = some (ofTexts bond.members)
  timeservers : ∀ ntp : Ntp, ntp.toJson.member? "timeservers" = some (ofTexts ntp.timeservers)

/-- **A configuration is read back from its value**, which leaves out what is absent and empty. -/
theorem NetworkConfig.json_round_trip : NetworkConfig.ToldByJson where
  read _ _ same := readBack.reads same
  distinct config other same := by
    have one := readBack.reads same
    have two := readBack.reads (Same.refl other.toJson)
    exact Except.ok.inj (one.symm.trans two)
  settled value written done other same := by
    rcases known : ofJson value with failure | config
    · rw [rewritten, known] at done
      cases done
    · rw [rewritten, known] at done
      obtain rfl : config.toJson = written := Except.ok.inj done
      rw [rewritten, readBack.reads same]
      rfl
  terse := toJson_terse
  dns config := by
    simp [toJson, member?_record, List.lookup_append, lookup_ifPresent, lookup_ifFilled]
  ntp config := by
    simp [toJson, member?_record, List.lookup_append, lookup_ifPresent, lookup_ifFilled]
  proxy config := by
    simp [toJson, member?_record, List.lookup_append, lookup_ifPresent, lookup_ifFilled]
  interfaceLldp interface := by
    simp [Interface.toJson, member?_record, deviceMembers, portMembers, List.lookup_append,
      lookup_ifPresent, lookup_ifFilled, lookup_always]
  bondLldp bond := by
    simp [Bond.toJson, member?_record, deviceMembers, portMembers, List.lookup_append,
      lookup_ifPresent, lookup_ifFilled, lookup_always]
  members bond := by
    simp [Bond.toJson, member?_record, List.lookup_append, lookup_ifPresent, lookup_always]
  timeservers ntp := by
    simp [Ntp.toJson, member?_record, lookup_always]

end HostNet
