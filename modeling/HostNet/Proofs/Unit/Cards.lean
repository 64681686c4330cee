/-
**Which cards the hardware addresses of a configuration stand for.**

The card of a well-formed address has a name of two letters and twelve hexadecimal digits in lower
case, which is what the log is searched for. Addresses that differ in more than letter case have
different names, so each member of a bond is the card of one interface, and no card has two units of
one rank. A bond has an address, its own or that of its first member.

The units of the pairs of ends present these addresses, as long as the names of the devices are one
line each. The check lets a name pass that goes on in further lines, and these may add a pair without
an address: `spoofed_pair_unaddressed`.

* `LogPiece`: a part of a pattern by which the log is searched;
* `FoundIn`: a pattern is found in a line;
* `CardName`: the names that cards have;
* `renamed_found`: the log line about a card with such a name is found;
* `WellFormed.link_names_nodup`: the units that name cards have different names;
* `PairFormed`: a unit that creates a pair of ends has one well-formed address, by its text;
* `WellFormed.pairs_formed`: so it is if the names of the devices are one line each;
* `NetworkConfig.cards_resolved`: what a configuration that passes the check says about cards.
-/

import HostNet.Command.Tools
import HostNet.Proofs.Unit.Names
import HostNet.Proofs.Unit.Settings

namespace HostNet

open HostNet.Text

/-! ### Searching the log -/

/-- A part of a pattern by which the log is searched: a text, or a number of hexadecimal digits. -/
inductive LogPiece where
  | verbatim (text : String)
  | digits (count : Nat)

namespace LogPiece

/-- How a part is written in a pattern. -/
def pattern : LogPiece → String
  | .verbatim text => text
  | .digits count => "[[:xdigit:]]\x7b" ++ toString count ++ "\x7d"

/-- A text in which no character has a meaning of its own in a pattern. -/
def Plain : LogPiece → Prop
  | .verbatim text => ∀ character ∈ text.toList, character ∉ "\\^$.|?*+()[]\x7b\x7d".toList
  | .digits _ => True

/-- What a part stands for. -/
def Matches : LogPiece → List Char → Prop
  | .verbatim text, characters => characters = text.toList
  | .digits count, characters =>
    characters.length = count ∧ ∀ character ∈ characters, IsHexadecimal character

end LogPiece

/-- Parts that follow each other. -/
def MatchesAll : List LogPiece → List Char → Prop
  | [], characters => characters = []
  | piece :: pieces, characters =>
    ∃ first rest, characters = first ++ rest ∧ piece.Matches first ∧ MatchesAll pieces rest

/-- **A pattern is found in a line**: the line holds what its parts stand for, one after the other. -/
def FoundIn (pattern line : String) : Prop :=
  ∃ pieces : List LogPiece, (∀ piece ∈ pieces, piece.Plain) ∧
    pattern = String.join (pieces.map (·.pattern)) ∧
      ∃ before found after, line.toList = before ++ found ++ after ∧ MatchesAll pieces found

/-! ### The names of cards -/

/-- A hexadecimal digit in lower case. -/
def IsLowerHexadecimal (character : Char) : Prop :=
  ('0' ≤ character ∧ character ≤ '9') ∨ ('a' ≤ character ∧ character ≤ 'f')

/-- **The name of a card**: two letters and twelve hexadecimal digits in lower case. -/
def CardName (name : String) : Prop :=
  ∃ digits : List Char, digits.length = 12 ∧ (∀ digit ∈ digits, IsLowerHexadecimal digit) ∧
    name = "en" ++ String.ofList digits

theorem isLowerHexadecimal_toLower {character : Char} (hexadecimal : IsHexadecimal character) :
    IsLowerHexadecimal character.toLower := by
  have codes : IsLowerHexadecimal character.toLower ↔
      (48 ≤ character.toLower.toNat ∧ character.toLower.toNat ≤ 57) ∨
        (97 ≤ character.toLower.toNat ∧ character.toLower.toNat ≤ 102) := Iff.rfl
  rw [isHexadecimal_iff_toNat] at hexadecimal
  rw [codes, toNat_toLower]
  split <;> omega

theorem Hwaddr.Formed.cardName {hwaddr : String} (formed : Hwaddr.Formed hwaddr) :
    CardName (Hwaddr.deviceName hwaddr) := by
  obtain ⟨octets, six, two, _, named⟩ := Hwaddr.exists_deviceName_eq formed
  refine ⟨octets.flatten, Hwaddr.length_flatten_octets six two, fun digit member => ?_, named⟩
  -- The octets tell how many digits there are, the definition of the name that they are lowered.
  have same : octets.flatten = (hwaddr.toList.filter (· ≠ ':')).map Char.toLower := by
    have characters := congrArg String.toList named
    simpa [Hwaddr.deviceName] using characters.symm
  rw [same] at member
  obtain ⟨original, kept, rfl⟩ := List.mem_map.mp member
  obtain ⟨there, noColon⟩ := List.mem_filter.mp kept
  have hexadecimal := (formed.mem there).resolve_right (by simpa using noColon)
  exact isLowerHexadecimal_toLower ((isHexDigit_iff original).mp hexadecimal)

/-- The parts of what the kernel log says when a card has been given its name. -/
def renamePieces : List LogPiece := [.verbatim "en", .digits 12, .verbatim ": renamed from "]

theorem renamePieces_plain : ∀ piece ∈ renamePieces, piece.Plain := by
  simp [renamePieces, LogPiece.Plain]

/-- **The log line about a card is found.** -/
theorem renamed_found {name : String} (card : CardName name) (before after : String) :
    FoundIn Command.renamePattern (before ++ name ++ ": renamed from " ++ after) := by
  obtain ⟨digits, twelve, lower, rfl⟩ := card
  refine ⟨renamePieces, renamePieces_plain, by decide +kernel, before.toList,
    "en".toList ++ (digits ++ ": renamed from ".toList), after.toList, by simp, ?_⟩
  have hexadecimal : ∀ digit ∈ digits, IsHexadecimal digit := fun digit member =>
    (lower digit member).imp_right .inl
  exact ⟨_, _, rfl, rfl, digits, _, rfl, ⟨twelve, hexadecimal⟩, _, [], by simp, rfl, rfl⟩

/-! ### Units about cards -/

section Units

variable (rank device hwaddr : String) (mtu : Option UInt32)

theorem bridgeNetDev_kind :
    (bridgeNetDev rank device mtu).meantValues "NetDev" "Kind" = ["bridge"] := by
  have keeps := bridgeNetDev_keeps rank device mtu
  simp [keeps.meantValues_eq, UnitTemplate.bridge, newDevice]

theorem bondNetDev_kind (bond : Bond) :
    (bondNetDev bond).meantValues "NetDev" "Kind" = ["bond"] := by
  have keeps := bondNetDev_keeps bond
  simp [keeps.meantValues_eq, UnitTemplate.bond, newDevice]

theorem vlanNetDev_kind (vlan : Vlan) :
    (vlanNetDev vlan).meantValues "NetDev" "Kind" = ["vlan"] := by
  have keeps := vlanNetDev_keeps vlan
  simp [keeps.meantValues_eq, UnitTemplate.vlan, newDevice]

theorem pairNetDev_address :
    (pairNetDev rank device hwaddr mtu).meantValues "NetDev" "MACAddress" = [hwaddr] := by
  have keeps := pairNetDev_keeps rank device hwaddr mtu
  simp [keeps.meantValues_eq, UnitTemplate.pair, newDevice]

end Units

/-- **A unit that creates a pair of ends has one well-formed address for it**, by its text. -/
def PairFormed (file : UnitFile) : Prop :=
  "veth" ∈ file.values "NetDev" "Kind" →
    ∃ hwaddr, file.values "NetDev" "MACAddress" = [hwaddr] ∧ Hwaddr.Formed hwaddr

section PairFormed

variable {file : UnitFile}

theorem PairFormed.of_address (told : file.Told) {hwaddr : String}
    (address : file.meantValues "NetDev" "MACAddress" = [hwaddr]) (formed : Hwaddr.Formed hwaddr) :
    PairFormed file := by
  intro _
  rw [told.values_eq]
  exact ⟨hwaddr, address, formed⟩

theorem PairFormed.of_kind (told : file.Told) {kind : String}
    (created : file.meantValues "NetDev" "Kind" = [kind]) (other : "veth" ≠ kind) :
    PairFormed file := by
  intro pair
  rw [told.values_eq, created, List.mem_singleton] at pair
  exact absurd pair other

end PairFormed

namespace NetworkConfig

variable {config : NetworkConfig}

/-- The names of the units that name cards: those of interfaces, then those of members. -/
theorem linkUnits_names (config : NetworkConfig) :
    (linkUnits config).map (·.name) =
      (config.interfaces.map (·.physicalName)).map (unitName "00" · ".link") ++
        (config.bondMembers.map Hwaddr.deviceName).map (unitName "01" · ".link") := by
  simp only [linkUnits, bondMembers, List.map_append, List.map_map]
  rfl

namespace WellFormed

/-- **The units that name cards have different names.** -/
theorem link_names_nodup (rules : config.WellFormed) :
    ((config.unitsOfKind ".link").map (·.name)).Nodup := by
  rw [unitsOfKind_link, linkUnits_names]
  refine (rules.physicalNames_nodup.map (unitName_injective "00" ".link")).append
    (rules.memberNames_nodup.map (unitName_injective "01" ".link")) ?_
  intro name inFirst inSecond
  obtain ⟨card, _, rfl⟩ := List.mem_map.mp inFirst
  obtain ⟨member, _, same⟩ := List.mem_map.mp inSecond
  exact absurd (rank_eq_of_unitName_eq (by decide) same) (by decide)

/-- A member of a bond is the card of one interface. -/
theorem count_card_eq_one (rules : config.WellFormed) {member : String}
    (inside : member ∈ config.bondMembers) :
    (config.interfaces.map (·.physicalName)).count (Hwaddr.deviceName member) = 1 := by
  obtain ⟨interface, declared, same⟩ := rules.members_declared member inside
  have named : interface.physicalName = Hwaddr.deviceName member :=
    Hwaddr.deviceName_eq_of_key_eq same
  rw [← named]
  exact List.count_eq_one_of_mem rules.physicalNames_nodup (List.mem_map_of_mem declared)

/-- **The pairs of ends have well-formed addresses** if the names of the devices are one line each. -/
theorem pairs_formed (rules : config.WellFormed)
    (names : ∀ name ∈ config.deviceNames, OneLine name) :
    ∀ file ∈ config.unitsOfKind ".netdev", PairFormed file := by
  have told := rules.netDevs_told names
  simp only [unitsOfKind_netdev, netDevUnits, List.forall_mem_append, List.forall_mem_flatMap,
    List.forall_mem_map, interfaceNetDevs, bondNetDevs, List.forall_mem_cons, List.not_mem_nil,
    false_implies, implies_true, and_true] at told ⊢
  obtain ⟨⟨interfaces, bonds⟩, vlans⟩ := told
  refine ⟨⟨fun interface declared => ?_, fun bond declared => ?_⟩, fun vlan declared => ?_⟩
  · obtain ⟨bridge, pair⟩ := interfaces interface declared
    have formed := rules.hwaddrs_formed interface declared
    exact ⟨.of_kind bridge (bridgeNetDev_kind _ _ _) (by decide),
      .of_address pair (pairNetDev_address _ _ _ _) formed⟩
  · obtain ⟨device, bridge, pair⟩ := bonds bond declared
    obtain ⟨hwaddr, effective, formed⟩ := rules.effectiveHwaddr_formed declared
    rw [effective] at pair ⊢
    exact ⟨.of_kind device (bondNetDev_kind bond) (by decide),
      .of_kind bridge (bridgeNetDev_kind _ _ _) (by decide),
      .of_address pair (pairNetDev_address _ _ _ _) formed⟩
  · exact .of_kind (vlans vlan declared) (vlanNetDev_kind vlan) (by decide)

end WellFormed

/-! ### Addresses and cards -/

/-- **The hardware addresses of a configuration stand for cards.** -/
structure CardsResolved (config : NetworkConfig) : Prop where
  spelled : ∀ interface ∈ config.interfaces, CardName interface.physicalName
  logged : ∀ interface ∈ config.interfaces, ∀ before after,
    FoundIn Command.renamePattern
      (before ++ interface.physicalName ++ ": renamed from " ++ after)
  cards_distinct : (config.interfaces.map (·.physicalName)).Nodup
  members_declared : ∀ bond ∈ config.bonds, ∀ member ∈ bond.members,
    (config.interfaces.map (·.physicalName)).count (Hwaddr.deviceName member) = 1
  members_distinct : (config.bondMembers.map Hwaddr.deviceName).Nodup
  units_distinct : ((config.unitsOfKind ".link").map (·.name)).Nodup
  bonds_addressed : ∀ bond ∈ config.bonds,
    ∃ hwaddr, bond.effectiveHwaddr? = some hwaddr ∧ Hwaddr.Formed hwaddr
  pairs_addressed : (∀ name ∈ config.deviceNames, OneLine name) →
    ∀ file ∈ config.unitsOfKind ".netdev", PairFormed file

/-- **In a configuration that passes the check, the hardware addresses stand for cards**: each has the
name of a card, which the log is searched for; a card belongs to one interface and to one bond at most,
and no two units that name cards have one name; bonds have an address to present; and if the names of
the devices are one line each, no unit creates a pair of ends without an address. -/
theorem cards_resolved (passed : config.validate = .ok ()) : config.CardsResolved := by
  have rules := WellFormed.of_validate passed
  have spelled : ∀ interface ∈ config.interfaces, CardName interface.physicalName :=
    fun interface declared => (rules.hwaddrs_formed interface declared).cardName
  exact {
    spelled := spelled
    logged := fun interface declared => renamed_found (spelled interface declared)
    cards_distinct := rules.physicalNames_nodup
    members_declared := fun bond declared member claims =>
      rules.count_card_eq_one (List.mem_flatMap.mpr ⟨bond, declared, claims⟩)
    members_distinct := rules.memberNames_nodup
    units_distinct := rules.link_names_nodup
    bonds_addressed := fun bond declared => rules.effectiveHwaddr_formed declared
    pairs_addressed := rules.pairs_formed }

theorem bonded_cards_resolved :
    bonded.validate = .ok () ∧ bonded.CardsResolved ∧
      ∀ file ∈ bonded.unitsOfKind ".netdev", PairFormed file := by
  have passed : bonded.validate = .ok () := by decide +kernel
  have names : ∀ name ∈ bonded.deviceNames, OneLine name := by decide +kernel
  have resolved := cards_resolved passed
  exact ⟨passed, resolved, resolved.pairs_addressed names⟩

/-- An interface whose name goes on in further lines. -/
def spoofed : NetworkConfig where
  interfaces :=
    [{ name := "x\nKind=veth\nMACAddress=\n[Other]\nA=", hwaddr := "aa:00:00:00:00:01" }]

/-- The check passes the name, and a unit then creates a pair of ends with an empty address. -/
theorem spoofed_pair_unaddressed :
    spoofed.validate = .ok () ∧ ∃ file ∈ spoofed.unitsOfKind ".netdev",
      "veth" ∈ file.values "NetDev" "Kind" ∧ file.values "NetDev" "MACAddress" = [""] := by
  decide +kernel

end NetworkConfig

end HostNet
