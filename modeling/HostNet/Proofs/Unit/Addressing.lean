/-
**The text about addresses and routes is a faithful encoding.**

The settings and sections for the addresses and the routes of a device show what its entries ask for:
the literal addresses in order, which of the three words occur, whether there is any entry at all, and
each route. A reader that knows what the settings mean finds all of it in the text and nothing else,
because an address that the check lets pass holds no line feed and is no reserved gateway.

* `Addressing`: what the entries and the routes of a device ask for;
* `Addressing.read?`: the same, from a text;
* `readBack`: what was asked for is read from its text;
* `addressing_faithful`: so two texts are the same exactly if the same is asked for.
-/

import HostNet.Proofs.Unit.Settings

namespace HostNet

open HostNet.Text UnitSection

/-- The text about the addresses of a device and, after it, about its routes. -/
def addressingText (addresses : List String) (routes : List Route) : String :=
  UnitLine.render (addressingLines addresses) ++ UnitLine.render (routeLines routes)

/-- What the entries and the routes of a device ask for. -/
structure Addressing where
  /-- The literal addresses, in order. -/
  literals : List String
  dhcp4 : Bool
  dhcp6 : Bool
  slaac : Bool
  /-- There is no entry, so not even link-local addresses are wanted. -/
  empty : Bool
  /-- The routes, in order. -/
  routes : List Route
  deriving Repr, DecidableEq

namespace Addressing

/-- What some entries and routes ask for. -/
def ofEntries (addresses : List String) (routes : List Route) : Addressing where
  literals := addresses.filter (· ∉ addressWords)
  dhcp4 := decide ("dhcp4" ∈ addresses)
  dhcp6 := decide ("dhcp6" ∈ addresses)
  slaac := decide ("slaac" ∈ addresses)
  empty := addresses.isEmpty
  routes := routes

/-! ### The reader -/

/-- The families that DHCP is turned on for: the fourth and the sixth version. -/
def families? : List String → Option (Bool × Bool)
  | [] => some (false, false)
  | ["yes"] => some (true, true)
  | ["ipv4"] => some (true, false)
  | ["ipv6"] => some (false, true)
  | _ => none

/-- Whether router advertisements are accepted. -/
def advertised? : List String → Option Bool
  | ["true"] => some true
  | ["false"] => some false
  | _ => none

/-- Whether a device goes without addresses: there are no link-local ones, and it is configured
without a carrier. -/
def unaddressed? : List String → List String → Option Bool
  | ["no"], ["yes"] => some true
  | ["ipv6"], [] => some false
  | _, _ => none

/-- The gateway that a value stands for. -/
def gatewayOf (value : String) : Gateway :=
  if value = "_dhcp4" then .dhcp4
  else if value = "_ipv6ra" then .slaac
  else .literal value

/-- The route that a section adds. -/
def readRoute? (part : UnitSection) : Option Route :=
  match part.title, settingsOf part.settings "Gateway", settingsOf part.settings "Destination" with
  | "Route", [gateway], [destination] => some ⟨destination, (gatewayOf gateway).text⟩
  | _, _, _ => none

/-- What some settings and the sections after them ask for. -/
def interpret? (settings : UnitSettings) (parts : List UnitSection) : Option Addressing := do
  let (dhcp4, dhcp6) ← families? (settingsOf settings "DHCP")
  let slaac ← advertised? (settingsOf settings "IPv6AcceptRA")
  let empty ← unaddressed? (settingsOf settings "LinkLocalAddressing")
    (settingsOf settings "ConfigureWithoutCarrier")
  let routes ← parts.mapM readRoute?
  some { literals := settingsOf settings "Address", dhcp4, dhcp6, slaac, empty, routes }

/-- **What a text asks for.** -/
def read? (text : String) : Option Addressing :=
  (UnitLine.readAll? text).bind fun lines => interpret? (gather lines).1 (gather lines).2

/-! ### What the reader finds -/

section Settings

variable (addresses : List String)

theorem literals_told :
    settingsOf (addressSettings addresses) "Address" = addresses.filter (· ∉ addressWords) := by
  simp [addressSettings, settingsOf_ite]

theorem families_told : families? (settingsOf (addressSettings addresses) "DHCP") =
    some (decide ("dhcp4" ∈ addresses), decide ("dhcp6" ∈ addresses)) := by
  by_cases four : "dhcp4" ∈ addresses <;> by_cases six : "dhcp6" ∈ addresses <;>
    simp [addressSettings, settingsOf_ite, four, six, families?]

theorem advertised_told : advertised? (settingsOf (addressSettings addresses) "IPv6AcceptRA") =
    some (decide ("slaac" ∈ addresses)) := by
  by_cases auto : "slaac" ∈ addresses <;>
    simp [addressSettings, settingsOf_ite, auto, advertised?]

theorem unaddressed_told :
    unaddressed? (settingsOf (addressSettings addresses) "LinkLocalAddressing")
      (settingsOf (addressSettings addresses) "ConfigureWithoutCarrier") =
    some addresses.isEmpty := by
  cases addresses <;> simp [addressSettings, settingsOf_ite, unaddressed?]

end Settings

/-- A gateway that the check lets pass is told from the reserved ones, since an address holds no
underscore. -/
theorem text_gatewayOf {via : String}
    (allowed : via = "dhcp4" ∨ via = "slaac" ∨ ∃ address, IpAddr.parse? via = some address) :
    (gatewayOf (if via = "dhcp4" then "_dhcp4" else if via = "slaac" then "_ipv6ra" else via)).text =
      via := by
  by_cases four : via = "dhcp4"
  · subst four
    rfl
  · by_cases auto : via = "slaac"
    · subst auto
      rfl
    · obtain ⟨address, read⟩ := (allowed.resolve_left four).resolve_left auto
      have unreserved : '_' ∉ via.toList := fun inside =>
        absurd (IpAddr.parse?_written read _ inside) (by
          unfold IsAddressCharacter
          decide)
      have other : ∀ reserved : String, '_' ∈ reserved.toList → via ≠ reserved := by
        rintro reserved inside rfl
        exact unreserved inside
      rw [if_neg four, if_neg auto, gatewayOf, if_neg (other _ (by decide)),
        if_neg (other _ (by decide)), Gateway.text]

theorem readRoute?_routeSection {route : Route} (allowed : RouteAllowed route) :
    readRoute? (routeSection route) = some route := by
  simp [readRoute?, routeSection, text_gatewayOf allowed.2]

theorem readRoutes {routes : List Route} (allowed : ∀ route ∈ routes, RouteAllowed route) :
    (routes.map routeSection).mapM readRoute? = some routes := by
  induction routes with
  | nil => rfl
  | cons route routes ih =>
    rw [List.forall_mem_cons] at allowed
    rw [List.map_cons, List.mapM_cons, readRoute?_routeSection allowed.1, ih allowed.2]
    rfl

/-- The settings and the sections are understood. -/
theorem interpret?_sections (addresses : List String) {routes : List Route}
    (allowed : ∀ route ∈ routes, RouteAllowed route) :
    interpret? (addressSettings addresses) (routes.map routeSection) =
      some (ofEntries addresses routes) := by
  rw [interpret?, families_told, advertised_told, unaddressed_told, readRoutes allowed,
    literals_told]
  rfl

/-! ### The text -/

section Text

variable {addresses : List String} {routes : List Route}

theorem gather_lines (addresses : List String) (routes : List Route) :
    gather (addressingLines addresses ++ routeLines routes) =
      (addressSettings addresses, routes.map routeSection) := by
  rw [addressingLines_eq, gather_settings_append, gather_routeLines, List.append_nil]

/-- The lines for entries and routes that the check lets pass are legible, and each is one line. -/
theorem addressing_readable (addressesAllowed : ∀ entry ∈ addresses, AddressAllowed entry)
    (routesAllowed : ∀ route ∈ routes, RouteAllowed route) :
    (∀ line ∈ addressingLines addresses ++ routeLines routes, line.Legible) ∧
      ∀ line ∈ addressingLines addresses ++ routeLines routes, line.Unbroken := by
  refine ⟨(forall_gather_iff trivial).mpr ?_, (forall_gather_iff trivial).mpr ?_⟩
  · rw [gather_lines]
    exact ⟨addressSettings_legible addresses, routeSections_legible routes⟩
  · rw [gather_lines]
    refine ⟨addressSettings_whole addressesAllowed, fun part member => ?_⟩
    obtain ⟨route, inside, rfl⟩ := List.mem_map.mp member
    exact each_unbroken_iff.mpr (routesAllowed route inside).unbroken

/-- The lines come back from their text. -/
theorem readAll?_addressingText (addressesAllowed : ∀ entry ∈ addresses, AddressAllowed entry)
    (routesAllowed : ∀ route ∈ routes, RouteAllowed route) :
    UnitLine.readAll? (addressingText addresses routes) =
      some (addressingLines addresses ++ routeLines routes) := by
  obtain ⟨legible, unbroken⟩ := addressing_readable addressesAllowed routesAllowed
  rw [addressingText, ← UnitLine.render_append]
  exact UnitLine.readAll?_render legible unbroken

/-- **What was asked for is read from its text.** -/
theorem readBack (addressesAllowed : ∀ entry ∈ addresses, AddressAllowed entry)
    (routesAllowed : ∀ route ∈ routes, RouteAllowed route) :
    read? (addressingText addresses routes) = some (ofEntries addresses routes) := by
  rw [read?, readAll?_addressingText addressesAllowed routesAllowed, Option.bind_some, gather_lines,
    interpret?_sections addresses routesAllowed]

end Text

/-- There is no entry exactly if there is neither a literal address nor a word. -/
theorem eq_nil_iff (addresses : List String) : addresses = [] ↔
    addresses.filter (· ∉ addressWords) = [] ∧ ∀ word ∈ addressWords, word ∉ addresses := by
  constructor
  · rintro rfl
    simp
  · rintro ⟨literals, words⟩
    refine List.eq_nil_iff_forall_not_mem.mpr fun entry inside => ?_
    have word := List.filter_eq_nil_iff.mp literals entry inside
    exact words entry (by simpa using word) inside

/-- The same is asked for by entries with the same literal addresses and the same words, and the
same routes. -/
theorem addressingText_congr {addresses others : List String} (routes : List Route)
    (literals : others.filter (· ∉ addressWords) = addresses.filter (· ∉ addressWords))
    (words : ∀ word ∈ addressWords, word ∈ others ↔ word ∈ addresses) :
    addressingText others routes = addressingText addresses routes := by
  have empty : others = [] ↔ addresses = [] := by
    rw [eq_nil_iff others, eq_nil_iff addresses, literals]
    exact and_congr_right fun _ => forall₂_congr fun word listed => not_congr (words word listed)
  simp only [addressWords, List.forall_mem_cons, List.not_mem_nil, IsEmpty.forall_iff,
    implies_true, and_true] at words
  have settings : addressSettings others = addressSettings addresses := by
    simp only [addressSettings, literals, words, empty]
  rw [addressingText, addressingText, addressingLines_eq, addressingLines_eq, settings]

end Addressing

/-- **The text about addresses and routes is a faithful encoding** of entries and routes that the
checks let pass. A reader finds the literal addresses in order, which words occur, whether there is
any entry, and all routes in order; and two texts are the same exactly if the literal addresses in
order, the words and the routes in order are. -/
theorem addressing_faithful {device : String} {addresses : List String} {routes : List Route}
    (addressesPass : checkAddresses device addresses = .ok ())
    (routesPass : checkRoutes device routes = .ok ()) :
    Addressing.read? (addressingText addresses routes) = some (.ofEntries addresses routes) ∧
      ∀ other otherAddresses otherRoutes, checkAddresses other otherAddresses = .ok () →
        checkRoutes other otherRoutes = .ok () →
        (addressingText otherAddresses otherRoutes = addressingText addresses routes ↔
          otherAddresses.filter (· ∉ addressWords) = addresses.filter (· ∉ addressWords) ∧
            (∀ word ∈ addressWords, word ∈ otherAddresses ↔ word ∈ addresses) ∧
            otherRoutes = routes) := by
  have back := Addressing.readBack ((checkAddresses_ok_iff device addresses).mp addressesPass)
    ((checkRoutes_ok_iff device routes).mp routesPass)
  refine ⟨back, fun other otherAddresses otherRoutes entriesPass othersPass => ?_⟩
  have otherBack := Addressing.readBack ((checkAddresses_ok_iff other otherAddresses).mp entriesPass)
    ((checkRoutes_ok_iff other otherRoutes).mp othersPass)
  constructor
  · intro same
    rw [same, back, Option.some_inj] at otherBack
    simp only [Addressing.ofEntries, Addressing.mk.injEq, decide_eq_decide] at otherBack
    obtain ⟨literals, four, six, auto, _, sameRoutes⟩ := otherBack
    refine ⟨literals.symm, ?_, sameRoutes.symm⟩
    simp [addressWords, four, six, auto]
  · rintro ⟨literals, words, rfl⟩
    exact Addressing.addressingText_congr otherRoutes literals words

/-- A device with a literal address and two words, and a route by the gateway that DHCP hands out; the
words may come in any order. -/
theorem mixed_faithful :
    checkAddresses "uplink" ["dhcp4", "10.0.0.2/8", "slaac"] = .ok () ∧
      checkRoutes "uplink" [⟨"0.0.0.0/0", "dhcp4"⟩, ⟨"::/0", "fe80::1"⟩] = .ok () ∧
      Addressing.read? (addressingText ["dhcp4", "10.0.0.2/8", "slaac"]
          [⟨"0.0.0.0/0", "dhcp4"⟩, ⟨"::/0", "fe80::1"⟩]) =
        some { literals := ["10.0.0.2/8"], dhcp4 := true, dhcp6 := false, slaac := true,
               empty := false, routes := [⟨"0.0.0.0/0", "dhcp4"⟩, ⟨"::/0", "fe80::1"⟩] } ∧
      addressingText ["slaac", "dhcp4", "10.0.0.2/8"] [⟨"0.0.0.0/0", "dhcp4"⟩, ⟨"::/0", "fe80::1"⟩] =
        addressingText ["dhcp4", "10.0.0.2/8", "slaac"]
          [⟨"0.0.0.0/0", "dhcp4"⟩, ⟨"::/0", "fe80::1"⟩] := by
  have addressesPass : checkAddresses "uplink" ["dhcp4", "10.0.0.2/8", "slaac"] = .ok () := by
    decide
  have routesPass :
      checkRoutes "uplink" [⟨"0.0.0.0/0", "dhcp4"⟩, ⟨"::/0", "fe80::1"⟩] = .ok () := by
    decide
  obtain ⟨read, told⟩ := addressing_faithful addressesPass routesPass
  refine ⟨addressesPass, routesPass, read, ?_⟩
  exact (told "uplink" ["slaac", "dhcp4", "10.0.0.2/8"] _ (by decide) routesPass).mpr (by decide)

end HostNet
