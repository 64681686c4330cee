/-
**The units of the devices and the wait for them agree.**

Which devices matter is worked out twice: device by device, in the unit of the end that carries the
name of a device, and once for all, in the list of names that the wait of an apply goes through. The
first looks at the entries of the device itself; the second goes by names, and would mix up two
devices of one name. The check asks that names differ; so a device is on the list exactly if its unit
gives it addresses, and an apply asks about no other device, and about each that is required.

* `HasLine`: a text has a line;
* `OwnEnd.WrittenAsAwaited`: what the unit of a device says, against the list;
* `mem_addressedDevices_iff`: a device is on the list exactly if it has address entries;
* `apply_asks`: an apply asks about devices on the list only, stage by stage;
* `apply_converges`: an apply succeeds with a pass that finds each device on the list converged;
* `NetworkConfig.awaited_as_written`: all this holds of a configuration that passes the check.
-/

import HostNet.Proofs.Apply.Convergence
import HostNet.Proofs.Apply.Order
import HostNet.Proofs.Unit.Parents

namespace HostNet

open HostNet.Text HostNet.Action HostAction UnitLine

/-! ### Lines of a text -/

/-- A text has a line, among those that line feeds end. -/
def HasLine (line text : String) : Prop := line.toList ∈ split '\n' text.toList

instance (line text : String) : Decidable (HasLine line text) :=
  inferInstanceAs (Decidable (_ ∈ _))

/-- Legible lines of the same text are the same line. -/
theorem UnitLine.eq_of_text {line other : UnitLine} (legible : line.Legible)
    (otherLegible : other.Legible) (same : line.text = other.text) : line = other := by
  have back := read?_text legible
  rw [same, read?_text otherLegible] at back
  exact (Option.some_inj.mp back).symm

/-- **The settings of some lines are lines of their text**, if the lines are read back. -/
theorem hasLine_render {lines : List UnitLine} (legible : ∀ line ∈ lines, line.Legible)
    (unbroken : ∀ line ∈ lines, line.Unbroken) {wanted : UnitLine} (plain : wanted.Legible)
    (some : wanted.text ≠ "") : HasLine wanted.text (render lines) ↔ wanted ∈ lines := by
  induction lines with
  | nil =>
    have other : wanted.text.toList ≠ [] := by simpa using some
    simpa [HasLine, split] using other
  | cons line lines ih =>
    rw [List.forall_mem_cons] at legible unbroken
    have whole : '\n' ∉ line.text.toList := (oneLine_text_iff legible.1).mpr unbroken.1
    have spelled : (render (line :: lines)).toList =
        line.text.toList ++ '\n' :: (render lines).toList := by simp [render]
    have first : wanted.text.toList = line.text.toList ↔ wanted = line :=
      ⟨fun same => eq_of_text plain legible.1 (String.toList_injective same), fun same => same ▸ rfl⟩
    have later := ih legible.2 unbroken.2
    rw [HasLine] at later ⊢
    rw [spelled, split_append_separator, split_of_free whole, List.mem_append, List.mem_singleton,
      List.mem_cons, first, later]

theorem setting_mem_map_iff {key value : String} {settings : UnitSettings} :
    .setting key value ∈ settings.map settingLine ↔ value ∈ settingsOf settings key := by
  simp [settingLine, settingsOf]

/-! ### What the unit of a device says -/

/-- **The unit of a device says what the list of awaited devices says.** Its lines about the wait
require the device exactly if it is on the list and its policy does not exempt it, and then name the
family of the policy; its lines about addresses let it go without a carrier exactly if it is not on
the list. -/
structure OwnEnd.WrittenAsAwaited (config : NetworkConfig) (own : OwnEnd) : Prop where
  unit : ∃ file ∈ config.units, file.name = unitName own.rank own.name ".network" ∧
    file.contents = own.head ++ vlanEntries own.stacked ++ own.tail config
  required : HasLine "RequiredForOnline=yes" own.onlineText ↔
    own.name ∈ config.addressedDevices ∧ own.policy ≠ some .no
  family : HasLine "RequiredForOnline=yes" own.onlineText → own.onlineText =
    "RequiredForOnline=yes\nRequiredFamilyForOnline=" ++ (own.policy.getD .any).text ++ "\n"
  unaddressed : HasLine "ConfigureWithoutCarrier=yes" (addressingText own.addresses own.routes) ↔
    own.name ∉ config.addressedDevices

namespace OwnEnd

variable (own : OwnEnd)

/-- A device with address entries whose policy does not exempt it is required, with the family of
its policy. -/
theorem onlineText_of_required (addressed : own.addresses ≠ []) (policy : own.policy ≠ some .no) :
    own.onlineText =
      "RequiredForOnline=yes\nRequiredFamilyForOnline=" ++ (own.policy.getD .any).text ++ "\n" := by
  have some : own.addresses.isEmpty = false := by simpa using addressed
  simp [onlineText, requiredForOnlineLines, some, policy, render, text, ← String.toList_inj]

theorem required_iff : HasLine "RequiredForOnline=yes" own.onlineText ↔
    own.addresses ≠ [] ∧ own.policy ≠ some .no := by
  have families : ∀ policy : OnlinePolicy, HasLine "RequiredForOnline=yes"
      ("RequiredForOnline=yes\nRequiredFamilyForOnline=" ++ policy.text ++ "\n") := by
    intro policy
    cases policy <;> decide
  by_cases exempt : own.addresses = [] ∨ own.policy = some .no
  · have told : own.onlineText = "RequiredForOnline=no\n" := by
      have left : (own.addresses.isEmpty || own.policy = some .no) = true := by simpa using exempt
      rw [onlineText, requiredForOnlineLines, if_pos left]
      rfl
    refine iff_of_false ?_ fun both => exempt.elim both.1 both.2
    rw [told]
    decide
  · obtain ⟨addressed, policy⟩ := not_or.mp exempt
    rw [own.onlineText_of_required addressed policy]
    exact iff_of_true (families _) ⟨addressed, policy⟩

theorem unaddressed_iff (addresses : ∀ entry ∈ own.addresses, AddressAllowed entry)
    (routes : ∀ route ∈ own.routes, RouteAllowed route) :
    HasLine "ConfigureWithoutCarrier=yes" (addressingText own.addresses own.routes) ↔
      own.addresses = [] := by
  obtain ⟨legible, unbroken⟩ := Addressing.addressing_readable addresses routes
  have plain : Legible (.setting "ConfigureWithoutCarrier" "yes") := by
    unfold Legible
    decide
  have listed : HasLine "ConfigureWithoutCarrier=yes"
      (render (addressingLines own.addresses ++ routeLines own.routes)) ↔
        .setting "ConfigureWithoutCarrier" "yes" ∈
          addressingLines own.addresses ++ routeLines own.routes :=
    hasLine_render legible unbroken plain (by decide)
  have onlyRoutes : .setting "ConfigureWithoutCarrier" "yes" ∉ routeLines own.routes := by
    simp [routeLines, routeBlock]
  have told : settingsOf (addressSettings own.addresses) "ConfigureWithoutCarrier" =
      if own.addresses = [] then ["yes"] else [] := by
    simp [addressSettings, settingsOf_ite]
  rw [render_append] at listed
  rw [addressingText, listed, List.mem_append, or_iff_left onlyRoutes, addressingLines_eq,
    setting_mem_map_iff, told]
  split_ifs <;> simp [*]

end OwnEnd

/-! ### The list of awaited devices -/

namespace NetworkConfig

variable {config : NetworkConfig}

theorem addressedDevices_eq (config : NetworkConfig) :
    config.addressedDevices = (config.ownEnds.filter (!·.addresses.isEmpty)).map (·.name) := by
  simp only [addressedDevices, ownEnds, parentDevices, List.map_append, List.filter_append,
    List.map_map, List.filter_map]
  rfl

theorem WellFormed.ownEnds_nodup (rules : config.WellFormed) :
    (config.ownEnds.map (·.name)).Nodup :=
  config.ownEnds_names ▸ rules.names_distinct

/-- No device is on the list twice. -/
theorem WellFormed.addressedDevices_nodup (rules : config.WellFormed) :
    config.addressedDevices.Nodup := by
  rw [addressedDevices_eq]
  exact rules.ownEnds_nodup.sublist (List.filter_sublist.map _)

/-- **A device is on the list exactly if it has address entries**, since no other device has its
name. -/
theorem WellFormed.mem_addressedDevices_iff (rules : config.WellFormed) {own : OwnEnd}
    (inside : own ∈ config.ownEnds) :
    own.name ∈ config.addressedDevices ↔ own.addresses ≠ [] := by
  simp only [addressedDevices_eq, List.mem_map, List.mem_filter, Bool.not_eq_true',
    List.isEmpty_eq_false_iff]
  constructor
  · rintro ⟨other, ⟨declared, addressed⟩, same⟩
    obtain rfl : other = own := List.inj_on_of_nodup_map rules.ownEnds_nodup declared inside same
    exact addressed
  · exact fun addressed => ⟨own, ⟨inside, addressed⟩, rfl⟩

theorem WellFormed.ownEnds_allowed (rules : config.WellFormed) : ∀ own ∈ config.ownEnds,
    (∀ entry ∈ own.addresses, AddressAllowed entry) ∧ ∀ route ∈ own.routes, RouteAllowed route := by
  simp only [ownEnds, parentDevices, List.map_append, List.map_map, List.forall_mem_append,
    List.forall_mem_map]
  refine ⟨⟨fun interface declared => ?_, fun bond declared => ?_⟩, fun vlan declared => ?_⟩
  · have allowed := rules.interfaces_allowed interface declared
    exact ⟨allowed.addresses, allowed.routes⟩
  · have allowed := rules.bonds_allowed bond declared
    exact ⟨allowed.addresses, allowed.routes⟩
  · have allowed := rules.vlans_allowed vlan declared
    exact ⟨allowed.addresses, allowed.routes⟩

/-- The unit of each device says what the list says. -/
theorem WellFormed.written_as_awaited (rules : config.WellFormed) :
    ∀ own ∈ config.ownEnds, own.WrittenAsAwaited config := by
  intro own inside
  obtain ⟨addresses, routes⟩ := rules.ownEnds_allowed own inside
  have listed := rules.mem_addressedDevices_iff inside
  constructor
  · exact ⟨_, ownEnds_written inside, rfl, own.contents_eq config⟩
  · rw [own.required_iff, listed]
  · intro required
    obtain ⟨addressed, policy⟩ := own.required_iff.mp required
    exact own.onlineText_of_required addressed policy
  · rw [own.unaddressed_iff addresses routes, listed, not_not]

end NetworkConfig

/-! ### What an apply asks about -/

/-- A command asks about a device. -/
def AsksAbout (device : String) (command : Command) : Prop :=
  command = .linkStatus device ∨ command = .showAddresses device

/-- The questions about a device are about no other. -/
theorem DeviceAsked.eq_of_asks {device other : String} {asked : List Command}
    (questions : DeviceAsked other asked) {command : Command} (run : command ∈ asked)
    (asks : AsksAbout device command) : device = other := by
  have own : command = .linkStatus other ∨ command = .showAddresses other := by
    obtain rfl | rfl := questions
    · exact .inl (List.mem_singleton.mp run)
    · simpa using run
  obtain rfl | rfl := asks <;> simpa [Command.linkStatus, Command.showAddresses] using own

/-- A pass asks about its devices only. -/
theorem OnlinePass.mem_of_asks {devices : List String} {commands : List Command}
    (pass : OnlinePass devices commands) {command : Command} (run : command ∈ commands)
    {device : String} (asks : AsksAbout device command) : device ∈ devices := by
  induction pass with
  | done => cases run
  | ended devices questions =>
    obtain rfl := questions.eq_of_asks run asks
    exact List.mem_cons_self
  | further questions rest ih =>
    obtain first | later := List.mem_append.mp run
    · obtain rfl := questions.eq_of_asks first asks
      exact List.mem_cons_self
    · exact List.mem_cons_of_mem _ (ih later)

/-- The other commands of an apply ask about no device. -/
theorem AsksAbout.program {device : String} {command : Command} (asks : AsksAbout device command) :
    command.program = "networkctl" ∨ command.program = "ip" := by
  obtain rfl | rfl := asks
  · exact .inl rfl
  · exact .inr rfl

/-- **A stage asks about devices on the list only.** -/
theorem Stage.mem_of_asks {settings : Settings} {config : NetworkConfig} {stage : Stage}
    {commands : List Command} (whole : stage.Whole settings config commands) {command : Command}
    (run : command ∈ commands) {device : String} (asks : AsksAbout device command) :
    device ∈ config.addressedDevices := by
  have program := asks.program
  cases stage with
  | onlineWait =>
    obtain ⟨passes, _, fits, rfl⟩ := whole
    obtain ⟨pass, inside, run⟩ := List.mem_flatten.mp run
    exact (fits pass inside).mem_of_asks run asks
  | renameWait =>
    obtain ⟨searches, _, fits, rfl⟩ := whole
    obtain ⟨search, inside, run⟩ := List.mem_flatten.mp run
    obtain rfl := fits search inside
    have others : ∀ other ∈ renameSearch, ¬ (other.program = "networkctl" ∨ other.program = "ip") := by
      decide
    exact absurd program (others command run)
  | hostname | networkRestart | timesyncRestart =>
    cases whole
    obtain rfl := List.mem_singleton.mp run
    simp [Command.setHostname, Command.restart, Command.service] at program
  | validate | proxy | networkFiles | timesync =>
    cases whole
    cases run

namespace Applier

variable {σ : Type} {applier : Applier σ} {config : NetworkConfig} {timeout : Duration}
  {started : Nat} {before after : Host σ}

/-- **An apply asks about devices on the list only**, however it ends. -/
theorem apply_asks (applier : Applier σ) (config : NetworkConfig) (timeout : Duration)
    (before : Host σ) :
    ∃ commands, Recorded before commands (applier.apply config timeout before).2 ∧
      ∀ command ∈ commands, ∀ device, AsksAbout device command → device ∈ config.addressedDevices := by
  refine apply_keeps (fun host => ∃ commands, Recorded before commands host ∧
    ∀ command ∈ commands, ∀ device, AsksAbout device command → device ∈ config.addressedDevices)
    ⟨[], Recorded.of_log rfl, nofun⟩ ?_ rfl
  rintro stage middle outcome last _ ⟨earlier, recorded, listed⟩ happened
  obtain ⟨_, commands, further, form⟩ := carryOut_seen stage happened
  refine ⟨earlier ++ commands, recorded.trans further, fun command run device asks => ?_⟩
  obtain ⟨complete, whole, begins⟩ : ∃ complete, stage.Whole applier.settings config complete ∧
      commands <+: complete := by
    cases outcome with
    | ok _ => exact ⟨commands, form, List.prefix_rfl⟩
    | error halt => exact form.2
  obtain first | later := List.mem_append.mp run
  · exact listed command first device asks
  · exact Stage.mem_of_asks whole (begins.subset later) asks

/-- The last of some stages is carried out after the others. -/
theorem Carried.last {front : List Stage} {stage : Stage}
    (carried : Carried applier config timeout started (front ++ [stage]) before after) :
    ∃ middle, Carried applier config timeout started front before middle ∧
      applier.carryOut config timeout started stage middle = (.ok (), after) := by
  induction front generalizing before with
  | nil =>
    cases carried with
    | next first others =>
      cases others
      exact ⟨before, .done before, first⟩
  | cons other front ih =>
    cases carried with
    | next first others =>
      obtain ⟨middle, earlier, waited⟩ := ih others
      exact ⟨middle, .next first earlier, waited⟩

/-- The rounds of a wait only run commands. -/
theorem rounds_recorded {runner : Runner σ} {interval : Duration} {devices : List String}
    {deadline : Nat} (rounds : Relation.ReflTransGen
      (Round .onlineWait interval (probeOnline runner devices) deadline) before after) :
    ∃ commands, Recorded before commands after := by
  induction rounds with
  | refl => exact ⟨[], Recorded.of_log rfl⟩
  | tail _ round ih =>
    obtain ⟨earlier, recorded⟩ := ih
    obtain ⟨_, _, probed, paused⟩ := round
    obtain ⟨_, _, asked, _⟩ := probeOnline_records runner devices (some deadline) _ _ _ probed
    obtain ⟨_, _, rested, _⟩ := pause_records .onlineWait interval _ _ _ paused
    exact ⟨_, (recorded.trans asked).trans rested⟩

/-- **An apply succeeds with a pass that finds each device on the list converged**, after what it has
run before that. -/
theorem apply_converges (done : applier.apply config timeout before = (.ok (), after)) :
    ∃ commands start, Recorded before commands start ∧
      ConvergedPass applier.runner config.addressedDevices start after := by
  rw [apply_eq] at done
  have carried : Carried applier config timeout before.clock
      (Stage.earlier .onlineWait ++ [.onlineWait]) before after := carried_iff.mpr done
  obtain ⟨middle, earlier, waited⟩ := carried.last
  obtain ⟨_, _, _, _, recorded⟩ := earlier.seen (by decide)
  rw [carryOut, bind_of_ok (clock_apply middle), waitForOnline, waitFor,
    bind_of_ok (clock_apply middle)] at waited
  obtain ⟨start, rounds, early, found⟩ := probeUntil_ok_iff.mp ⟨_, waited⟩
  obtain ⟨_, further⟩ := rounds_recorded rounds
  exact ⟨_, start, recorded.trans further, ((probeOnline_true_iff early.le).mp found).1⟩

end Applier

/-! ### The main result -/

/-- **A pass over devices asks about a device and finds it converged**, after those in front of it and
before those behind it. -/
def FoundConverged {σ : Type} (runner : Runner σ) (devices : List String) (device : String)
    (before after : Host σ) : Prop :=
  ∃ front back early late, devices = front ++ device :: back ∧
    ConvergedPass runner front before early ∧ Converged runner device early late ∧
      ConvergedPass runner back late after

theorem ConvergedPass.found {σ : Type} {runner : Runner σ} {devices : List String}
    {before after : Host σ} (pass : ConvergedPass runner devices before after) {device : String}
    (inside : device ∈ devices) : FoundConverged runner devices device before after := by
  induction pass with
  | done => cases inside
  | @next first devices before middle after converged others ih =>
    obtain rfl | later := List.mem_cons.mp inside
    · exact ⟨[], devices, before, middle, rfl, .done before, converged, others⟩
    · obtain ⟨front, back, early, late, rfl, earlier, found, rest⟩ := ih later
      exact ⟨first :: front, back, early, late, rfl, .next converged earlier, found, rest⟩

/-- **The units of the devices and the wait for them agree.** -/
structure NetworkConfig.AwaitedAsWritten (config : NetworkConfig) : Prop where
  distinct : config.addressedDevices.Nodup
  written : ∀ own ∈ config.ownEnds, own.WrittenAsAwaited config
  /-- An apply, however it ends, asks about no device that is to go without a carrier. -/
  unaddressed : ∀ {σ : Type} (applier : Applier σ) (timeout : Duration) (before : Host σ),
    ∃ commands, Recorded before commands (applier.apply config timeout before).2 ∧
      ∀ own ∈ config.ownEnds,
        HasLine "ConfigureWithoutCarrier=yes" (addressingText own.addresses own.routes) →
          ∀ command ∈ commands, ¬ AsksAbout own.name command
  /-- An apply that succeeds does so with a pass that finds each device converged that is required. -/
  required : ∀ {σ : Type} (applier : Applier σ) (timeout : Duration) (before after : Host σ),
    applier.apply config timeout before = (.ok (), after) → ∀ own ∈ config.ownEnds,
      HasLine "RequiredForOnline=yes" own.onlineText →
        ∃ commands start, Recorded before commands start ∧
          FoundConverged applier.runner config.addressedDevices own.name start after

/-- **The units of a configuration that passes the check agree with the wait of an apply.** -/
theorem NetworkConfig.awaited_as_written {config : NetworkConfig}
    (passed : config.validate = .ok ()) : config.AwaitedAsWritten := by
  have rules := WellFormed.of_validate passed
  have written := rules.written_as_awaited
  refine ⟨rules.addressedDevices_nodup, written, ?_, ?_⟩
  · intro σ applier timeout before
    obtain ⟨commands, recorded, listed⟩ := applier.apply_asks config timeout before
    refine ⟨commands, recorded, fun own inside carrierless command run asks => ?_⟩
    exact (written own inside).unaddressed.mp carrierless (listed command run own.name asks)
  · intro σ applier timeout before after done own inside required
    obtain ⟨commands, start, recorded, pass⟩ := Applier.apply_converges done
    have awaited := ((written own inside).required.mp required).1
    exact ⟨commands, start, recorded, pass.found awaited⟩

/-- An interface that a bond is made of, and has no addresses itself; a bond that is awaited for one
family; and a VLAN that is exempt from the wait. -/
def NetworkConfig.tiered : NetworkConfig where
  interfaces := [{ name := "eth0", hwaddr := "aa:00:00:00:00:01" }]
  bonds :=
    [{ name := "uplink", members := ["aa:00:00:00:00:01"], mode := .linkAggregation,
       addresses := ["10.0.0.2/8"], requiredForOnline := some .ipv4 }]
  vlans :=
    [{ name := "lab", id := 7, parent := "uplink", addresses := ["slaac"],
       requiredForOnline := some .no }]

theorem NetworkConfig.tiered_awaited : tiered.validate = .ok () ∧ tiered.AwaitedAsWritten ∧
    tiered.addressedDevices = ["uplink", "lab"] ∧
    tiered.ownEnds.map (·.onlineText) = ["RequiredForOnline=no\n",
      "RequiredForOnline=yes\nRequiredFamilyForOnline=ipv4\n", "RequiredForOnline=no\n"] := by
  have passed : tiered.validate = .ok () := by decide +kernel
  exact ⟨passed, awaited_as_written passed, by decide +kernel, by decide +kernel⟩

end HostNet
