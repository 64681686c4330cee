/-
**What the settings of a unit say.**

A unit is asked for the values of a key in the sections with a title, in the order in which they
stand. It is its text that is asked, since that is what is written. What the unit is meant to say is
what its lines say, and those are written from a template. The text says the same unless a name or a
server smuggles a line feed in.

The kind of a unit is the end of its name; it tells the units that name cards, those that create
devices and those that configure devices from each other. The first hold hardware addresses only, so
their texts always say what they are meant to say. The second hold the names of devices as well, and
the third also the domains and the servers.

* `UnitFile.values`: the values of a key in the sections of the text with a title;
* `UnitFile.meantValues`: the values that the unit is meant to have;
* `Keeps.meantValues_eq`: these are the values of its template;
* `UnitFile.Told`: the text of a unit says what it is meant to say;
* `NetworkConfig.unitsOfKind`: the units of a kind;
* `unitsOfKind_link`, `unitsOfKind_netdev`, `unitsOfKind_network`: these are the three groups in which
  the units are written;
* `linkUnit_told`, `WellFormed.netDevs_told`, `WellFormed.networks_told`: when the texts of a group say
  what they are meant to say.
-/

import HostNet.Proofs.Unit.Unbroken

namespace HostNet

/-! ### Values -/

/-- The values of a key in the settings of a section. -/
def settingsOf (settings : UnitSettings) (key : String) : List String :=
  (settings.filter (·.1 = key)).map (·.2)

/-- The values of a key in the sections with a title. -/
def valuesOf (parts : List UnitSection) (title key : String) : List String :=
  (parts.filter (·.title = title)).flatMap fun part => settingsOf part.settings key

namespace UnitFile

/-- The sections that a unit is meant to have: those of its lines. -/
def meant (file : UnitFile) : List UnitSection := (UnitSection.gather file.lines).2

/-- The values of a key that a unit is meant to have in the sections with a title. -/
def meantValues (file : UnitFile) (title key : String) : List String := valuesOf file.meant title key

/-- The sections of the text of a unit. A text that cannot be read has none. -/
def sections (file : UnitFile) : List UnitSection := (readUnit? file.contents).getD []

/-- **The values of a key in the sections of the text of a unit with a title.** -/
def values (file : UnitFile) (title key : String) : List String := valuesOf file.sections title key

/-- The text of a unit says what the unit is meant to say. -/
def Told (file : UnitFile) : Prop := readUnit? file.contents = some file.meant

theorem Told.values_eq {file : UnitFile} (told : file.Told) (title key : String) :
    file.values title key = file.meantValues title key := by
  rw [values, sections, told, Option.getD_some, meantValues]

end UnitFile

section Settings

variable {key : String}

@[simp] theorem settingsOf_nil : settingsOf [] key = [] := rfl

@[simp] theorem settingsOf_append (front back : UnitSettings) :
    settingsOf (front ++ back) key = settingsOf front key ++ settingsOf back key := by
  simp [settingsOf]

@[simp] theorem settingsOf_cons (other value : String) (settings : UnitSettings) :
    settingsOf ((other, value) :: settings) key =
      if other = key then value :: settingsOf settings key else settingsOf settings key := by
  by_cases same : other = key <;> simp [settingsOf, same]

/-- Settings that share another key have no value of the key. -/
@[simp] theorem settingsOf_map {α : Type} (other : String) (value : α → String) (items : List α) :
    settingsOf (items.map fun item => (other, value item)) key =
      if other = key then items.map value else [] := by
  by_cases same : other = key <;> simp [settingsOf, same, List.filter_map, Function.comp_def]

@[simp] theorem settingsOf_map_mk (other : String) (values : List String) :
    settingsOf (values.map fun value => (other, value)) key = if other = key then values else [] := by
  simpa using settingsOf_map other id values

theorem settingsOf_ite (condition : Prop) [Decidable condition] (settings others : UnitSettings) :
    settingsOf (if condition then settings else others) key =
      if condition then settingsOf settings key else settingsOf others key :=
  apply_ite (settingsOf · key) condition settings others

end Settings

section Sections

variable {title key : String}

@[simp] theorem valuesOf_nil : valuesOf [] title key = [] := rfl

@[simp] theorem valuesOf_append (front back : List UnitSection) :
    valuesOf (front ++ back) title key = valuesOf front title key ++ valuesOf back title key := by
  simp [valuesOf]

@[simp] theorem valuesOf_cons (part : UnitSection) (parts : List UnitSection) :
    valuesOf (part :: parts) title key =
      if part.title = title then settingsOf part.settings key ++ valuesOf parts title key
      else valuesOf parts title key := by
  by_cases same : part.title = title <;> simp [valuesOf, same]

/-- Sections with other titles have no value. -/
theorem valuesOf_eq_nil {parts : List UnitSection} (others : ∀ part ∈ parts, part.title ≠ title) :
    valuesOf parts title key = [] := by
  rw [valuesOf, List.filter_eq_nil_iff.mpr fun part member => by simpa using others part member]
  rfl

end Sections

section Keeps

variable {template : UnitTemplate} {file : UnitFile}

theorem Keeps.meant_eq (keeps : Keeps template file) : file.meant = template.sections := by
  have gathered := keeps.gathered
  unfold UnitSection.ofLines? at gathered
  split at gathered
  · exact Option.some_inj.mp gathered
  · cases gathered

/-- **A unit is meant to have the values of its template.** -/
theorem Keeps.meantValues_eq (keeps : Keeps template file) (title key : String) :
    file.meantValues title key = valuesOf template.sections title key := by
  rw [UnitFile.meantValues, keeps.meant_eq]

/-- The text of a unit says what its template says if all values of that are one line each. -/
theorem Keeps.told (keeps : Keeps template file) (legible : template.Legible)
    (unbroken : template.Unbroken) : file.Told := by
  rw [UnitFile.Told, keeps.meant_eq]
  exact (Prod.mk.inj ((keeps.read_iff legible).mpr unbroken)).2

end Keeps

/-! ### Kinds -/

/-- The name of a unit ends in its kind. -/
def UnitFile.OfKind (kind : String) (file : UnitFile) : Prop := kind.toList <:+ file.name.toList

instance (kind : String) (file : UnitFile) : Decidable (file.OfKind kind) :=
  inferInstanceAs (Decidable (_ <:+ _))

/-- The units of a kind, in the order in which they are written. -/
def NetworkConfig.unitsOfKind (config : NetworkConfig) (kind : String) : List UnitFile :=
  config.units.filter (UnitFile.OfKind kind)

/-- Units whose names have the same end. -/
def Ending (kind : String) (files : List UnitFile) : Prop :=
  ∀ file ∈ files, ∃ stem, file.name = stem ++ kind

section Kinds

variable {kind other : String} {files : List UnitFile}

theorem filter_ofKind_self (ending : Ending kind files) :
    files.filter (UnitFile.OfKind kind) = files := by
  refine List.filter_eq_self.mpr fun file member => ?_
  obtain ⟨stem, named⟩ := ending file member
  simp [UnitFile.OfKind, named]

/-- Of two kinds neither of which is an end of the other, a unit has one at most. -/
theorem filter_ofKind_other (ending : Ending other files) (shorter : ¬ kind.toList <:+ other.toList)
    (longer : ¬ other.toList <:+ kind.toList) : files.filter (UnitFile.OfKind kind) = [] := by
  refine List.filter_eq_nil_iff.mpr fun file member => ?_
  obtain ⟨stem, named⟩ := ending file member
  have own : other.toList <:+ file.name.toList := by simp [named]
  simp only [decide_eq_true_eq]
  intro ofKind
  obtain short | long := List.suffix_or_suffix_of_suffix ofKind own
  · exact shorter short
  · exact longer long

end Kinds

section Groups

variable (config : NetworkConfig)

theorem linkUnits_ending : Ending ".link" (linkUnits config) := by
  simp only [Ending, linkUnits, List.forall_mem_append, List.forall_mem_map]
  exact ⟨fun interface _ => ⟨_, rfl⟩, fun member _ => ⟨_, rfl⟩⟩

theorem netDevUnits_ending : Ending ".netdev" (netDevUnits config) := by
  simp only [Ending, netDevUnits, List.forall_mem_append, List.forall_mem_map,
    List.forall_mem_flatMap, interfaceNetDevs, bondNetDevs, List.forall_mem_cons, List.not_mem_nil,
    false_implies, implies_true, and_true]
  exact ⟨⟨fun interface _ => ⟨⟨_, rfl⟩, ⟨_, rfl⟩⟩,
    fun bond _ => ⟨⟨_, rfl⟩, ⟨_, rfl⟩, ⟨_, rfl⟩⟩⟩, fun vlan _ => ⟨_, rfl⟩⟩

theorem networkUnits_ending : Ending ".network" (networkUnits config) := by
  have members : ∀ bond : Bond, Ending ".network" (bond.members.mapIdx (memberNetwork bond)) := by
    intro bond file inside
    obtain ⟨index, within, rfl⟩ := List.mem_mapIdx.mp inside
    exact ⟨_, rfl⟩
  simp only [Ending, networkUnits, List.forall_mem_append, List.forall_mem_map,
    List.forall_mem_flatMap, interfaceNetworks, bondNetworks, List.forall_mem_cons, List.not_mem_nil,
    false_implies, implies_true, and_true]
  exact ⟨⟨fun interface _ => ⟨⟨_, rfl⟩, ⟨_, rfl⟩, ⟨_, rfl⟩, ⟨_, rfl⟩⟩,
    fun bond _ => ⟨⟨⟨_, rfl⟩, ⟨_, rfl⟩, ⟨_, rfl⟩, ⟨_, rfl⟩⟩, members bond⟩⟩,
    fun vlan _ => ⟨_, rfl⟩⟩

/-- The units that name cards. -/
theorem unitsOfKind_link : config.unitsOfKind ".link" = linkUnits config := by
  rw [NetworkConfig.unitsOfKind, NetworkConfig.units, List.filter_append, List.filter_append,
    filter_ofKind_self (linkUnits_ending config),
    filter_ofKind_other (netDevUnits_ending config) (by decide) (by decide),
    filter_ofKind_other (networkUnits_ending config) (by decide) (by decide), List.append_nil,
    List.append_nil]

/-- The units that create devices. -/
theorem unitsOfKind_netdev : config.unitsOfKind ".netdev" = netDevUnits config := by
  rw [NetworkConfig.unitsOfKind, NetworkConfig.units, List.filter_append, List.filter_append,
    filter_ofKind_other (linkUnits_ending config) (by decide) (by decide),
    filter_ofKind_self (netDevUnits_ending config),
    filter_ofKind_other (networkUnits_ending config) (by decide) (by decide), List.nil_append,
    List.append_nil]

/-- The units that configure devices. -/
theorem unitsOfKind_network : config.unitsOfKind ".network" = networkUnits config := by
  rw [NetworkConfig.unitsOfKind, NetworkConfig.units, List.filter_append, List.filter_append,
    filter_ofKind_other (linkUnits_ending config) (by decide) (by decide),
    filter_ofKind_other (netDevUnits_ending config) (by decide) (by decide),
    filter_ofKind_self (networkUnits_ending config), List.nil_append, List.nil_append]

end Groups

/-! ### Texts that say what is meant -/

section Texts

variable (rank : String) {device hwaddr : String}

theorem linkUnit_told (random : Bool) (formed : Hwaddr.Formed hwaddr) :
    (linkUnit rank hwaddr random).Told := by
  refine (linkUnit_keeps rank hwaddr random).told (UnitTemplate.link_legible _ _ ?_)
    (UnitTemplate.link_unbroken formed ?_)
  · cases random <;> simp +decide
  · cases random <;> simp +decide

theorem bridgeNetDev_told (mtu : Option UInt32) (whole : OneLine device) :
    (bridgeNetDev rank device mtu).Told :=
  (bridgeNetDev_keeps rank device mtu).told (UnitTemplate.bridge_legible _ _ _)
    ((UnitTemplate.bridge_unbroken_iff mtu).mpr whole)

theorem pairNetDev_told (mtu : Option UInt32) (whole : OneLine device) (address : OneLine hwaddr) :
    (pairNetDev rank device hwaddr mtu).Told :=
  (pairNetDev_keeps rank device hwaddr mtu).told (UnitTemplate.pair_legible _ _ _ _)
    ((UnitTemplate.pair_unbroken_iff mtu address).mpr whole)

theorem bondNetDev_told {bond : Bond} (whole : OneLine bond.name) : (bondNetDev bond).Told :=
  (bondNetDev_keeps bond).told (UnitTemplate.bond_legible bond)
    ((UnitTemplate.bond_unbroken_iff bond).mpr whole)

theorem vlanNetDev_told {vlan : Vlan} (whole : OneLine vlan.name) : (vlanNetDev vlan).Told :=
  (vlanNetDev_keeps vlan).told (UnitTemplate.vlan_legible vlan)
    ((UnitTemplate.vlan_unbroken_iff vlan).mpr whole)

end Texts

namespace NetworkConfig.WellFormed

variable {config : NetworkConfig}

/-- **The units that create devices say what they are meant to say** if the names of the devices are
one line each. -/
theorem netDevs_told (rules : config.WellFormed) (names : ∀ name ∈ config.deviceNames, OneLine name) :
    ∀ file ∈ config.unitsOfKind ".netdev", file.Told := by
  simp only [deviceNames, List.forall_mem_append, List.forall_mem_map] at names
  obtain ⟨⟨interfaces, bonds⟩, vlans⟩ := names
  simp only [unitsOfKind_netdev, netDevUnits, List.forall_mem_append, List.forall_mem_flatMap,
    List.forall_mem_map, interfaceNetDevs, bondNetDevs, List.forall_mem_cons, List.not_mem_nil,
    false_implies, implies_true, and_true]
  refine ⟨⟨fun interface inside => ?_, fun bond inside => ?_⟩, fun vlan inside => ?_⟩
  · have whole := interfaces interface inside
    have address := (rules.hwaddrs_formed interface inside).oneLine
    exact ⟨bridgeNetDev_told _ _ whole, pairNetDev_told _ _ whole address⟩
  · have whole := bonds bond inside
    have address := rules.oneLine_effectiveHwaddr inside
    exact ⟨bondNetDev_told whole, bridgeNetDev_told _ _ whole, pairNetDev_told _ _ whole address⟩
  · exact vlanNetDev_told (vlans vlan inside)

/-- **The units that configure devices say what they are meant to say**, as all units do, if the names
of the devices, the search domains and the servers are one line each. -/
theorem networks_told (rules : config.WellFormed) (unbroken : config.Unbroken) :
    ∀ file ∈ config.unitsOfKind ".network", file.Told := by
  intro file ofKind
  obtain ⟨index, within, rfl⟩ := List.mem_iff_getElem.mp (List.mem_filter.mp ofKind).1
  have keep := units_keep config
  have inside : index < config.templates.length := keep.length_eq ▸ within
  have keeps : Keeps config.templates[index] config.units[index] := keep.get inside within
  have same := List.getElem_mem inside
  exact keeps.told (templates_legible config _ same) (rules.templates_of_unbroken unbroken _ same)

/-- Then their texts have the values that they are meant to have. -/
theorem networks_values (rules : config.WellFormed) (unbroken : config.Unbroken) :
    ∀ file ∈ config.unitsOfKind ".network", file.meantValues = file.values := by
  intro file ofKind
  funext title key
  exact ((rules.networks_told unbroken file ofKind).values_eq title key).symm

end NetworkConfig.WellFormed

end HostNet
