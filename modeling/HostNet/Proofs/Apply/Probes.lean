/-
**What a wait runs.**

A wait runs probe after probe. Each probe but the last is run to its end, and the last one too if
the wait succeeds. A search for a renamed card is always the same three commands; a pass over the
devices asks one or two questions about each device, and may end with any of them.

* `OnlinePass`: the commands of a pass over devices;
* `waitForRename_records` and `waitForOnline_records`: the commands of the two waits;
* `Stage.Stops`: a wait stops in its own stage, or never ends.
-/

import HostNet.Apply.Wait
import HostNet.Proofs.Host.Commands

namespace HostNet

/-- The ways in which a stage stops: it fails and says so, or it never ends. -/
def Stage.Stops (stage : Stage) (halt : Halt ApplyFailure) : Prop :=
  halt = .stuck ∨ ∃ failure, halt = .failed failure ∧ failure.stage? = some stage

theorem Stage.stops_timedOut (stage : Stage) (limit : Duration) :
    stage.Stops (.failed (.timedOut stage limit)) :=
  .inr ⟨_, rfl, rfl⟩

theorem Stage.stops_hostFailed (stage : Stage) (failure : HostFailure) :
    stage.Stops (.failed (.hostFailed stage failure)) :=
  .inr ⟨_, rfl, rfl⟩

/-! ### Probes -/

/-- The commands of a search for a card that was given its device name. -/
def renameSearch : List Command := [.replayDevices, .settleDevices, .searchRenames]

/-- The questions about a device: its state, and perhaps its addresses. -/
def DeviceAsked (device : String) (commands : List Command) : Prop :=
  commands = [.linkStatus device] ∨ commands = [.linkStatus device, .showAddresses device]

/-- The commands of a pass over devices: the questions about one device after the other, up to
some device. -/
inductive OnlinePass : List String → List Command → Prop
  | done : OnlinePass [] []
  | ended {device : String} {asked : List Command} (devices : List String)
      (questions : DeviceAsked device asked) : OnlinePass (device :: devices) asked
  | further {device : String} {devices : List String} {asked others : List Command}
      (questions : DeviceAsked device asked) (rest : OnlinePass devices others) :
      OnlinePass (device :: devices) (asked ++ others)

theorem OnlinePass.exists_commands (devices : List String) : ∃ commands, OnlinePass devices commands := by
  cases devices with
  | nil => exact ⟨[], .done⟩
  | cons device devices => exact ⟨_, .ended devices (.inl rfl)⟩

namespace HostAction

variable {σ : Type}

theorem probeRenames_records (runner : Runner σ) (limit : Option Nat) :
    Records (probeRenames runner limit) (· = renameSearch) fun _ => True := by
  have checked := fun command => (runChecked_records runner limit command).mono
    (fun _ fits => fits) fun _ _ => trivial
  have searched := (run_records runner limit .searchRenames).mono
    (fun _ fits => fits) fun _ _ => trivial
  unfold probeRenames
  exact (checked .replayDevices).bind_eq fun _ => (checked .settleDevices).bind_eq fun _ =>
    searched.bind_then_silent fun _ => Records.pure _ _

theorem linkState_records (runner : Runner σ) (limit : Option Nat) (device : String) :
    Records (linkState runner limit device) (· = [.linkStatus device]) fun _ => True :=
  ((run_records runner limit _).mono (fun _ fits => fits) fun _ _ => trivial).bind_then_silent
    fun _ => Records.pure _ _

theorem hasAddress_records (runner : Runner σ) (limit : Option Nat) (device : String) :
    Records (hasAddress runner limit device) (· = [.showAddresses device]) fun _ => True :=
  ((run_records runner limit _).mono (fun _ fits => fits) fun _ _ => trivial).bind_then_silent
    fun _ => Records.pure _ _

theorem isSettled_records (runner : Runner σ) (limit : Option Nat) (device : String) :
    Records (isSettled runner limit device) (DeviceAsked device) fun _ => True := by
  let asked := fun commands => commands = [] ∨ commands = [Command.showAddresses device]
  have silent : ∀ answer : Bool, Records (pure answer : HostAction σ HostFailure Bool) asked
      fun _ => True :=
    fun answer => (Records.pure answer _).mono (fun _ none => .inl none) fun _ stops => stops
  have addresses : Records (hasAddress runner limit device) asked fun _ => True :=
    (hasAddress_records runner limit device).mono (fun _ one => .inr one) fun _ stops => stops
  have further : ∀ state : LinkState, Records
      (if !state.required then pure true
        else if !state.online then pure false else hasAddress runner limit device)
      asked fun _ => True := by
    intro state
    split
    · exact silent true
    · split
      · exact silent false
      · exact addresses
  unfold isSettled
  refine (linkState_records runner limit device).bind_of further ⟨[], .inl rfl⟩ ?_
  rintro _ back rfl (rfl | rfl)
  · exact .inl rfl
  · exact .inr rfl

theorem probeOnline_records (runner : Runner σ) (devices : List String) (limit : Option Nat) :
    Records (probeOnline runner devices limit) (OnlinePass devices) fun _ => True := by
  induction devices with
  | nil =>
    refine (Records.pure true _).mono (fun commands fits => ?_) fun _ stops => stops
    subst fits
    exact .done
  | cons device devices ih =>
    let rest := fun commands => commands = [] ∨ OnlinePass devices commands
    have further : ∀ settled : Bool, Records
        (if settled then probeOnline runner devices limit else return false) rest
        fun _ => True := by
      intro settled
      cases settled with
      | true => exact ih.mono (fun _ pass => .inr pass) fun _ stops => stops
      | false => exact (Records.pure false _).mono (fun _ none => .inl none) fun _ stops => stops
    unfold probeOnline
    refine (isSettled_records runner limit device).bind_of further ⟨[], .inl rfl⟩ ?_
    rintro asked _ questions (rfl | pass)
    · rw [List.append_nil]
      exact .ended devices questions
    · exact .further questions pass

/-! ### Waiting -/

theorem pause_records (stage : Stage) (interval : Duration) :
    Records (pause stage interval : HostAction σ ApplyFailure Unit) (· = []) stage.Stops := by
  unfold pause
  refine (clock_records _).bind_silent (fun now => ?_) ⟨_, rfl⟩
  refine (await_records none _ _).mono (fun _ silent => silent) ?_
  rintro halt (rfl | rfl | ⟨_, limited⟩)
  · exact stage.stops_hostFailed _
  · exact .inl rfl
  · exact absurd rfl limited

/-- One or more sequences of a form, one after the other. -/
def Repeated (whole : List Command → Prop) (commands : List Command) : Prop :=
  ∃ rounds, rounds ≠ [] ∧ (∀ round ∈ rounds, whole round) ∧ commands = rounds.flatten

variable {whole : List Command → Prop} {probe : Probe σ}

theorem Repeated.once {commands : List Command} (fits : whole commands) :
    Repeated whole commands :=
  ⟨[commands], by simp, by simpa using fits, by simp⟩

theorem Repeated.cons {front back : List Command} (fits : whole front)
    (further : Repeated whole back) : Repeated whole (front ++ back) := by
  obtain ⟨rounds, _, others, rfl⟩ := further
  refine ⟨front :: rounds, by simp, ?_, rfl⟩
  rw [List.forall_mem_cons]
  exact ⟨fits, others⟩

/-- A probe of a wait stops in the stage of the wait. -/
theorem probe_records (stage : Stage) (timeout : Duration) (deadline : Nat)
    (records : ∀ limit, Records (probe limit) whole fun _ => True) :
    Records (orOverdue (.timedOut stage timeout)
      (mapFailure (.hostFailed stage) (probe (some deadline)))) whole stage.Stops := by
  have told : Records (mapFailure (.hostFailed stage) (probe (some deadline))) whole
      fun halt => halt = .overdue ∨ stage.Stops halt :=
    (records _).mapFailure (fun failure _ => .inr (stage.stops_hostFailed failure))
      (fun _ => .inl rfl) fun _ => .inr (.inl rfl)
  exact told.orOverdue (fun _ other stops => stops.resolve_left other)
    (stage.stops_timedOut timeout)

/-- **Probing until a probe holds runs whole probes, and stops in its stage.** -/
theorem probeUntil_records (stage : Stage) (interval timeout : Duration) (deadline fuel : Nat)
    (some : ∃ commands, whole commands)
    (records : ∀ limit, Records (probe limit) whole fun _ => True) :
    Records (probeUntil stage interval timeout probe deadline fuel) (Repeated whole)
      stage.Stops := by
  have exists_repeated : ∃ commands, Repeated whole commands :=
    some.imp fun _ fits => Repeated.once fits
  induction fuel with
  | zero => exact Records.throw exists_repeated (.inl rfl)
  | succ fuel ih =>
    -- after a probe the wait is over, or goes on with a pause
    let rest := fun commands => commands = [] ∨ Repeated whole commands
    have goesOn : Records (do
          pause stage interval
          probeUntil stage interval timeout probe deadline fuel) (Repeated whole) stage.Stops :=
      (pause_records stage interval).bind_silent (fun _ => ih) exists_repeated
    have further : ∀ holds : Bool, Records (if holds then return () else do
          pause stage interval
          probeUntil stage interval timeout probe deadline fuel) rest stage.Stops := by
      intro holds
      cases holds with
      | true => exact (Records.pure () _).mono (fun _ none => .inl none) fun _ stops => stops
      | false => exact goesOn.mono (fun _ rounds => .inr rounds) fun _ stops => stops
    unfold probeUntil
    refine (clock_records _).bind_silent (fun now => ?_) exists_repeated
    dsimp only
    split
    · exact Records.fail_bind exists_repeated (stage.stops_timedOut timeout)
    · refine (probe_records stage timeout deadline records).bind_of further ⟨[], .inl rfl⟩ ?_
      rintro front _ fits (rfl | rounds)
      · rw [List.append_nil]
        exact .once fits
      · exact .cons fits rounds

theorem waitFor_records (stage : Stage) (interval timeout : Duration)
    (some : ∃ commands, whole commands)
    (records : ∀ limit, Records (probe limit) whole fun _ => True) :
    Records (waitFor stage interval timeout probe) (Repeated whole) stage.Stops := by
  unfold waitFor
  refine (clock_records _).bind_silent (fun now => ?_) (some.imp fun _ fits => Repeated.once fits)
  exact probeUntil_records stage interval timeout _ _ some records

/-- **The wait for a renamed card runs one or more searches.** -/
theorem waitForRename_records (runner : Runner σ) (interval timeout : Duration) :
    Records (waitForRename runner interval timeout) (Repeated (· = renameSearch))
      (Stage.Stops .renameWait) :=
  waitFor_records .renameWait interval timeout ⟨_, rfl⟩ (probeRenames_records runner)

/-- **The wait for devices runs one or more passes over them.** -/
theorem waitForOnline_records (runner : Runner σ) (interval : Duration) (devices : List String)
    (timeout : Duration) :
    Records (waitForOnline runner interval devices timeout) (Repeated (OnlinePass devices))
      (Stage.Stops .onlineWait) :=
  waitFor_records .onlineWait interval timeout (OnlinePass.exists_commands devices)
    (probeOnline_records runner devices)

end HostAction

end HostNet
