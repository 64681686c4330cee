/-
**The rounds of a wait.**

A wait has no count of its probes. It starts one as long as its deadline has not come, and pauses
after each that does not hold; a probe is given up at the deadline, whatever its commands do. So two
probes are started at least a pause apart, and if a pause takes time, only so many fit before the
deadline.

* `Rounds`: the rounds of a wait, with the states in which its probes are started;
* `waitFor_iff_rounds`: a wait whose pauses take time consists of its rounds;
* `Rounds.spaced` and `Rounds.early`: probes are started a pause apart and before the deadline;
* `Rounds.length_le`: how many probes are started at the most;
* `waits_return`: both waits come to an end, after so many probes and commands.
-/

import HostNet.Proofs.Apply.Deadline
import HostNet.Settings.Document
import Mathlib.Algebra.Order.Floor.Div

namespace HostNet

namespace HostAction

open HostNet.Action

variable {σ : Type}

/-! ### Rounds -/

/-- A probe of a wait with a deadline, at which it is given up. -/
def boundedProbe (stage : Stage) (timeout : Duration) (probe : Probe σ) (deadline : Nat) :
    HostAction σ ApplyFailure Bool :=
  orOverdue (.timedOut stage timeout) (mapFailure (.hostFailed stage) (probe (some deadline)))

/-- **The rounds of a wait with a deadline**, from a state of the host: the states in which its
probes are started, its result, and the state in which it ends. -/
inductive Rounds (stage : Stage) (interval timeout : Duration) (probe : Probe σ) (deadline : Nat) :
    Host σ → List (Host σ) → Except (Halt ApplyFailure) Unit → Host σ → Prop
  /-- The deadline has come, so no probe is started. -/
  | expired {before : Host σ} (come : deadline ≤ before.clock) :
      Rounds stage interval timeout probe deadline before []
        (.error (.failed (.timedOut stage timeout))) before
  /-- A probe fails, or is given up. -/
  | stopped {before after : Host σ} {halt : Halt ApplyFailure} (early : before.clock < deadline)
      (stops : boundedProbe stage timeout probe deadline before = (.error halt, after)) :
      Rounds stage interval timeout probe deadline before [before] (.error halt) after
  | held {before after : Host σ} (early : before.clock < deadline)
      (holds : boundedProbe stage timeout probe deadline before = (.ok true, after)) :
      Rounds stage interval timeout probe deadline before [before] (.ok ()) after
  /-- A probe does not hold, and the pause after it is cut short. -/
  | interrupted {before middle after : Host σ} {halt : Halt ApplyFailure}
      (early : before.clock < deadline)
      (pending : boundedProbe stage timeout probe deadline before = (.ok false, middle))
      (cut : pause stage interval middle = (.error halt, after)) :
      Rounds stage interval timeout probe deadline before [before] (.error halt) after
  /-- A probe does not hold, and there is another round after the pause. -/
  | again {before middle next after : Host σ} {starts : List (Host σ)}
      {result : Except (Halt ApplyFailure) Unit} (early : before.clock < deadline)
      (pending : boundedProbe stage timeout probe deadline before = (.ok false, middle))
      (paused : pause stage interval middle = (.ok (), next))
      (others : Rounds stage interval timeout probe deadline next starts result after) :
      Rounds stage interval timeout probe deadline before (before :: starts) result after

variable {stage : Stage} {interval timeout : Duration} {probe : Probe σ} {deadline : Nat}
  {before middle next after : Host σ} {starts : List (Host σ)}
  {result : Except (Halt ApplyFailure) Unit}

/-- A whole round takes at least the time of its pause. -/
theorem clock_of_paused {holds : Bool} (punctual : ∀ limit, Punctual limit (probe limit))
    (probed : boundedProbe stage timeout probe deadline before = (.ok holds, middle))
    (paused : pause stage interval middle = (.ok (), next)) :
    before.clock + interval.nanos ≤ next.clock := by
  obtain ⟨onward, -, -⟩ := probe_ends punctual probed
  obtain ⟨-, -, ⟨-, whole⟩ | cut⟩ := pause_cases paused
  · omega
  · cases cut

theorem probeUntil_of_early {fuel : Nat} (early : before.clock < deadline) :
    probeUntil stage interval timeout probe deadline (fuel + 1) before =
      (boundedProbe stage timeout probe deadline >>= fun holds =>
        if holds then pure ()
        else pause stage interval >>= fun _ =>
          probeUntil stage interval timeout probe deadline fuel) before := by
  rw [probeUntil, bind_of_ok (clock_apply before), if_neg (Nat.not_le_of_lt early)]
  rfl

/-- Probing until a deadline consists of rounds. As long as a pause takes time, there are fewer of
them than moments left before the deadline. -/
theorem rounds_of_probeUntil {fuel : Nat} (punctual : ∀ limit, Punctual limit (probe limit))
    (pauses : 0 < interval.nanos) (enough : deadline - before.clock < fuel)
    (run : probeUntil stage interval timeout probe deadline fuel before = (result, after)) :
    ∃ starts, Rounds stage interval timeout probe deadline before starts result after := by
  induction fuel generalizing before with
  | zero => omega
  | succ fuel ih =>
    by_cases come : deadline ≤ before.clock
    · rw [probeUntil_expired come] at run
      cases run
      exact ⟨[], .expired come⟩
    have early := Nat.lt_of_not_le come
    rw [probeUntil_of_early early] at run
    rcases probed : boundedProbe stage timeout probe deadline before with ⟨halt | _ | _, middle⟩
    · rw [bind_of_error probed] at run
      cases run
      exact ⟨[before], .stopped early probed⟩
    · rw [bind_of_ok probed, if_neg Bool.false_ne_true] at run
      rcases paused : pause stage interval middle with ⟨halt | _, next⟩
      · rw [bind_of_error paused] at run
        cases run
        exact ⟨[before], .interrupted early probed paused⟩
      · rw [bind_of_ok paused] at run
        have later := clock_of_paused punctual probed paused
        obtain ⟨starts, others⟩ := ih (by omega) run
        exact ⟨before :: starts, .again early probed paused others⟩
    · rw [bind_of_ok probed, if_pos rfl] at run
      cases run
      exact ⟨[before], .held early probed⟩

/-- Rounds are what probing until a deadline does. -/
theorem Rounds.probeUntil {fuel : Nat} (punctual : ∀ limit, Punctual limit (probe limit))
    (pauses : 0 < interval.nanos) (enough : deadline - before.clock ≤ fuel)
    (rounds : Rounds stage interval timeout probe deadline before starts result after) :
    probeUntil stage interval timeout probe deadline (fuel + 1) before = (result, after) := by
  induction rounds generalizing fuel with
  | expired come => exact probeUntil_expired come
  | stopped early stops => rw [probeUntil_of_early early, bind_of_error stops]
  | held early holds =>
    rw [probeUntil_of_early early, bind_of_ok holds]
    rfl
  | interrupted early pending cut =>
    rw [probeUntil_of_early early, bind_of_ok pending, if_neg Bool.false_ne_true, bind_of_error cut]
  | again early pending paused _ ih =>
    have later := clock_of_paused punctual pending paused
    rw [probeUntil_of_early early, bind_of_ok pending, if_neg Bool.false_ne_true, bind_of_ok paused]
    cases fuel with
    | zero => omega
    | succ fuel => exact ih (by omega)

/-- **A wait whose pauses take time consists of its rounds.** -/
theorem waitFor_iff_rounds (punctual : ∀ limit, Punctual limit (probe limit))
    (pauses : 0 < interval.nanos) :
    waitFor stage interval timeout probe before = (result, after) ↔
      ∃ starts, Rounds stage interval timeout probe (before.clock + timeout.nanos) before starts
        result after := by
  unfold waitFor
  rw [bind_of_ok (clock_apply before)]
  constructor
  · exact rounds_of_probeUntil punctual pauses (by omega)
  · rintro ⟨starts, rounds⟩
    exact rounds.probeUntil punctual pauses (by omega)

/-! ### How many -/

variable {whole : List Command → Prop} {most : Nat}

/-- A probe that is given up at the deadline has run a beginning of its commands. -/
theorem boundedProbe_recorded {answer : Except (Halt ApplyFailure) Bool}
    (records : ∀ limit, Records (probe limit) whole fun _ => True)
    (few : ∀ commands, whole commands → commands.length ≤ most)
    (run : boundedProbe stage timeout probe deadline before = (answer, after)) :
    ∃ commands, Recorded before commands after ∧ commands.length ≤ most := by
  obtain ⟨-, commands, recorded, fits⟩ :=
    probe_records stage timeout deadline records before answer after run
  refine ⟨commands, recorded, ?_⟩
  cases answer with
  | ok _ => exact few commands fits
  | error halt =>
    obtain ⟨-, complete, fits, begins⟩ := fits
    exact begins.length_le.trans (few complete fits)

/-- A pause runs no command, even if it is cut short. -/
theorem pause_recorded (run : pause stage interval before = (result, after)) :
    Recorded before [] after := by
  obtain ⟨-, commands, recorded, fits⟩ := pause_records stage interval before result after run
  cases result with
  | ok _ => exact fits ▸ recorded
  | error halt =>
    obtain ⟨-, complete, rfl, begins⟩ := fits
    exact List.prefix_nil.mp begins ▸ recorded

namespace Rounds

/-- No probe is started at the deadline or after it. -/
theorem early (rounds : Rounds stage interval timeout probe deadline before starts result after) :
    ∀ start ∈ starts, start.clock < deadline := by
  induction rounds with
  | expired => nofun
  | stopped early => simpa using early
  | held early => simpa using early
  | interrupted early => simpa using early
  | again early _ _ _ ih => exact List.forall_mem_cons.mpr ⟨early, ih⟩

/-- **Probes are started at least a pause apart.** -/
theorem spaced (punctual : ∀ limit, Punctual limit (probe limit))
    (rounds : Rounds stage interval timeout probe deadline before starts result after)
    {count : Nat} (fits : count < starts.length) :
    before.clock + count * interval.nanos ≤ starts[count].clock := by
  induction rounds generalizing count with
  | expired => simp at fits
  | stopped | held | interrupted =>
    obtain rfl : count = 0 := by simpa using fits
    simp
  | again _ pending paused _ ih =>
    cases count with
    | zero => simp
    | succ count =>
      have later := clock_of_paused punctual pending paused
      have further := ih (Nat.lt_of_succ_lt_succ fits)
      rw [List.getElem_cons_succ, Nat.succ_mul]
      omega

/-- **How many probes are started at the most**: the time of a wait divided by its pause, rounded
up. -/
theorem length_le (punctual : ∀ limit, Punctual limit (probe limit)) (pauses : 0 < interval.nanos)
    (rounds : Rounds stage interval timeout probe (before.clock + timeout.nanos) before starts
      result after) :
    starts.length ≤ timeout.nanos ⌈/⌉ interval.nanos := by
  refine Nat.le_of_not_lt fun more => ?_
  -- the probe whose number is the bound would be started at the deadline or after it
  have late := rounds.spaced punctual more
  have inTime := rounds.early _ (List.getElem_mem more)
  have covered : timeout.nanos ≤ interval.nanos * (timeout.nanos ⌈/⌉ interval.nanos) :=
    le_smul_ceilDiv pauses
  rw [Nat.mul_comm] at covered
  omega

/-- What the probes run, if each runs at most so many commands. -/
theorem recorded (records : ∀ limit, Records (probe limit) whole fun _ => True)
    (few : ∀ commands, whole commands → commands.length ≤ most)
    (rounds : Rounds stage interval timeout probe deadline before starts result after) :
    ∃ commands, Recorded before commands after ∧ commands.length ≤ most * starts.length := by
  induction rounds with
  | expired => exact ⟨[], Recorded.of_log rfl, Nat.zero_le _⟩
  | stopped _ stops =>
    obtain ⟨commands, recorded, bound⟩ := boundedProbe_recorded records few stops
    exact ⟨commands, recorded, by simpa using bound⟩
  | held _ holds =>
    obtain ⟨commands, recorded, bound⟩ := boundedProbe_recorded records few holds
    exact ⟨commands, recorded, by simpa using bound⟩
  | interrupted _ pending cut =>
    obtain ⟨commands, recorded, bound⟩ := boundedProbe_recorded records few pending
    exact ⟨commands ++ [], recorded.trans (pause_recorded cut), by simpa using bound⟩
  | again _ pending paused _ ih =>
    obtain ⟨front, recorded, bound⟩ := boundedProbe_recorded records few pending
    obtain ⟨back, further, others⟩ := ih
    refine ⟨front ++ ([] ++ back), recorded.trans ((pause_recorded paused).trans further), ?_⟩
    rw [List.nil_append, List.length_append, List.length_cons, Nat.mul_succ]
    omega

end Rounds

/-! ### Both waits -/

/-- A wait that comes to its end, after a bounded number of probes that are started before its
deadline, of which each runs at most so many commands. -/
structure Returns (stage : Stage) (interval timeout : Duration) (probe : Probe σ) (most : Nat)
    (before : Host σ) (result : Except (Halt ApplyFailure) Unit) (after : Host σ) : Prop where
  returns : result ≠ .error .stuck
  rounds : ∃ starts,
    Rounds stage interval timeout probe (before.clock + timeout.nanos) before starts result after ∧
      starts.length ≤ timeout.nanos ⌈/⌉ interval.nanos ∧
      ∀ start ∈ starts, start.clock < before.clock + timeout.nanos
  commands : ∃ commands, Recorded before commands after ∧
    commands.length ≤ most * (timeout.nanos ⌈/⌉ interval.nanos)

theorem waitFor_returns (punctual : ∀ limit, Punctual limit (probe limit))
    (pauses : 0 < interval.nanos)
    (records : ∀ limit, Records (probe limit) whole fun _ => True)
    (few : ∀ commands, whole commands → commands.length ≤ most) :
    Returns stage interval timeout probe most before
      (waitFor stage interval timeout probe before).1
      (waitFor stage interval timeout probe before).2 := by
  obtain ⟨starts, rounds⟩ := (waitFor_iff_rounds punctual pauses).mp
    (Eq.refl (waitFor stage interval timeout probe before))
  have bound := rounds.length_le punctual pauses
  obtain ⟨commands, recorded, short⟩ := rounds.recorded records few
  exact
    { returns := (waitFor_ends punctual rfl).returns pauses
      rounds := ⟨starts, rounds, bound, rounds.early⟩
      commands := ⟨commands, recorded, short.trans (Nat.mul_le_mul_left most bound)⟩ }

end HostAction

/-- A pass over devices asks at most two questions about each. -/
theorem OnlinePass.length_le {devices : List String} {commands : List Command}
    (pass : OnlinePass devices commands) : commands.length ≤ 2 * devices.length := by
  have two : ∀ {device asked}, DeviceAsked device asked → asked.length ≤ 2 := by
    rintro device _ (rfl | rfl) <;> simp
  induction pass with
  | done => simp
  | ended devices questions =>
    have few := two questions
    rw [List.length_cons]
    omega
  | further questions _ ih =>
    have few := two questions
    rw [List.length_append, List.length_cons]
    omega

namespace Settings

/-- Settings that are read have passed the check, and so have the defaults. -/
theorem check_of_load {tree : FileTree} {path : String} {settings : Settings}
    (loaded : load tree path = .ok settings) : settings.check = .ok () := by
  unfold load at loaded
  split at loaded
  · cases loaded
    exact check_default
  · cases loaded
  · split at loaded
    · cases loaded
    · rename_i found _
      cases checked : found.check with
      | error failure =>
        rw [checked] at loaded
        cases loaded
      | ok _ =>
        rw [checked] at loaded
        cases loaded
        exact checked

/-- Settings that are read leave time between two probes. -/
theorem pollInterval_pos {tree : FileTree} {path : String} {settings : Settings}
    (loaded : load tree path = .ok settings) : 0 < settings.pollInterval.nanos := by
  have positive : settings.timing.pollMillis ≠ 0 :=
    ((check_ok_iff settings).mp (check_of_load loaded)).1
  refine Nat.mul_pos (Nat.pos_of_ne_zero fun zero => positive ?_) (by decide)
  exact UInt64.toNat_inj.mp zero

end Settings

namespace HostAction

/-- **Both waits come to an end**, whatever the runner does, if there is time between two probes; and
settings that are read leave such time. The probes that are started are at most as many as pauses
that begin within the time of the wait, and all are started before its deadline. A search for a
renamed card runs at most three commands, and a pass over devices at most two for each. -/
theorem waits_return :
    (∀ {σ : Type} (runner : Runner σ) (interval timeout : Duration) (devices : List String)
      (before : Host σ), 0 < interval.nanos →
      Returns .renameWait interval timeout (probeRenames runner) 3 before
          (waitForRename runner interval timeout before).1
          (waitForRename runner interval timeout before).2 ∧
        Returns .onlineWait interval timeout (probeOnline runner devices) (2 * devices.length)
          before (waitForOnline runner interval devices timeout before).1
          (waitForOnline runner interval devices timeout before).2) ∧
    ∀ tree path settings, Settings.load tree path = .ok settings →
      0 < settings.pollInterval.nanos := by
  refine ⟨fun runner interval timeout devices before pauses => ⟨?_, ?_⟩, ?_⟩
  · refine waitFor_returns (probeRenames_punctual runner) pauses (probeRenames_records runner) ?_
    rintro _ rfl
    exact Nat.le_refl _
  · exact waitFor_returns (probeOnline_punctual runner devices) pauses
      (probeOnline_records runner devices) fun _ => OnlinePass.length_le
  · exact fun _ _ _ => Settings.pollInterval_pos

/-- A runner that never answers. -/
def mute : Runner Unit := fun _ _ => ({ answer := none }, ())

/-- Both waits come to an end although no command is ever answered, and without a file of settings
there is time between two probes. -/
theorem mute_returns :
    0 < (Duration.ofMillis 500).nanos ∧
      (waitForRename mute (.ofMillis 500) (.ofSecs 2) Applier.bare).1 ≠ .error .stuck ∧
      (∃ commands, Recorded Applier.bare commands
        (waitForOnline mute (.ofMillis 500) ["eth0", "eth1"] (.ofSecs 2) Applier.bare).2 ∧
        commands.length ≤ 2 * 2 * 4) ∧
      Settings.load {} "settings.toml" = .ok {} ∧ 0 < ({} : Settings).pollInterval.nanos := by
  have pauses : 0 < (Duration.ofMillis 500).nanos := by decide
  have loaded : Settings.load {} "settings.toml" = .ok {} := rfl
  have four : (Duration.ofSecs 2).nanos ⌈/⌉ (Duration.ofMillis 500).nanos = 4 := by decide
  obtain ⟨rename, online⟩ := waits_return.1 mute (.ofMillis 500) (.ofSecs 2) ["eth0", "eth1"]
    Applier.bare pauses
  refine ⟨pauses, rename.returns, ?_, loaded, waits_return.2 _ _ _ loaded⟩
  obtain ⟨commands, recorded, bound⟩ := online.commands
  rw [four] at bound
  exact ⟨commands, recorded, bound⟩

end HostAction

end HostNet
