/-
**Commands that are answered.**

A command is answered if the runner gives an outcome for it and no cancellation comes before that.
What the answer says depends on the command and on the state of the runner at that moment. It takes
its time, which a limit may cut short; an answer that comes at the limit is still in time.

* `Answered`: a command is given to the runner and answered with an outcome;
* `await_ok_iff`: waiting succeeds exactly if what it waits for comes in time and uncancelled;
* `run_ok_iff`: a command succeeds by a limit exactly if it is answered and the answer is in time.
-/

import HostNet.Proofs.Host.Time

namespace HostNet

variable {σ ε α : Type}

/-! ### Cancellation -/

namespace Host

/-- No cancellation is requested up to a moment. -/
def UncancelledUntil (host : Host σ) (moment : Nat) : Prop :=
  ∀ request, host.cancelAt = some request → moment < request

theorem UncancelledUntil.isCancelled_eq_false {host : Host σ} {moment : Nat}
    (uncancelled : host.UncancelledUntil moment) (later : host.clock ≤ moment) :
    host.isCancelled = false := by
  cases requested : host.cancelAt with
  | none => simp [isCancelled, requested]
  | some request =>
    have after := uncancelled request requested
    have notYet : ¬ request ≤ host.clock := by omega
    simp [isCancelled, requested, notYet]

@[simp] theorem clock_cancel (host : Host σ) : host.cancel.clock = host.clock := by
  unfold cancel
  split <;> rfl

/-- The host once a command has been noted and answered, after the time that this takes. -/
def answered (host : Host σ) (command : Command) (response : Response) (state : σ) : Host σ :=
  let noted := { host with
    clock := host.clock + response.delay, runner := state, log := ⟨host.clock, command⟩ :: host.log }
  if response.cancels then noted.cancel else noted

@[simp] theorem clock_answered (host : Host σ) (command : Command) (response : Response)
    (state : σ) : (host.answered command response state).clock = host.clock + response.delay := by
  unfold answered
  dsimp only
  split <;> simp

end Host

/-! ### Waiting -/

theorem noLater_trans {first second : Nat} {limit : Option Nat} (earlier : first ≤ second)
    (inTime : noLater second limit = true) : noLater first limit = true := by
  cases limit with
  | none => rfl
  | some moment =>
    have bound : second ≤ moment := by simpa [noLater] using inTime
    simpa [noLater] using Nat.le_trans earlier bound

/-- Waiting ends with what it waits for exactly if this comes in time and before any cancellation. -/
theorem WaitEnd.of_eq_ready_iff {cancelAt limit : Option Nat} {ready : Option (Nat × α)}
    {moment : Nat} {answer : α} :
    WaitEnd.of cancelAt limit ready = .ready moment answer ↔
      ready = some (moment, answer) ∧ noLater moment limit = true ∧
        ∀ request, cancelAt = some request → moment < request := by
  constructor
  · intro ended
    obtain ⟨rfl, inTime⟩ := WaitEnd.of_eq_ready ended
    refine ⟨rfl, inTime, ?_⟩
    rintro request rfl
    refine Nat.lt_of_not_le fun before => ?_
    have first : noLater request (some moment) = true := by simpa [noLater] using before
    have chosen : (some request).filter (fun request => noLater request limit &&
        noLater request ((some (moment, answer)).map (·.1))) = some request := by
      rw [Option.filter_eq_some_iff]
      simp [noLater_trans before inTime, first]
    unfold WaitEnd.of at ended
    rw [chosen] at ended
    cases ended
  · rintro ⟨rfl, inTime, uncancelled⟩
    have unchosen : cancelAt.filter (fun request => noLater request limit &&
        noLater request ((some (moment, answer)).map (·.1))) = none := by
      rw [Option.filter_eq_none_iff]
      intro request requested
      have later := uncancelled request requested
      simp [noLater, later]
    have chosen : (some (moment, answer)).filter (fun result => noLater result.1 limit) =
        some (moment, answer) := by
      rw [Option.filter_eq_some_iff]
      exact ⟨rfl, inTime⟩
    unfold WaitEnd.of
    rw [unchosen]
    dsimp only
    rw [chosen]

namespace HostAction

open HostNet.Action

variable {limit : Option Nat} {before after : Host σ}

/-- **Waiting succeeds exactly if what it waits for comes in time and before any cancellation.** -/
theorem await_ok_iff {ready : Option (Nat × α)} {cancelled : ε} {answer : α} :
    await limit ready cancelled before = (.ok answer, after) ↔
      ∃ moment, ready = some (moment, answer) ∧ noLater moment limit = true ∧
        before.UncancelledUntil moment ∧ after = before.advance moment := by
  constructor
  · intro happened
    unfold await at happened
    split at happened <;> cases happened
    rename_i moment ended
    obtain ⟨there, inTime, uncancelled⟩ := WaitEnd.of_eq_ready_iff.mp ended
    exact ⟨moment, there, inTime, uncancelled, rfl⟩
  · rintro ⟨moment, there, inTime, uncancelled, rfl⟩
    have ended := WaitEnd.of_eq_ready_iff.mpr ⟨there, inTime, uncancelled⟩
    rw [await, ended]

end HostAction

/-! ### One command -/

/-- **A command is given to the runner and answered with an outcome**, before any cancellation. -/
def Answered (runner : Runner σ) (command : Command) (before : Host σ) (outcome : Outcome)
    (after : Host σ) : Prop :=
  ∃ response state, runner before.runner command = (response, state) ∧
    response.answer = some (.finished outcome) ∧
    before.UncancelledUntil (before.clock + response.delay) ∧
    after = before.answered command response state

theorem Answered.onward {runner : Runner σ} {command : Command} {before after : Host σ}
    {outcome : Outcome} (answered : Answered runner command before outcome after) :
    before.clock ≤ after.clock := by
  obtain ⟨response, state, _, _, _, rfl⟩ := answered
  rw [Host.clock_answered]
  exact Nat.le_add_right _ _

namespace HostAction

open HostNet.Action

variable {limit : Option Nat} {before after : Host σ}

/-- What follows the answer to a command: cancellation may be requested, and an outcome is handed
on. -/
def conclude (command : Command) (cancels : Bool) (answer : Answer) :
    HostAction σ HostFailure Outcome := do
  if cancels then modify Host.cancel
  match answer with
  | .finished outcome => return outcome
  | .notStarted cause => fail (.notStarted command.line cause)

theorem conclude_ok_iff {command : Command} {cancels : Bool} {answer : Answer} {outcome : Outcome} :
    conclude command cancels answer before = (.ok outcome, after) ↔
      answer = .finished outcome ∧ after = if cancels then before.cancel else before := by
  have handed : ∀ host : Host σ, (match answer with
      | .finished outcome => return outcome
      | .notStarted cause => fail (.notStarted command.line cause) :
        HostAction σ HostFailure Outcome) host = (.ok outcome, after) ↔
      answer = .finished outcome ∧ after = host := by
    intro host
    cases answer with
    | finished found =>
      constructor
      · intro done
        cases done
        exact ⟨rfl, rfl⟩
      · rintro ⟨same, rfl⟩
        cases same
        rfl
    | notStarted cause =>
      constructor
      · intro done
        cases done
      · rintro ⟨same, _⟩
        cases same
  cases cancels with
  | false => exact handed before
  | true =>
    refine Iff.trans (iff_of_eq ?_) (handed before.cancel)
    exact congrArg (· = _) (bind_of_ok (modify_apply Host.cancel before) _)

/-- A command that is not refused is noted at once; then its answer is waited for. -/
theorem run_of_free {runner : Runner σ} {command : Command} {response : Response} {state : σ}
    (free : before.isCancelled = false) (given : runner before.runner command = (response, state)) :
    run runner limit command before =
      (await limit (response.answer.map fun answer => (before.clock + response.delay, answer))
          (.cancelled command.line) >>= conclude command response.cancels)
        { before with runner := state, log := ⟨before.clock, command⟩ :: before.log } := by
  have started : start runner command before =
      (.ok response,
        { before with runner := state, log := ⟨before.clock, command⟩ :: before.log }) := by
    simp only [start, given]
  unfold run
  rw [bind_of_ok (get_apply before), free]
  dsimp only
  rw [if_neg Bool.false_ne_true, bind_of_ok (clock_apply before), bind_of_ok started]
  rfl

/-- **A command succeeds by a limit exactly if it is answered and the answer is in time.** -/
theorem run_ok_iff {runner : Runner σ} {command : Command} {outcome : Outcome} :
    run runner limit command before = (.ok outcome, after) ↔
      Answered runner command before outcome after ∧ noLater after.clock limit = true := by
  rcases given : runner before.runner command with ⟨response, state⟩
  let noted : Host σ := { before with
    runner := state, log := ⟨before.clock, command⟩ :: before.log }
  cases cancelled : before.isCancelled with
  | true =>
    rw [run_cancelled runner limit command cancelled]
    refine ⟨nofun, ?_⟩
    rintro ⟨⟨response, state, _, _, uncancelled, _⟩, _⟩
    rw [uncancelled.isCancelled_eq_false (Nat.le_add_right _ _)] at cancelled
    cases cancelled
  | false =>
    have opened : run runner limit command before = _ := run_of_free cancelled given
    have later : before.clock ≤ before.clock + response.delay := Nat.le_add_right _ _
    have waited : (if response.cancels then
          (noted.advance (before.clock + response.delay)).cancel
        else noted.advance (before.clock + response.delay)) =
        before.answered command response state := by
      simp only [Host.answered, Host.advance, noted, Nat.max_eq_right later]
    rw [opened, bind_ok_iff]
    simp only [await_ok_iff, conclude_ok_iff, Option.map_eq_some_iff, Prod.mk.injEq]
    constructor
    · rintro ⟨_, _, ⟨_, ⟨_, answered, rfl, rfl⟩, inTime, uncancelled, rfl⟩, rfl, rfl⟩
      rw [waited, Host.clock_answered]
      exact ⟨⟨response, state, given, answered, uncancelled, rfl⟩, inTime⟩
    · rintro ⟨⟨_, _, same, answered, uncancelled, rfl⟩, inTime⟩
      rw [given, Prod.mk.injEq] at same
      obtain ⟨rfl, rfl⟩ := same
      rw [Host.clock_answered] at inTime
      exact ⟨_, _, ⟨_, ⟨_, answered, rfl, rfl⟩, inTime, uncancelled, rfl⟩, rfl, waited.symm⟩

end HostAction

end HostNet
