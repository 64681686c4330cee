/-
**Actions and the time that passes.**

Time never goes back. An action that has to be done by a limit does not let time pass beyond it: it
ends before the limit, or it is overdue and stops there. Without a limit nothing is overdue, but what
waits may wait for ever.

* `await_cases`: the four ways in which waiting ends;
* `Punctual`: an action keeps to a limit;
* `Punctual.bind`: two actions that keep to a limit keep to it one after the other;
* `run_punctual`: a command keeps to its limit, whatever the runner does with it.
-/

import HostNet.Host.Running
import HostNet.Proofs.Host.Action

namespace HostNet

variable {σ ε : Type}

/-! ### How waiting ends -/

namespace WaitEnd

variable {α : Type} {cancelAt limit : Option Nat} {ready : Option (Nat × α)} {moment : Nat}

theorem of_eq_cancelled (ended : of cancelAt limit ready = .cancelled moment) :
    noLater moment limit = true ∧ noLater moment (ready.map (·.1)) = true := by
  unfold of at ended
  split at ended
  · rename_i request found
    cases ended
    have inTime := (Option.filter_eq_some_iff.mp found).2
    simpa using inTime
  · split at ended
    · cases ended
    · split at ended <;> cases ended

theorem of_eq_ready {answer : α} (ended : of cancelAt limit ready = .ready moment answer) :
    ready = some (moment, answer) ∧ noLater moment limit = true := by
  unfold of at ended
  split at ended
  · cases ended
  · split at ended
    · rename_i found
      cases ended
      exact Option.filter_eq_some_iff.mp found
    · split at ended <;> cases ended

theorem of_eq_overdue (ended : of cancelAt limit ready = .overdue moment) :
    limit = some moment := by
  unfold of at ended
  split at ended
  · cases ended
  · split at ended
    · cases ended
    · split at ended
      · cases ended
        rfl
      · cases ended

theorem of_eq_never (ended : of cancelAt limit ready = .never) : limit = none ∧ ready = none := by
  unfold of at ended
  split at ended
  · cases ended
  · split at ended
    · cases ended
    · rename_i missing
      split at ended
      · cases ended
      · refine ⟨rfl, ?_⟩
        cases ready with
        | none => rfl
        | some answer => simp [noLater] at missing

end WaitEnd

namespace HostAction

open HostNet.Action

variable {α β : Type} {limit : Option Nat} {before after : Host σ}

/-- **Waiting ends with what it waits for, by cancellation, at its limit, or never.** -/
theorem await_cases {ready : Option (Nat × α)} {cancelled : ε} {result : Except (Halt ε) α}
    (run : await limit ready cancelled before = (result, after)) :
    (∃ moment answer, ready = some (moment, answer) ∧ noLater moment limit = true ∧
        result = .ok answer ∧ after = before.advance moment) ∨
      (∃ moment, noLater moment limit = true ∧ noLater moment (ready.map (·.1)) = true ∧
        result = .error (.failed cancelled) ∧ after = before.advance moment) ∨
      (∃ moment, limit = some moment ∧ result = .error .overdue ∧
        after = before.advance moment) ∨
      (limit = none ∧ ready = none ∧ result = .error .stuck ∧ after = before) := by
  unfold await at run
  split at run
  · rename_i moment answer ended
    cases run
    obtain ⟨there, inTime⟩ := WaitEnd.of_eq_ready ended
    exact .inl ⟨moment, answer, there, inTime, rfl, rfl⟩
  · rename_i moment ended
    cases run
    obtain ⟨inTime, early⟩ := WaitEnd.of_eq_cancelled ended
    exact .inr (.inl ⟨moment, inTime, early, rfl, rfl⟩)
  · rename_i moment ended
    cases run
    exact .inr (.inr (.inl ⟨moment, WaitEnd.of_eq_overdue ended, rfl, rfl⟩))
  · rename_i ended
    cases run
    obtain ⟨unlimited, absent⟩ := WaitEnd.of_eq_never ended
    exact .inr (.inr (.inr ⟨unlimited, absent, rfl, rfl⟩))

/-! ### Keeping to a limit -/

/-- How something with a limit may stop by some moment: with a failure, by being overdue once the
limit has come, or, only if there is no limit, by waiting for ever. -/
def StopsBy (limit : Option Nat) (now : Nat) : Halt ε → Prop
  | .failed _ => True
  | .overdue => ∃ moment, limit = some moment ∧ moment ≤ now
  | .stuck => limit = none

/-- How an action with a limit ends. -/
structure EndsBy (limit : Option Nat) (before : Host σ) (result : Except (Halt ε) α)
    (after : Host σ) : Prop where
  onward : before.clock ≤ after.clock
  within : ∀ moment, limit = some moment → after.clock ≤ max before.clock moment
  stops : ∀ halt, result = .error halt → StopsBy limit after.clock halt

/-- An action keeps to a limit. -/
def Punctual (limit : Option Nat) (action : HostAction σ ε α) : Prop :=
  ∀ before result after, action before = (result, after) → EndsBy limit before result after

namespace Punctual

variable {action : HostAction σ ε α}

/-- An action that takes no time keeps to every limit if it stops with a failure only. -/
theorem of_still (still : ∀ before result after, action before = (result, after) →
      after.clock = before.clock ∧ ∀ halt, result = .error halt → ∃ failure, halt = .failed failure) :
    Punctual limit action := by
  intro before result after happened
  obtain ⟨same, fails⟩ := still before result after happened
  refine ⟨Nat.le_of_eq same.symm, fun moment _ => ?_, fun halt stopped => ?_⟩
  · rw [same]
    exact Nat.le_max_left _ _
  · obtain ⟨failure, rfl⟩ := fails halt stopped
    trivial

theorem pure (limit : Option Nat) (result : α) :
    Punctual limit (Pure.pure result : HostAction σ ε α) := by
  refine of_still fun before outcome after happened => ?_
  cases happened
  exact ⟨rfl, nofun⟩

theorem fail (limit : Option Nat) (failure : ε) :
    Punctual limit (HostAction.fail failure : HostAction σ ε α) := by
  refine of_still fun before outcome after happened => ?_
  cases happened
  refine ⟨rfl, fun halt stopped => ?_⟩
  cases stopped
  exact ⟨failure, rfl⟩

/-- Nothing follows a failure. -/
theorem fail_bind {next : α → HostAction σ ε β} (limit : Option Nat) (failure : ε) :
    Punctual limit (HostAction.fail failure >>= next) := by
  refine of_still fun before result after happened => ?_
  rw [bind_of_error (fail_apply failure before)] at happened
  cases happened
  refine ⟨rfl, fun halt stopped => ?_⟩
  cases stopped
  exact ⟨failure, rfl⟩

/-- **Two actions that keep to a limit keep to it one after the other.** -/
theorem bind {next : α → HostAction σ ε β} (first : Punctual limit action)
    (second : ∀ result, Punctual limit (next result)) : Punctual limit (action >>= next) := by
  intro before result after happened
  rcases ran : action before with ⟨halt | between, middle⟩
  · obtain ⟨onward, within, stops⟩ := first _ _ _ ran
    rw [bind_of_error ran] at happened
    cases happened
    refine ⟨onward, within, fun other same => ?_⟩
    cases same
    exact stops halt rfl
  · obtain ⟨onward, within, _⟩ := first _ _ _ ran
    rw [bind_of_ok ran] at happened
    obtain ⟨further, withinLater, stops⟩ := second between _ _ _ happened
    refine ⟨Nat.le_trans onward further, fun moment limited => ?_, stops⟩
    have early := within moment limited
    have late := withinLater moment limited
    omega

/-- An action that asks for the state of the host first. -/
theorem bind_get {next : Host σ → HostAction σ ε β} (punctual : ∀ host, Punctual limit (next host)) :
    Punctual limit (get >>= next) := by
  intro before result after happened
  rw [bind_of_ok (get_apply before)] at happened
  exact punctual before before result after happened

theorem mapFailure {δ : Type} {change : ε → δ} (punctual : Punctual limit action) :
    Punctual limit (HostAction.mapFailure change action) := by
  intro before result after happened
  rcases ran : action before with ⟨halt | between, middle⟩
  · obtain ⟨onward, within, stops⟩ := punctual _ _ _ ran
    simp only [HostAction.mapFailure, ran, mapError_error] at happened
    have stopped := stops halt rfl
    cases halt <;> cases happened <;> refine ⟨onward, within, fun other same => ?_⟩ <;> cases same
    · trivial
    · exact stopped
    · exact stopped
  · obtain ⟨onward, within, _⟩ := punctual _ _ _ ran
    simp only [HostAction.mapFailure, ran, mapError_ok] at happened
    cases happened
    exact ⟨onward, within, by simp⟩

end Punctual

/-- An action with a limit for which being overdue is a failure. It fails so only once the limit has
come, and does not wait for ever. -/
theorem Punctual.orOverdue_cases {action : HostAction σ ε α} {moment : Nat} {late : ε}
    {result : Except (Halt ε) α} (punctual : Punctual (some moment) action)
    (run : orOverdue late action before = (result, after)) :
    before.clock ≤ after.clock ∧ after.clock ≤ max before.clock moment ∧
      ∀ halt, result = .error halt → (halt = .failed late ∧ moment ≤ after.clock) ∨
        ∃ failure, halt = .failed failure ∧ action before = (.error (.failed failure), after) := by
  rcases ran : action before with ⟨halt | answer, middle⟩
  · obtain ⟨onward, within, stops⟩ := punctual _ _ _ ran
    simp only [orOverdue, ran, mapError_error] at run
    have stopped := stops halt rfl
    cases halt with
    | failed failure =>
      cases run
      refine ⟨onward, within moment rfl, fun other same => ?_⟩
      cases same
      exact .inr ⟨failure, rfl, rfl⟩
    | overdue =>
      cases run
      refine ⟨onward, within moment rfl, fun other same => ?_⟩
      cases same
      obtain ⟨limit, same, come⟩ := stopped
      cases same
      exact .inl ⟨rfl, come⟩
    | stuck => cases stopped
  · obtain ⟨onward, within, _⟩ := punctual _ _ _ ran
    simp only [orOverdue, ran, mapError_ok] at run
    cases run
    exact ⟨onward, within moment rfl, nofun⟩

/-! ### One command -/

theorem clock_apply (before : Host σ) :
    (clock : HostAction σ ε Nat) before = (.ok before.clock, before) := rfl

theorem clock_punctual (limit : Option Nat) : Punctual limit (clock : HostAction σ ε Nat) :=
  Punctual.bind_get fun host => Punctual.pure limit host.clock

theorem await_punctual (limit : Option Nat) (ready : Option (Nat × α)) (cancelled : ε) :
    Punctual limit (await limit ready cancelled : HostAction σ ε α) := by
  intro before result after happened
  -- the moment of every end but the last lies before the limit
  have advanced : ∀ moment, noLater moment limit = true → after = before.advance moment →
      before.clock ≤ after.clock ∧
        ∀ bound, limit = some bound → after.clock ≤ max before.clock bound := by
    rintro moment inTime rfl
    refine ⟨Nat.le_max_left _ _, fun bound limited => ?_⟩
    rw [limited] at inTime
    have early : moment ≤ bound := by simpa [noLater] using inTime
    exact Nat.max_le.mpr ⟨Nat.le_max_left _ _, Nat.le_trans early (Nat.le_max_right _ _)⟩
  obtain ⟨moment, answer, _, inTime, rfl, there⟩ | ⟨moment, inTime, _, rfl, there⟩ |
    ⟨moment, limited, rfl, there⟩ | ⟨unlimited, _, rfl, rfl⟩ := await_cases happened
  · obtain ⟨onward, within⟩ := advanced moment inTime there
    exact ⟨onward, within, nofun⟩
  · obtain ⟨onward, within⟩ := advanced moment inTime there
    refine ⟨onward, within, fun halt same => ?_⟩
    cases same
    trivial
  · obtain ⟨onward, within⟩ := advanced moment (by simp [noLater, limited]) there
    refine ⟨onward, within, fun halt same => ?_⟩
    cases same
    exact ⟨moment, limited, by rw [there]; exact Nat.le_max_right _ _⟩
  · refine ⟨Nat.le_refl _, fun _ _ => Nat.le_max_left _ _, fun halt same => ?_⟩
    cases same
    exact unlimited

theorem start_punctual (limit : Option Nat) (runner : Runner σ) (command : Command) :
    Punctual limit (start runner command) := by
  refine Punctual.of_still fun before result after happened => ?_
  cases happened
  exact ⟨rfl, nofun⟩

theorem cancel_punctual (limit : Option Nat) :
    Punctual limit (modify Host.cancel : HostAction σ ε PUnit) := by
  refine Punctual.of_still fun before result after happened => ?_
  cases happened
  refine ⟨?_, nofun⟩
  unfold Host.cancel
  split <;> rfl

/-- **A command keeps to its limit**, whatever the runner does with it. -/
theorem run_punctual (runner : Runner σ) (limit : Option Nat) (command : Command) :
    Punctual limit (run runner limit command) := by
  unfold run
  refine Punctual.bind_get fun host => ?_
  dsimp only
  split
  · exact Punctual.fail_bind limit _
  · refine (clock_punctual limit).bind fun now => (start_punctual limit runner command).bind
      fun response => (await_punctual limit _ _).bind fun answer => ?_
    cases answer with
    | finished outcome =>
      split
      · exact (cancel_punctual limit).bind fun _ => Punctual.pure limit outcome
      · exact Punctual.pure limit outcome
    | notStarted cause =>
      split
      · exact (cancel_punctual limit).bind fun _ => Punctual.fail limit _
      · exact Punctual.fail limit _

/-- A command that has to succeed keeps to its limit. -/
theorem runChecked_punctual (runner : Runner σ) (limit : Option Nat) (command : Command) :
    Punctual limit (runChecked runner limit command) := by
  unfold runChecked
  refine (run_punctual runner limit command).bind fun outcome => ?_
  split
  · exact Punctual.pure limit _
  · exact Punctual.fail limit _

end HostAction

end HostNet
