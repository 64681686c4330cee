/-
**Actions that run commands.**

An action that only runs commands leaves the files alone and adds to the log. What it adds is known
up to where it stops: an action that succeeds has run a whole sequence of commands of a known form,
and one that fails has run a beginning of such a sequence.

* `Records`: an action runs whole sequences of some form, and stops in some ways only;
* `Records.bind`: one action after another runs one sequence after the other;
* `run_records`: a command that is run is a sequence of one command.
-/

import HostNet.Host.Running
import HostNet.Proofs.Host.Action

namespace HostNet

variable {σ ε : Type}

/-- Without a limit nothing is overdue. -/
theorem WaitEnd.of_ne_overdue {α : Type} (cancelAt : Option Nat) (ready : Option (Nat × α))
    (moment : Nat) : WaitEnd.of cancelAt none ready ≠ .overdue moment := by
  unfold WaitEnd.of
  split
  · nofun
  · split <;> nofun

/-! ### Commands that were run in between -/

/-- The commands that were run between two states of a host. -/
def Recorded (before : Host σ) (commands : List Command) (after : Host σ) : Prop :=
  ∃ calls, after.calls = before.calls ++ calls ∧ calls.map (·.command) = commands

namespace Recorded

variable {before middle after : Host σ} {first second : List Command}

theorem of_log (same : after.log = before.log) : Recorded before [] after :=
  ⟨[], by simp [Host.calls, same], rfl⟩

theorem trans (front : Recorded before first middle) (back : Recorded middle second after) :
    Recorded before (first ++ second) after := by
  obtain ⟨early, whole, rfl⟩ := front
  obtain ⟨late, further, rfl⟩ := back
  exact ⟨early ++ late, by rw [further, whole, List.append_assoc], List.map_append⟩

end Recorded

/-! ### Forms of command sequences -/

namespace HostAction

open HostNet.Action

/-- The commands up to a result. A success has run commands of some form; what stops does so in one
of some ways, and has run the beginning of commands of this form. -/
def RunsTo {δ α : Type} (whole : List Command → Prop) (stops : δ → Prop)
    (commands : List Command) : Except δ α → Prop
  | .ok _ => whole commands
  | .error halt => stops halt ∧ ∃ complete, whole complete ∧ commands <+: complete

/-- An action leaves the files alone and runs commands of some form, in one of some ways to stop. -/
def Records {α : Type} (action : HostAction σ ε α) (whole : List Command → Prop)
    (stops : Halt ε → Prop) : Prop :=
  ∀ before result after, action before = (result, after) → after.files = before.files ∧
    ∃ commands, Recorded before commands after ∧ RunsTo whole stops commands result

namespace Records

variable {α β : Type} {action : HostAction σ ε α} {whole other : List Command → Prop}
  {stops ends : Halt ε → Prop}

theorem mono (records : Records action whole stops) (forms : ∀ commands, whole commands → other commands)
    (ways : ∀ halt, stops halt → ends halt) : Records action other ends := by
  intro before result after happened
  obtain ⟨files, commands, recorded, form⟩ := records before result after happened
  refine ⟨files, commands, recorded, ?_⟩
  cases result with
  | ok _ => exact forms commands form
  | error halt =>
    obtain ⟨stopped, complete, fits, begins⟩ := form
    exact ⟨ways halt stopped, complete, forms complete fits, begins⟩

/-- What succeeds without doing anything runs no command. -/
theorem pure (result : α) (stops : Halt ε → Prop) :
    Records (Pure.pure result : HostAction σ ε α) (· = []) stops := by
  intro before outcome after happened
  cases happened
  exact ⟨rfl, [], Recorded.of_log rfl, rfl⟩

/-- What stops without doing anything runs no command. -/
theorem throw {halt : Halt ε} (some : ∃ commands, whole commands) (stopped : stops halt) :
    Records (MonadExcept.throw halt : HostAction σ ε α) whole stops := by
  intro before outcome after happened
  cases happened
  obtain ⟨complete, fits⟩ := some
  exact ⟨rfl, [], Recorded.of_log rfl, stopped, complete, fits, List.nil_prefix⟩

theorem fail {failure : ε} (some : ∃ commands, whole commands) (stopped : stops (.failed failure)) :
    Records (HostAction.fail failure : HostAction σ ε α) whole stops :=
  Records.throw some stopped

/-- Nothing follows a failure. -/
theorem fail_bind {failure : ε} {next : α → HostAction σ ε β} (some : ∃ commands, whole commands)
    (stopped : stops (.failed failure)) :
    Records (HostAction.fail failure >>= next) whole stops := by
  intro before result after happened
  rw [bind_of_error (fail_apply failure before)] at happened
  cases happened
  obtain ⟨complete, fits⟩ := some
  exact ⟨rfl, [], Recorded.of_log rfl, stopped, complete, fits, List.nil_prefix⟩

/-- **One action after another runs one sequence after the other.** -/
theorem bind {next : α → HostAction σ ε β} (first : Records action whole stops)
    (second : ∀ result, Records (next result) other stops) (some : ∃ commands, other commands) :
    Records (action >>= next)
      (fun commands => ∃ front back, whole front ∧ other back ∧ commands = front ++ back) stops := by
  intro before result after happened
  rcases ran : action before with ⟨halt | between, middle⟩
  · rw [bind_of_error ran] at happened
    cases happened
    obtain ⟨files, commands, recorded, stopped, complete, fits, begins⟩ := first _ _ _ ran
    obtain ⟨rest, further⟩ := some
    exact ⟨files, commands, recorded, stopped, complete ++ rest,
      ⟨complete, rest, fits, further, rfl⟩, begins.trans (List.prefix_append _ _)⟩
  · rw [bind_of_ok ran] at happened
    obtain ⟨files, front, recorded, fits⟩ := first _ _ _ ran
    obtain ⟨sameFiles, back, later, form⟩ := second between _ _ _ happened
    refine ⟨sameFiles.trans files, front ++ back, recorded.trans later, ?_⟩
    cases result with
    | ok _ => exact ⟨front, back, fits, form, rfl⟩
    | error halt =>
      obtain ⟨stopped, complete, further, begins⟩ := form
      refine ⟨stopped, front ++ complete, ⟨front, complete, fits, further, rfl⟩, ?_⟩
      exact (List.prefix_append_right_inj front).mpr begins

/-- An action that asks for the state of the host first. -/
theorem bind_get {next : Host σ → HostAction σ ε β}
    (records : ∀ host, Records (next host) whole stops) : Records (get >>= next) whole stops := by
  intro before result after happened
  rw [bind_of_ok (get_apply before)] at happened
  exact records before before result after happened

/-- Commands are run in an action whose failures are told in other words. -/
theorem mapFailure {δ : Type} {change : ε → δ} {ends : Halt δ → Prop}
    (records : Records action whole stops)
    (failed : ∀ failure, stops (.failed failure) → ends (.failed (change failure)))
    (overdue : stops .overdue → ends .overdue) (stuck : stops .stuck → ends .stuck) :
    Records (HostAction.mapFailure change action) whole ends := by
  intro before result after happened
  rcases ran : action before with ⟨halt | between, middle⟩
  · obtain ⟨files, commands, recorded, stopped, begins⟩ := records _ _ _ ran
    simp only [HostAction.mapFailure, ran, mapError_error] at happened
    cases halt <;> cases happened
    · exact ⟨files, commands, recorded, failed _ stopped, begins⟩
    · exact ⟨files, commands, recorded, overdue stopped, begins⟩
    · exact ⟨files, commands, recorded, stuck stopped, begins⟩
  · simp only [HostAction.mapFailure, ran, mapError_ok] at happened
    cases happened
    exact records _ _ _ ran

/-- Commands are run in an action for which being overdue is a failure. -/
theorem orOverdue {failure : ε} (records : Records action whole stops)
    (others : ∀ halt, halt ≠ .overdue → stops halt → ends halt) (late : ends (.failed failure)) :
    Records (HostAction.orOverdue failure action) whole ends := by
  intro before result after happened
  rcases ran : action before with ⟨halt | between, middle⟩
  · obtain ⟨files, commands, recorded, stopped, begins⟩ := records _ _ _ ran
    simp only [HostAction.orOverdue, ran, mapError_error] at happened
    cases halt <;> cases happened
    · exact ⟨files, commands, recorded, others _ nofun stopped, begins⟩
    · exact ⟨files, commands, recorded, late, begins⟩
    · exact ⟨files, commands, recorded, others _ nofun stopped, begins⟩
  · simp only [HostAction.orOverdue, ran, mapError_ok] at happened
    cases happened
    exact records _ _ _ ran

/-- One action after another runs commands of a form that the two forms make up. -/
theorem bind_of {form : List Command → Prop} {next : α → HostAction σ ε β}
    (first : Records action whole stops) (second : ∀ result, Records (next result) other stops)
    (some : ∃ commands, other commands)
    (together : ∀ front back, whole front → other back → form (front ++ back)) :
    Records (action >>= next) form stops := by
  refine (first.bind second some).mono (fun commands fits => ?_) fun _ stopped => stopped
  obtain ⟨front, back, begins, ends, rfl⟩ := fits
  exact together front back begins ends

theorem bind_eq {front back : List Command} {next : α → HostAction σ ε β}
    (first : Records action (· = front) stops)
    (second : ∀ result, Records (next result) (· = back) stops) :
    Records (action >>= next) (· = front ++ back) stops := by
  refine first.bind_of second ⟨back, rfl⟩ ?_
  rintro _ _ rfl rfl
  rfl

/-- An action that runs no command can stand before another. -/
theorem bind_silent {next : α → HostAction σ ε β} (first : Records action (· = []) stops)
    (second : ∀ result, Records (next result) whole stops) (some : ∃ commands, whole commands) :
    Records (action >>= next) whole stops := by
  refine first.bind_of second some fun front back silent fits => ?_
  rw [silent]
  exact fits

/-- An action that runs no command can stand after another. -/
theorem bind_then_silent {next : α → HostAction σ ε β} (first : Records action whole stops)
    (second : ∀ result, Records (next result) (· = []) stops) :
    Records (action >>= next) whole stops := by
  refine first.bind_of second ⟨[], rfl⟩ fun front back fits silent => ?_
  rw [silent, List.append_nil]
  exact fits

end Records

/-! ### One command -/

theorem clock_records (stops : Halt ε → Prop) :
    Records (clock : HostAction σ ε Nat) (· = []) stops :=
  Records.bind_get fun host => Records.pure host.clock stops

/-- Waiting runs no command. It is cancelled, it never ends, or it is overdue if there is a limit. -/
theorem await_records {α : Type} (limit : Option Nat) (ready : Option (Nat × α)) (cancelled : ε) :
    Records (await limit ready cancelled : HostAction σ ε α) (· = [])
      fun halt => halt = .failed cancelled ∨ halt = .stuck ∨ (halt = .overdue ∧ limit ≠ none) := by
  intro before result after happened
  obtain ⟨log, files⟩ := await_log limit ready cancelled before
  rw [happened] at log files
  refine ⟨files, [], Recorded.of_log log, ?_⟩
  unfold await at happened
  split at happened
  · cases happened
    rfl
  · cases happened
    exact ⟨.inl rfl, [], rfl, List.nil_prefix⟩
  · rename_i moment ends
    cases happened
    refine ⟨.inr (.inr ⟨rfl, ?_⟩), [], rfl, List.nil_prefix⟩
    rintro rfl
    exact WaitEnd.of_ne_overdue before.cancelAt ready moment ends
  · cases happened
    exact ⟨.inr (.inl rfl), [], rfl, List.nil_prefix⟩

/-- Waiting without a limit is not overdue. -/
theorem await_records_of_none {α : Type} (limit : Option Nat) (ready : Option (Nat × α))
    (cancelled : ε) :
    Records (await limit ready cancelled : HostAction σ ε α) (· = [])
      fun halt => limit = none → halt ≠ .overdue := by
  refine (await_records limit ready cancelled).mono (fun _ silent => silent) ?_
  rintro halt (rfl | rfl | ⟨rfl, limited⟩) unlimited
  · nofun
  · nofun
  · exact absurd unlimited limited

theorem start_records (runner : Runner σ) (command : Command) (stops : Halt HostFailure → Prop) :
    Records (start runner command) (· = [command]) stops := by
  intro before result after happened
  cases happened
  exact ⟨rfl, [command], ⟨[⟨before.clock, command⟩], by simp [Host.calls], rfl⟩, rfl⟩

theorem cancel_records (stops : Halt ε → Prop) :
    Records (modify Host.cancel : HostAction σ ε PUnit) (· = []) stops := by
  intro before result after happened
  cases happened
  have same : before.cancel.log = before.log ∧ before.cancel.files = before.files := by
    unfold Host.cancel
    split <;> exact ⟨rfl, rfl⟩
  exact ⟨same.2, [], Recorded.of_log same.1, rfl⟩

/-- **A command that is run is noted; it is overdue only if there is a limit.** -/
theorem run_records (runner : Runner σ) (limit : Option Nat) (command : Command) :
    Records (run runner limit command) (· = [command])
      fun halt => limit = none → halt ≠ .overdue := by
  unfold run
  refine Records.bind_get fun host => ?_
  dsimp only
  split
  · exact Records.fail_bind ⟨_, rfl⟩ fun _ => by simp
  · refine (clock_records _).bind_silent (fun now => ?_) ⟨_, rfl⟩
    refine (start_records runner command _).bind_then_silent fun response => ?_
    refine (await_records_of_none limit _ _).bind_silent (fun answer => ?_) ⟨_, rfl⟩
    cases answer with
    | finished outcome =>
      split
      · exact (cancel_records _).bind_silent (fun _ => Records.pure outcome _) ⟨_, rfl⟩
      · exact Records.pure outcome _
    | notStarted cause =>
      split
      · exact (cancel_records _).bind_silent (fun _ => Records.fail ⟨_, rfl⟩ fun _ => by simp) ⟨_, rfl⟩
      · exact Records.fail ⟨_, rfl⟩ fun _ => by simp

/-- A command that has to succeed is noted. -/
theorem runChecked_records (runner : Runner σ) (limit : Option Nat) (command : Command) :
    Records (runChecked runner limit command) (· = [command])
      fun halt => limit = none → halt ≠ .overdue := by
  unfold runChecked
  refine (run_records runner limit command).bind_then_silent fun outcome => ?_
  split
  · exact Records.pure _ _
  · exact Records.fail ⟨_, rfl⟩ fun _ => nofun

end HostAction

end HostNet
