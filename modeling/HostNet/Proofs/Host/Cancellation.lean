/-
**Actions that heed a request for cancellation.**

Cancellation is requested at a moment that is set beforehand, or by a runner that asks for it along
with an answer, which may be in the same moment as other commands. From then on no command is noted.
An action that succeeds hands the request on to what is done after it; one that waits for ever does
so only without a request.

* `Exchange`: a command that was noted, and what the runner did with it;
* `Requested`: cancellation has been requested by a moment, when some commands have been noted;
* `Heeds`: an action heeds cancellation, whatever it does;
* `Heeded.trans` and `Heeds.bind`: two actions one after the other;
* `run_heeds`: a command heeds cancellation.
-/

import HostNet.Proofs.Host.Answers

namespace HostNet

variable {σ ε α β : Type}

/-- What is cancelled at some moment does not wait for ever. -/
theorem WaitEnd.cancelAt_of_never {cancelAt limit : Option Nat} {ready : Option (Nat × α)}
    (ended : WaitEnd.of cancelAt limit ready = .never) : cancelAt = none := by
  obtain ⟨rfl, rfl⟩ := of_eq_never ended
  cases cancelAt with
  | none => rfl
  | some moment => cases ended

/-! ### Exchanges with the runner -/

/-- A command that was noted, and what the runner did with it. -/
structure Exchange where
  call : Call
  response : Response

/-- The moment of the answer to a command that asks for cancellation along with it. -/
def Exchange.request? (exchange : Exchange) : Option Nat :=
  if exchange.response.cancels && exchange.response.answer.isSome then
    some (exchange.call.moment + exchange.response.delay)
  else none

/-- The runner gave the responses of some exchanges, one after the other, between two of its
states. -/
inductive Replies (runner : Runner σ) : σ → List Exchange → σ → Prop
  | nil (state : σ) : Replies runner state [] state
  | cons {exchange : Exchange} {exchanges : List Exchange} {state middle last : σ}
      (first : runner state exchange.call.command = (exchange.response, middle))
      (rest : Replies runner middle exchanges last) :
      Replies runner state (exchange :: exchanges) last

theorem Replies.append {runner : Runner σ} {state middle last : σ} {front back : List Exchange}
    (first : Replies runner state front middle) (second : Replies runner middle back last) :
    Replies runner state (front ++ back) last := by
  induction first with
  | nil => exact second
  | cons first _ ih => exact .cons first (ih second)

/-- The exchanges between two states of a host. -/
structure Exchanged (runner : Runner σ) (before : Host σ) (exchanges : List Exchange)
    (after : Host σ) : Prop where
  calls : after.calls = before.calls ++ exchanges.map (·.call)
  replies : Replies runner before.runner exchanges after.runner

/-- Cancellation has been requested by a moment, on a host on which some commands have been noted
since a state of it: beforehand, or with the answer to one of these commands. -/
def Requested (before : Host σ) (exchanges : List Exchange) (moment : Nat) : Prop :=
  (∃ request, before.cancelAt = some request ∧ request ≤ moment) ∨
    ∃ exchange ∈ exchanges, ∃ request, exchange.request? = some request ∧ request ≤ moment

namespace Requested

variable {before middle : Host σ} {front back exchanges : List Exchange} {moment later : Nat}

theorem mono (requested : Requested before exchanges moment) (onward : moment ≤ later) :
    Requested before exchanges later := by
  obtain ⟨request, known, come⟩ | ⟨exchange, inside, request, known, come⟩ := requested
  · exact .inl ⟨request, known, Nat.le_trans come onward⟩
  · exact .inr ⟨exchange, inside, request, known, Nat.le_trans come onward⟩

theorem nil_iff : Requested before [] moment ↔
    ∃ request, before.cancelAt = some request ∧ request ≤ moment := by
  simp [Requested]

theorem now_iff : Requested before [] before.clock ↔ before.isCancelled = true := by
  rw [nil_iff, Host.isCancelled]
  cases before.cancelAt <;> simp

/-- What has been requested from one state on has been requested from a later one on, if all requests
up to that one were handed on. -/
theorem pass (handed : ∀ moment, Requested before front moment → Requested middle [] moment)
    (requested : Requested before (front ++ back) moment) : Requested middle back moment := by
  have early : ∀ {request}, Requested before front request → request ≤ moment →
      Requested middle back moment := by
    intro request known come
    obtain ⟨request, known, before⟩ := nil_iff.mp (handed _ known)
    exact .inl ⟨request, known, Nat.le_trans before come⟩
  obtain ⟨request, known, come⟩ | ⟨exchange, inside, request, known, come⟩ := requested
  · exact early (.inl ⟨request, known, Nat.le_refl _⟩) come
  · obtain inside | inside := List.mem_append.mp inside
    · exact early (.inr ⟨exchange, inside, request, known, Nat.le_refl _⟩) come
    · exact .inr ⟨exchange, inside, request, known, come⟩

end Requested

/-! ### Heeding a request -/

/-- What was done between two states of a host heeds cancellation. -/
structure Heeded (runner : Runner σ) (before : Host σ) (result : Except (Halt ε) α)
    (after : Host σ) (exchanges : List Exchange) : Prop where
  exchanged : Exchanged runner before exchanges after
  /-- No command is noted after a request. -/
  free : ∀ front exchange back, exchanges = front ++ exchange :: back →
    ¬ Requested before front exchange.call.moment
  /-- A success hands all requests on. -/
  handed : ∀ answer, result = .ok answer → ∀ moment, Requested before exchanges moment →
    Requested after [] moment
  /-- After a request nothing waits for ever. -/
  returns : result = .error .stuck → ¬ Requested before exchanges after.clock

namespace Heeded

variable {runner : Runner σ} {before middle after : Host σ} {front back : List Exchange}
  {result : Except (Halt ε) α}

/-- What notes no command and leaves the request as it is. -/
theorem of_silent (log : after.log = before.log) (runners : after.runner = before.runner)
    (request : after.cancelAt = before.cancelAt)
    (returns : result = .error .stuck → ¬ Requested before [] after.clock) :
    Heeded runner before result after [] where
  exchanged := ⟨by simp [Host.calls, log], by rw [runners]; exact .nil _⟩
  free := by
    intro front exchange back equal
    simp at equal
  handed := by
    intro answer _ moment requested
    rw [Requested.nil_iff] at requested ⊢
    rwa [request]
  returns := returns

theorem refl (before : Host σ) (stops : result ≠ .error .stuck) :
    Heeded runner before result before [] :=
  of_silent rfl rfl rfl fun stuck => absurd stuck stops

/-- What was done heeds cancellation if its result is told in other words. -/
theorem retell {δ : Type} {other : Except (Halt δ) β}
    (heeded : Heeded runner before result after front)
    (done : ∀ answer, other = .ok answer → ∃ answer, result = .ok answer)
    (stuck : other = .error .stuck → result = .error .stuck) :
    Heeded runner before other after front where
  exchanged := heeded.exchanged
  free := heeded.free
  handed := by
    intro answer told
    obtain ⟨answer, was⟩ := done answer told
    exact heeded.handed answer was
  returns told := heeded.returns (stuck told)

/-- An answer may be told in other words. -/
theorem retell_ok {δ : Type} {answer : α}
    (heeded : Heeded runner before (.ok answer : Except (Halt ε) α) after front) (other : β) :
    Heeded runner before (.ok other : Except (Halt δ) β) after front := by
  refine heeded.retell (fun _ _ => ⟨answer, rfl⟩) fun told => ?_
  cases told

/-- A failure may be told in other words. -/
theorem retell_error {δ : Type} {halt : Halt ε} {other : Halt δ}
    (heeded : Heeded runner before (.error halt : Except (Halt ε) α) after front)
    (stuck : other = .stuck → halt = .stuck) :
    Heeded runner before (.error other : Except (Halt δ) β) after front := by
  refine heeded.retell (fun _ told => ?_) fun told => ?_
  · cases told
  · rw [stuck (Except.error.inj told)]

/-- **What succeeds can be followed by more.** -/
theorem trans {answer : β}
    (first : Heeded runner before (.ok answer : Except (Halt ε) β) middle front)
    (second : Heeded runner middle result after back) :
    Heeded runner before result after (front ++ back) where
  exchanged := by
    refine ⟨?_, first.exchanged.replies.append second.exchanged.replies⟩
    rw [second.exchanged.calls, first.exchanged.calls, List.map_append, List.append_assoc]
  free := by
    intro early exchange late equal requested
    obtain ⟨rest, rfl, cut⟩ | ⟨rest, rfl, cut⟩ := List.append_eq_append_iff.mp equal
    · exact second.free rest exchange late cut (requested.pass (first.handed answer rfl))
    · cases rest with
      | nil =>
        refine second.free [] exchange late cut.symm (Requested.pass (first.handed answer rfl) ?_)
        simpa using requested
      | cons other rest =>
        obtain ⟨rfl, rfl⟩ := List.cons.inj cut
        exact first.free early exchange rest rfl requested
  handed := by
    intro final done moment requested
    exact second.handed final done moment (requested.pass (first.handed answer rfl))
  returns := by
    intro stuck requested
    exact second.returns stuck (requested.pass (first.handed answer rfl))

end Heeded

namespace HostAction

open HostNet.Action

/-- An action heeds cancellation. -/
def Heeds (runner : Runner σ) (action : HostAction σ ε α) : Prop :=
  ∀ before result after, action before = (result, after) →
    ∃ exchanges, Heeded runner before result after exchanges

namespace Heeds

variable {runner : Runner σ} {action : HostAction σ ε α}

theorem pure (runner : Runner σ) (answer : α) :
    Heeds runner (Pure.pure answer : HostAction σ ε α) := by
  intro before result after happened
  cases happened
  exact ⟨[], .refl before nofun⟩

theorem fail (runner : Runner σ) (failure : ε) :
    Heeds runner (HostAction.fail failure : HostAction σ ε α) := by
  intro before result after happened
  cases happened
  exact ⟨[], .refl before nofun⟩

/-- Nothing follows a failure. -/
theorem fail_bind (runner : Runner σ) (failure : ε) (next : α → HostAction σ ε β) :
    Heeds runner (HostAction.fail failure >>= next) := by
  intro before result after happened
  rw [bind_of_error (fail_apply failure before)] at happened
  cases happened
  exact ⟨[], .refl before nofun⟩

theorem clock (runner : Runner σ) : Heeds runner (HostAction.clock : HostAction σ ε Nat) := by
  intro before result after happened
  cases happened
  exact ⟨[], .refl before nofun⟩

/-- **Two actions that heed cancellation do so one after the other.** -/
theorem bind {next : α → HostAction σ ε β} (first : Heeds runner action)
    (second : ∀ answer, Heeds runner (next answer)) : Heeds runner (action >>= next) := by
  intro before result after happened
  rcases ran : action before with ⟨halt | answer, middle⟩
  · rw [bind_of_error ran] at happened
    cases happened
    obtain ⟨exchanges, heeded⟩ := first _ _ _ ran
    exact ⟨exchanges, heeded.retell_error id⟩
  · rw [bind_of_ok ran] at happened
    obtain ⟨front, begun⟩ := first _ _ _ ran
    obtain ⟨back, ended⟩ := second answer _ _ _ happened
    exact ⟨front ++ back, begun.trans ended⟩

theorem forM {step : α → HostAction σ ε PUnit} {members : List α}
    (each : ∀ member ∈ members, Heeds runner (step member)) :
    Heeds runner (members.forM step) := by
  induction members with
  | nil => exact pure runner PUnit.unit
  | cons first members ih =>
    rw [List.forall_mem_cons] at each
    exact each.1.bind fun _ => ih each.2

/-- An action heeds cancellation if its failures are told in other words. -/
theorem mapFailure {δ : Type} {change : ε → δ} (heeds : Heeds runner action) :
    Heeds runner (HostAction.mapFailure change action) := by
  intro before result after happened
  rcases ran : action before with ⟨halt | answer, middle⟩ <;>
    obtain ⟨exchanges, heeded⟩ := heeds _ _ _ ran
  · simp only [HostAction.mapFailure, ran, mapError_error] at happened
    cases happened
    refine ⟨exchanges, heeded.retell_error fun stuck => ?_⟩
    cases halt <;> cases stuck
    rfl
  · simp only [HostAction.mapFailure, ran, mapError_ok] at happened
    cases happened
    exact ⟨exchanges, heeded.retell_ok answer⟩

/-- An action heeds cancellation if being overdue is a failure of it. -/
theorem orOverdue {failure : ε} (heeds : Heeds runner action) :
    Heeds runner (HostAction.orOverdue failure action) := by
  intro before result after happened
  rcases ran : action before with ⟨halt | answer, middle⟩ <;>
    obtain ⟨exchanges, heeded⟩ := heeds _ _ _ ran
  · simp only [HostAction.orOverdue, ran, mapError_error] at happened
    cases happened
    refine ⟨exchanges, heeded.retell_error fun stuck => ?_⟩
    cases halt <;> cases stuck
    rfl
  · simp only [HostAction.orOverdue, ran, mapError_ok] at happened
    cases happened
    exact ⟨exchanges, heeded⟩

end Heeds

/-! ### One command -/

variable {before after : Host σ} {limit : Option Nat}

/-- Waiting lets time pass and does nothing else. -/
theorem await_frame {ready : Option (Nat × α)} {cancelled : ε} {result : Except (Halt ε) α}
    (happened : await limit ready cancelled before = (result, after)) :
    after.log = before.log ∧ after.runner = before.runner ∧ after.cancelAt = before.cancelAt := by
  unfold await at happened
  split at happened <;> cases happened <;> exact ⟨rfl, rfl, rfl⟩

/-- Waiting goes on for ever only without a request. -/
theorem await_stuck {ready : Option (Nat × α)} {cancelled : ε}
    (happened : await limit ready cancelled before = (.error .stuck, after)) :
    before.cancelAt = none ∧ ready = none := by
  unfold await at happened
  split at happened <;> cases happened
  rename_i ended
  exact ⟨WaitEnd.cancelAt_of_never ended, (WaitEnd.of_eq_never ended).2⟩

/-- Waiting notes no command. -/
theorem await_heeds (runner : Runner σ) (limit : Option Nat) (ready : Option (Nat × α))
    (cancelled : ε) : Heeds runner (await limit ready cancelled : HostAction σ ε α) := by
  intro before result after happened
  obtain ⟨log, runners, request⟩ := await_frame happened
  refine ⟨[], .of_silent log runners request ?_⟩
  rintro rfl requested
  obtain ⟨moment, set, -⟩ := Requested.nil_iff.mp requested
  rw [(await_stuck happened).1] at set
  cases set

/-- A request now keeps all requests, and adds one that has come by now. -/
theorem requested_cancel {moment : Nat}
    (requested : Requested before [] moment ∨ before.clock ≤ moment) :
    Requested before.cancel [] moment := by
  cases cancelled : before.isCancelled with
  | true =>
    have same : before.cancel = before := by simp [Host.cancel, cancelled]
    rw [same]
    exact requested.elim id (Requested.now_iff.mpr cancelled).mono
  | false =>
    have made : before.cancel = { before with cancelAt := some before.clock } := by
      simp [Host.cancel, cancelled]
    rw [made, Requested.nil_iff]
    refine ⟨before.clock, rfl, ?_⟩
    obtain requested | come := requested
    · obtain ⟨request, known, come⟩ := Requested.nil_iff.mp requested
      have later : ¬ request ≤ before.clock := by simpa [Host.isCancelled, known] using cancelled
      omega
    · exact come

theorem cancel_frame (host : Host σ) :
    host.cancel.log = host.log ∧ host.cancel.runner = host.runner := by
  unfold Host.cancel
  split <;> exact ⟨rfl, rfl⟩

theorem conclude_eq (command : Command) (cancels : Bool) (answer : Answer) (host : Host σ) :
    conclude command cancels answer host =
      (match answer with
        | .finished outcome => .ok outcome
        | .notStarted cause => .error (.failed (.notStarted command.line cause)),
      if cancels then host.cancel else host) := by
  cases cancels <;> cases answer <;> rfl

/-- The only command that was noted was noted before any request. -/
theorem not_requested_of_single {exchange other : Exchange} {front back : List Exchange}
    (free : before.isCancelled = false) (now : exchange.call.moment = before.clock)
    (single : [exchange] = front ++ other :: back) :
    ¬ Requested before front other.call.moment := by
  obtain ⟨rfl, rest⟩ | ⟨_, rfl, rest⟩ := List.cons_eq_append_iff.mp single
  · obtain ⟨rfl, -⟩ := List.cons.inj rest
    rw [now, Requested.now_iff, free]
    exact Bool.false_ne_true
  · simp at rest

section Noted

variable {runner : Runner σ} {command : Command} {response : Response} {state : σ}
  {middle : Host σ} {result : Except (Halt ε) α}

theorem noted_exchanged (given : runner before.runner command = (response, state))
    (log : after.log = ⟨before.clock, command⟩ :: before.log) (runners : after.runner = state) :
    Exchanged runner before [⟨⟨before.clock, command⟩, response⟩] after :=
  ⟨by simp [Host.calls, log], .cons given (runners ▸ .nil _)⟩

/-- A command that is cut off while its answer is waited for. -/
theorem unanswered_heeded {halt : Halt ε} (free : before.isCancelled = false)
    (given : runner before.runner command = (response, state))
    (log : after.log = ⟨before.clock, command⟩ :: before.log) (runners : after.runner = state)
    (stuck : halt = .stuck → before.cancelAt = none ∧ response.answer = none) :
    Heeded runner before (.error halt : Except (Halt ε) α) after
      [⟨⟨before.clock, command⟩, response⟩] where
  exchanged := noted_exchanged given log runners
  free _ _ _ := not_requested_of_single free rfl
  handed := nofun
  returns := by
    intro same requested
    cases same
    obtain ⟨uncancelled, hangs⟩ := stuck rfl
    obtain ⟨request, set, -⟩ | ⟨exchange, inside, request, made, -⟩ := requested
    · rw [uncancelled] at set
      cases set
    · rw [List.mem_singleton.mp inside] at made
      simp [Exchange.request?, hangs] at made

/-- A command that is answered, and the request that comes with the answer. -/
theorem answered_heeded (free : before.isCancelled = false)
    (given : runner before.runner command = (response, state))
    (log : middle.log = ⟨before.clock, command⟩ :: before.log) (runners : middle.runner = state)
    (request : middle.cancelAt = before.cancelAt)
    (come : middle.clock = before.clock + response.delay) (stops : result ≠ .error .stuck) :
    Heeded runner before result (if response.cancels then middle.cancel else middle)
      [⟨⟨before.clock, command⟩, response⟩] where
  exchanged := by
    obtain ⟨sameLog, sameRunner⟩ := cancel_frame middle
    split
    · exact noted_exchanged given (sameLog.trans log) (sameRunner.trans runners)
    · exact noted_exchanged given log runners
  free _ _ _ := not_requested_of_single free rfl
  handed := by
    intro answer _ moment requested
    have made : Requested middle [] moment ∨ response.cancels = true ∧ middle.clock ≤ moment := by
      obtain ⟨set, known, early⟩ | ⟨exchange, inside, set, known, early⟩ := requested
      · exact .inl (.inl ⟨set, request.trans known, early⟩)
      · rw [List.mem_singleton.mp inside, Exchange.request?] at known
        split at known <;> cases known
        rename_i asked
        exact .inr ⟨(Bool.and_eq_true_iff.mp asked).1, Nat.le_trans (Nat.le_of_eq come) early⟩
    split
    · exact requested_cancel (made.imp_right And.right)
    · rename_i silent
      exact made.resolve_right fun asked => silent asked.1
  returns stuck := absurd stuck stops

end Noted

/-- **A command heeds cancellation.** -/
theorem run_heeds (runner : Runner σ) (limit : Option Nat) (command : Command) :
    Heeds runner (run runner limit command) := by
  intro before result after happened
  cases cancelled : before.isCancelled with
  | true =>
    rw [run_cancelled runner limit command cancelled] at happened
    cases happened
    exact ⟨[], .refl before nofun⟩
  | false =>
    rcases given : runner before.runner command with ⟨response, state⟩
    rw [run_of_free cancelled given] at happened
    refine ⟨[⟨⟨before.clock, command⟩, response⟩], ?_⟩
    generalize known : { before with
      runner := state, log := ⟨before.clock, command⟩ :: before.log } = noted at happened
    rcases waited : await limit
        (response.answer.map fun answer => (before.clock + response.delay, answer))
        (HostFailure.cancelled command.line) noted with ⟨halt | answer, middle⟩ <;>
      obtain ⟨log, runners, request⟩ := await_frame waited <;> subst known
    · rw [bind_of_error waited] at happened
      cases happened
      refine unanswered_heeded cancelled given log runners ?_
      rintro rfl
      obtain ⟨uncancelled, absent⟩ := await_stuck waited
      exact ⟨uncancelled, by simpa using absent⟩
    · rw [bind_of_ok waited, conclude_eq] at happened
      cases happened
      obtain ⟨moment, ready, -, -, there⟩ := await_ok_iff.mp waited
      obtain ⟨found, -, same⟩ := Option.map_eq_some_iff.mp ready
      cases same
      refine answered_heeded cancelled given log runners request ?_ (by cases answer <;> nofun)
      rw [there]
      exact Nat.max_eq_right (Nat.le_add_right _ _)

/-- A command that has to succeed heeds cancellation. -/
theorem runChecked_heeds (runner : Runner σ) (limit : Option Nat) (command : Command) :
    Heeds runner (runChecked runner limit command) := by
  unfold runChecked
  refine (run_heeds runner limit command).bind fun outcome => ?_
  split
  · exact .pure runner _
  · exact .fail runner _

end HostAction

end HostNet
