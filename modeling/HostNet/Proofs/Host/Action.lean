/-
**What an action does, from what its steps do.**

An action on a state answers a result or a failure, and leaves the state as it is then. An action
of several steps succeeds exactly if each step succeeds from where the one before left the state,
and it fails where its first failing step leaves the state.

* `bind_ok_iff` and `bind_error_iff`: one step, then another;
* `forM_cons_ok_iff` and `forM_error_iff`: one step for each member of a list;
* `tryCatch_of_ok` and `tryCatch_of_error`: a step with another in its place if it fails.
-/

import HostNet.Host.Basic

namespace HostNet.Action

variable {ε σ α β : Type} {state after : σ}

theorem mapError_ok {δ : Type} (change : ε → δ) (result : α) :
    (Except.ok result).mapError change = .ok result := rfl

theorem mapError_error {δ : Type} (change : ε → δ) (failure : ε) :
    (Except.error failure : Except ε α).mapError change = .error (change failure) := rfl

@[simp] theorem throw_apply (failure : ε) (state : σ) :
    (throw failure : ExceptT ε (StateM σ) α) state = (.error failure, state) := rfl

@[simp] theorem get_apply (state : σ) :
    (get : ExceptT ε (StateM σ) σ) state = (.ok state, state) := rfl

@[simp] theorem modify_apply (change : σ → σ) (state : σ) :
    (modify change : ExceptT ε (StateM σ) PUnit) state = (.ok ⟨⟩, change state) := rfl

@[simp] theorem fail_apply (failure : ε) (host : Host σ) :
    (HostAction.fail failure : HostAction σ ε α) host = (.error (.failed failure), host) := rfl

theorem bind_of_ok {first : ExceptT ε (StateM σ) α} {result : α} {middle : σ}
    (done : first state = (.ok result, middle)) (next : α → ExceptT ε (StateM σ) β) :
    (first >>= next) state = next result middle := by
  show ExceptT.bindCont next (first state).1 (first state).2 = _
  rw [done]
  rfl

theorem bind_of_error {first : ExceptT ε (StateM σ) α} {failure : ε}
    (failed : first state = (.error failure, after)) (next : α → ExceptT ε (StateM σ) β) :
    (first >>= next) state = (.error failure, after) := by
  show ExceptT.bindCont next (first state).1 (first state).2 = _
  rw [failed]
  rfl

/-- Two steps succeed exactly if the first does and the second does after it. -/
theorem bind_ok_iff {first : ExceptT ε (StateM σ) α} {next : α → ExceptT ε (StateM σ) β}
    {result : β} :
    (first >>= next) state = (.ok result, after) ↔
      ∃ between middle, first state = (.ok between, middle) ∧
        next between middle = (.ok result, after) := by
  constructor
  · intro done
    rcases run : first state with ⟨_ | between, middle⟩
    · rw [bind_of_error run] at done
      cases done
    · rw [bind_of_ok run] at done
      exact ⟨between, middle, rfl, done⟩
  · rintro ⟨between, middle, run, done⟩
    rw [bind_of_ok run, done]

/-- Two steps fail exactly if the first does or the second does after it. -/
theorem bind_error_iff {first : ExceptT ε (StateM σ) α} {next : α → ExceptT ε (StateM σ) β}
    {failure : ε} :
    (first >>= next) state = (.error failure, after) ↔
      first state = (.error failure, after) ∨
        ∃ between middle, first state = (.ok between, middle) ∧
          next between middle = (.error failure, after) := by
  constructor
  · intro failed
    rcases run : first state with ⟨_ | between, middle⟩
    · rw [bind_of_error run] at failed
      cases failed
      exact .inl rfl
    · rw [bind_of_ok run] at failed
      exact .inr ⟨between, middle, rfl, failed⟩
  · rintro (failed | ⟨between, middle, run, failed⟩)
    · exact bind_of_error failed next
    · rw [bind_of_ok run, failed]

theorem tryCatch_of_ok {action : ExceptT ε (StateM σ) α} {result : α}
    (done : action state = (.ok result, after)) (instead : ε → ExceptT ε (StateM σ) α) :
    (tryCatch action instead) state = (.ok result, after) := by
  show (match (action state).1 with
    | .ok result => (pure (.ok result) : StateM σ (Except ε α))
    | .error failure => instead failure) (action state).2 = _
  rw [done]
  rfl

theorem tryCatch_of_error {action : ExceptT ε (StateM σ) α} {failure : ε}
    (failed : action state = (.error failure, after)) (instead : ε → ExceptT ε (StateM σ) α) :
    (tryCatch action instead) state = instead failure after := by
  show (match (action state).1 with
    | .ok result => (pure (.ok result) : StateM σ (Except ε α))
    | .error failure => instead failure) (action state).2 = _
  rw [failed]

/-- An action whose failures are told in other words succeeds as it does itself. -/
theorem ok_of_mapFailure {δ : Type} {change : ε → δ} {action : HostAction σ ε α} {host last : Host σ}
    {result : α} (done : HostAction.mapFailure change action host = (.ok result, last)) :
    action host = (.ok result, last) := by
  rcases ran : action host with ⟨halt | between, middle⟩
  · simp only [HostAction.mapFailure, ran, mapError_error] at done
    cases done
  · simp only [HostAction.mapFailure, ran, mapError_ok] at done
    cases done
    rfl

/-! ### A step for each member of a list -/

/-- The steps for a list succeed exactly if the first does and the others do after it. -/
theorem forM_cons_ok_iff {step : α → ExceptT ε (StateM σ) PUnit} {member : α} {members : List α} :
    (member :: members).forM step state = (.ok ⟨⟩, after) ↔
      ∃ middle, step member state = (.ok ⟨⟩, middle) ∧
        members.forM step middle = (.ok ⟨⟩, after) := by
  show (step member >>= fun _ => members.forM step) state = _ ↔ _
  rw [bind_ok_iff]
  constructor
  · rintro ⟨_, middle, first, others⟩
    exact ⟨middle, first, others⟩
  · rintro ⟨middle, first, others⟩
    exact ⟨⟨⟩, middle, first, others⟩

/-- The steps for a list fail where the first one that fails does. -/
theorem forM_error_iff {step : α → ExceptT ε (StateM σ) PUnit} {members : List α} {failure : ε} :
    members.forM step state = (.error failure, after) ↔
      ∃ front member back middle, members = front ++ member :: back ∧
        front.forM step state = (.ok ⟨⟩, middle) ∧ step member middle = (.error failure, after) := by
  induction members generalizing state with
  | nil =>
    constructor
    · intro failed
      cases failed
    · rintro ⟨front, member, back, _, equal, _⟩
      simp at equal
  | cons first others ih =>
    constructor
    · intro failed
      change (step first >>= fun _ => others.forM step) state = _ at failed
      obtain failed | ⟨_, middle, done, failed⟩ := bind_error_iff.mp failed
      · exact ⟨[], first, others, state, rfl, rfl, failed⟩
      · obtain ⟨front, member, back, late, equal, before, failed⟩ := ih.mp failed
        refine ⟨first :: front, member, back, late, by rw [equal]; rfl, ?_, failed⟩
        exact forM_cons_ok_iff.mpr ⟨middle, done, before⟩
    · rintro ⟨front, member, back, late, equal, before, failed⟩
      show (step first >>= fun _ => others.forM step) state = _
      rw [bind_error_iff]
      cases front with
      | nil =>
        cases equal
        cases before
        exact .inl failed
      | cons head rest =>
        cases equal
        obtain ⟨middle, done, before⟩ := forM_cons_ok_iff.mp before
        exact .inr ⟨⟨⟩, middle, done, ih.mpr ⟨rest, member, back, late, rfl, before, failed⟩⟩

end HostNet.Action
