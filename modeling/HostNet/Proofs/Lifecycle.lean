/-
**The first announcement on a channel counts, for all that reach it and for ever.**

Handles and waiters are used in any order, through any number of channels. What a channel answers
depends on nothing but the announcements made so far through the handles that reach it
(`announced`), and of these on the first one only.

* `Waiter.Unaware` — **no waiter misses an announcement.** A waiter that is to hear of an action
  has not seen the version of the channel at which it was announced, so that looking again finds
  it (`Waiter.look_of_unaware`). Every use of a handle or a waiter keeps this (`step_sound`), and
  so do all uses from the start on (`after_sound`);
* `after_actionOf` — the action of a channel is the first one announced;
* `after_watches` — a waiter watches its channel until it has heard or another takes its name;
* `Alike` — **channels are apart**: a use of another channel leaves all that one channel answers
  later as it was without that use;
* `first_announcement_counts` — all of this about the answers, from the start on.
-/

import HostNet.Lifecycle

namespace HostNet

/-! ### Looking at a channel -/

namespace Waiter

/-- A waiter has seen no version of a channel at which there was an action. -/
def Unaware (waiter : Waiter) (channel : Channel) : Prop :=
  ∀ version, waiter.seen = some version →
    version ≤ channel.version ∧ (version = channel.version → channel.action = none)

/-- A waiter that is unaware finds the action, if there is one. -/
theorem look_of_unaware {waiter : Waiter} {channel : Channel} (unaware : waiter.Unaware channel) :
    (waiter.look channel).1 = channel.action := by
  unfold look
  split
  · rename_i seen
    exact ((unaware _ seen).2 rfl).symm
  · rfl

/-- A waiter that has found nothing is still unaware. -/
theorem look_unaware {waiter : Waiter} {channel : Channel} (unaware : waiter.Unaware channel)
    (silent : channel.action = none) : (waiter.look channel).2.Unaware channel := by
  unfold look
  split
  · exact unaware
  · intro version seen
    cases seen
    exact ⟨Nat.le_refl _, fun _ => silent⟩

@[simp] theorem look_channel (waiter : Waiter) (channel : Channel) :
    (waiter.look channel).2.channel = waiter.channel := by
  unfold look
  split <;> rfl

/-- An announcement leaves waiters unaware: it makes a version that none of them has seen. -/
theorem Unaware.announce {waiter : Waiter} {channel : Channel} (unaware : waiter.Unaware channel)
    (action : ControlAction) : waiter.Unaware (channel.announce action).2 := by
  unfold Channel.announce
  split
  · intro version seen
    have bound := (unaware version seen).1
    exact ⟨Nat.le_succ_of_le bound, fun equal => absurd equal (by simp only; omega)⟩
  · exact unaware

end Waiter

/-- After an announcement the action is the one there was, or else the one announced. -/
theorem Channel.announce_action (channel : Channel) (action : ControlAction) :
    (channel.announce action).2.action = channel.action.or (some action) := by
  unfold Channel.announce
  cases held : channel.action with
  | none => rfl
  | some earlier => simp [held]

/-- An announcement is the first one if there is no action yet. -/
theorem Channel.announce_first (channel : Channel) (action : ControlAction) :
    (channel.announce action).1 = channel.action.isNone := by
  unfold Channel.announce
  cases channel.action <;> rfl

/-- The handle that a use goes through. -/
def LifecycleStep.handle? : LifecycleStep → Option Nat
  | .trigger handle _ | .fired handle | .copy handle | .start _ handle | .wait _ handle =>
    some handle
  | .create | .poll _ => none

/-- A use makes a handle. -/
def LifecycleStep.makesHandle : LifecycleStep → Bool
  | .copy _ | .create => true
  | _ => false

/-- The name that a use gives to a waiter. -/
def LifecycleStep.started? : LifecycleStep → Option Nat
  | .start name _ | .wait name _ => some name
  | _ => none

namespace Lifecycle

variable {state : Lifecycle} {handle channel name : Nat}

/-! ### Which handles reach a channel and which waiters watch it -/

/-- The state that steps lead to. -/
def after (state : Lifecycle) : List LifecycleStep → Lifecycle
  | [] => state
  | first :: steps => (state.step first).2.after steps

theorem after_append (state : Lifecycle) (front back : List LifecycleStep) :
    state.after (front ++ back) = (state.after front).after back := by
  induction front generalizing state with
  | nil => rfl
  | cons first front ih => exact ih (state.step first).2

/-- A handle reaches a channel. -/
def Reaches (state : Lifecycle) (handle channel : Nat) : Prop :=
  state.handles[handle]? = some channel

instance : Decidable (state.Reaches handle channel) :=
  inferInstanceAs (Decidable (_ = _))

/-- A waiter that has not ended watches a channel. -/
def Watches (state : Lifecycle) (name channel : Nat) : Prop :=
  ∃ waiter, state.waiters.lookup name = some waiter ∧ waiter.channel = channel

theorem lookup_dropWaiter (state : Lifecycle) (name other : Nat) :
    (state.dropWaiter name).waiters.lookup other =
      if other = name then none else state.waiters.lookup other := by
  unfold dropWaiter
  induction state.waiters with
  | nil => simp
  | cons first waiters ih =>
    obtain ⟨key, waiter⟩ := first
    by_cases dropped : key = name
    · subst dropped
      rw [List.filter_cons_of_neg (by simp)]
      rw [ih]
      by_cases asked : other = key <;> simp [asked, List.lookup_cons, beq_eq_false_iff_ne.mpr]
    · rw [List.filter_cons_of_pos (by simpa using dropped)]
      by_cases asked : other = key
      · subst asked
        simp [dropped]
      · simp only [List.lookup_cons, beq_eq_false_iff_ne.mpr asked, ih]

theorem lookup_setWaiter (state : Lifecycle) (name : Nat) (waiter : Waiter) (other : Nat) :
    (state.setWaiter name waiter).waiters.lookup other =
      if other = name then some waiter else state.waiters.lookup other := by
  unfold setWaiter
  by_cases asked : other = name
  · simp [asked]
  · simp [List.lookup_cons, beq_eq_false_iff_ne.mpr asked, lookup_dropWaiter, asked]

@[simp] theorem setWaiter_channels (state : Lifecycle) (name : Nat) (waiter : Waiter) :
    (state.setWaiter name waiter).channels = state.channels := rfl

@[simp] theorem setWaiter_handles (state : Lifecycle) (name : Nat) (waiter : Waiter) :
    (state.setWaiter name waiter).handles = state.handles := rfl

/-- Asking a waiter changes no channel and no handle. -/
theorem poll_frame (state : Lifecycle) (name : Nat) :
    (state.poll name).2.channels = state.channels ∧ (state.poll name).2.handles = state.handles := by
  unfold poll
  split
  · exact ⟨rfl, rfl⟩
  · split
    · exact ⟨rfl, rfl⟩
    · split <;> exact ⟨rfl, rfl⟩

/-- Announcing changes no handle and no waiter. -/
theorem trigger_frame (state : Lifecycle) (channel : Nat) (action : ControlAction) :
    (state.trigger channel action).2.handles = state.handles ∧
      (state.trigger channel action).2.waiters = state.waiters := by
  unfold trigger
  split <;> exact ⟨rfl, rfl⟩

/-- An announcement on a channel changes that channel. -/
theorem trigger_channels (state : Lifecycle) (channel : Nat) (action : ControlAction)
    (other : Nat) :
    (state.trigger channel action).2.channels[other]? =
      if other = channel then state.channels[other]?.map fun known => (known.announce action).2
      else state.channels[other]? := by
  unfold trigger
  cases known : state.channels[channel]? with
  | none => by_cases same : other = channel <;> simp [same, known]
  | some held =>
    obtain ⟨exist, -⟩ := List.getElem?_eq_some_iff.mp known
    by_cases same : other = channel
    · subst same
      rw [if_pos rfl, known, List.getElem?_set_self exist, Option.map_some]
    · simp [same, List.getElem?_set_ne (Ne.symm same)]

theorem trigger_length (state : Lifecycle) (channel : Nat) (action : ControlAction) :
    (state.trigger channel action).2.channels.length = state.channels.length := by
  unfold trigger
  split <;> simp

/-! ### What a use does -/

/-- What comes of a use in a state. -/
inductive Outcome (state : Lifecycle) : LifecycleStep → LifecycleAnswer × Lifecycle → Prop
  | unknown {use : LifecycleStep} {handle : Nat} (through : use.handle? = some handle)
      (missing : state.handles[handle]? = none) : Outcome state use (.gone, state)
  | trigger {handle channel : Nat} (action : ControlAction)
      (reaches : state.Reaches handle channel) :
      Outcome state (.trigger handle action)
        (.triggered (state.trigger channel action).1, (state.trigger channel action).2)
  | fired {handle channel : Nat} (reaches : state.Reaches handle channel) :
      Outcome state (.fired handle) (.fired (state.actionOf channel), state)
  | copy {handle channel : Nat} (reaches : state.Reaches handle channel) :
      Outcome state (.copy handle)
        (.handle state.handles.length, { state with handles := state.handles ++ [channel] })
  | create :
      Outcome state .create
        (.handle state.handles.length,
          { state with
            channels := state.channels ++ [{}]
            handles := state.handles ++ [state.channels.length] })
  | start {handle channel : Nat} (name : Nat) (reaches : state.Reaches handle channel) :
      Outcome state (.start name handle) (.pending, state.start name channel)
  | wait {handle channel : Nat} (name : Nat) (reaches : state.Reaches handle channel) :
      Outcome state (.wait name handle) ((state.start name channel).poll name)
  | poll (name : Nat) : Outcome state (.poll name) (state.poll name)

/-- A use through a handle has an outcome if it has one on every channel that the handle may
reach. -/
theorem Outcome.through {use : LifecycleStep} {act : Nat → LifecycleAnswer × Lifecycle}
    (goes : use.handle? = some handle)
    (reached : ∀ channel, state.Reaches handle channel → state.Outcome use (act channel)) :
    state.Outcome use (state.through handle act) := by
  unfold Lifecycle.through
  cases known : state.handles[handle]? with
  | none => exact .unknown goes known
  | some channel => exact reached channel known

theorem step_outcome (state : Lifecycle) (use : LifecycleStep) :
    state.Outcome use (state.step use) := by
  cases use with
  | trigger handle action => exact .through rfl fun _ reaches => .trigger action reaches
  | fired handle => exact .through rfl fun _ reaches => .fired reaches
  | copy handle => exact .through rfl fun _ reaches => .copy reaches
  | create => exact .create
  | start name handle => exact .through rfl fun _ reaches => .start name reaches
  | wait name handle => exact .through rfl fun _ reaches => .wait name reaches
  | poll name => exact .poll name

/-- No handle is lost, and no handle comes to reach another channel. -/
theorem step_handles (state : Lifecycle) (use : LifecycleStep) :
    ∃ made, (state.step use).2.handles = state.handles ++ made := by
  have outcome := step_outcome state use
  generalize state.step use = result at outcome
  cases outcome with
  | unknown | fired | start => exact ⟨[], (List.append_nil _).symm⟩
  | trigger action => exact ⟨[], by simp [(trigger_frame _ _ action).1]⟩
  | copy | create => exact ⟨[_], rfl⟩
  | wait name => exact ⟨[], by simp [(poll_frame _ name).2, start]⟩
  | poll name => exact ⟨[], by simp [(poll_frame _ name).2]⟩

theorem step_reaches (use : LifecycleStep) (reaches : state.Reaches handle channel) :
    (state.step use).2.Reaches handle channel := by
  obtain ⟨made, handles⟩ := step_handles state use
  have inside := (List.getElem?_eq_some_iff.mp reaches).1
  show (state.step use).2.handles[handle]? = some channel
  rw [handles, List.getElem?_append_left inside]
  exact reaches

/-- A handle that reaches a channel reaches it for ever. -/
theorem after_reaches (steps : List LifecycleStep) (reaches : state.Reaches handle channel) :
    (state.after steps).Reaches handle channel := by
  induction steps generalizing state with
  | nil => exact reaches
  | cons first steps ih => exact ih (step_reaches first reaches)

/-! ### The first announcement -/

/-- The action that a use announces on a channel. -/
def announces (state : Lifecycle) (channel : Nat) : LifecycleStep → Option ControlAction
  | .trigger handle action => if state.Reaches handle channel then some action else none
  | _ => none

/-- The actions announced on a channel by steps, in their order. -/
def announced (state : Lifecycle) (channel : Nat) : List LifecycleStep → List ControlAction
  | [] => []
  | first :: steps =>
    (state.announces channel first).toList ++ (state.step first).2.announced channel steps

theorem announced_append (state : Lifecycle) (channel : Nat) (front back : List LifecycleStep) :
    state.announced channel (front ++ back) =
      state.announced channel front ++ (state.after front).announced channel back := by
  induction front generalizing state with
  | nil => rfl
  | cons first front ih =>
    simp only [List.cons_append, announced, after, ih, List.append_assoc]

/-- Handles and waiters have channels, and each waiter is unaware of what it has not heard. -/
structure Sound (state : Lifecycle) : Prop where
  reached : ∀ channel ∈ state.handles, channel < state.channels.length
  watched : ∀ name waiter, state.waiters.lookup name = some waiter →
    ∃ known, state.channels[waiter.channel]? = some known ∧ waiter.Unaware known

theorem sound_initial : Sound {} where
  reached := by
    intro channel reached
    rw [List.mem_singleton.mp reached]
    exact Nat.one_pos
  watched := by
    intro name waiter known
    cases known

theorem Sound.exist (sound : state.Sound) (reaches : state.Reaches handle channel) :
    channel < state.channels.length :=
  sound.reached channel (List.mem_of_getElem? reaches)

/-- After a use the action of a channel is the one there was, or else the one announced. -/
theorem step_actionOf (sound : state.Sound) (use : LifecycleStep) (channel : Nat) :
    (state.step use).2.actionOf channel =
      (state.actionOf channel).or (state.announces channel use) := by
  have outcome := step_outcome state use
  generalize state.step use = result at outcome
  cases outcome with
  | unknown through missing =>
    cases use <;> cases through <;> simp [announces, Reaches, missing]
  | @trigger handle reached action reaches =>
    simp only [announces, Reaches, actionOf, trigger_channels]
    by_cases same : channel = reached
    · subst same
      have inside := sound.exist reaches
      have reaches : state.handles[handle]? = some channel := reaches
      simp [reaches, inside, Channel.announce_action]
    · have other : state.handles[handle]? ≠ some channel := by
        rw [show state.handles[handle]? = some reached from reaches]
        exact fun equal => same (Option.some.inj equal).symm
      simp [same, other]
  | fired | copy | start => simp [announces, actionOf, start]
  | create =>
    simp only [announces, actionOf, Option.or_none]
    by_cases inside : channel < state.channels.length
    · rw [List.getElem?_append_left inside]
    · have beyond : state.channels[channel]? = none := List.getElem?_eq_none (by omega)
      rw [List.getElem?_append_right (by omega), beyond]
      cases channel - state.channels.length <;> rfl
  | wait name => simp [announces, actionOf, (poll_frame _ name).1, start]
  | poll name => simp [announces, actionOf, (poll_frame _ name).1]

/-! ### Waiters -/

theorem Sound.dropWaiter (sound : state.Sound) (name : Nat) : (state.dropWaiter name).Sound where
  reached := sound.reached
  watched := by
    intro other waiter known
    rw [lookup_dropWaiter] at known
    split at known
    · cases known
    · exact sound.watched other waiter known

theorem Sound.setWaiter (sound : state.Sound) (name : Nat) {waiter : Waiter} {channel : Channel}
    (exist : state.channels[waiter.channel]? = some channel) (unaware : waiter.Unaware channel) :
    (state.setWaiter name waiter).Sound where
  reached := sound.reached
  watched := by
    intro other watcher known
    rw [lookup_setWaiter] at known
    split at known
    · cases known
      exact ⟨channel, exist, unaware⟩
    · exact sound.watched other watcher known

theorem Sound.start (sound : state.Sound) (name : Nat) (reaches : state.Reaches handle channel) :
    (state.start name channel).Sound := by
  refine sound.setWaiter name (List.getElem?_eq_getElem (sound.exist reaches)) ?_
  intro version seen
  cases seen

/-- What is told to a waiter that asks for the action of a channel. -/
def told : Option ControlAction → LifecycleAnswer
  | some action => .heard action
  | none => .pending

/-- What comes of asking a waiter. -/
inductive Reply (state : Lifecycle) (name : Nat) : LifecycleAnswer × Lifecycle → Prop
  | gone (missing : state.waiters.lookup name = none) : Reply state name (.gone, state)
  | heard {waiter : Waiter} {action : ControlAction}
      (known : state.waiters.lookup name = some waiter)
      (acted : state.actionOf waiter.channel = some action) :
      Reply state name (.heard action, state.dropWaiter name)
  | pending {waiter looked : Waiter} {channel : Channel}
      (known : state.waiters.lookup name = some waiter)
      (silent : state.actionOf waiter.channel = none)
      (exist : state.channels[looked.channel]? = some channel)
      (same : looked.channel = waiter.channel) (unaware : looked.Unaware channel) :
      Reply state name (.pending, state.setWaiter name looked)

/-- **A waiter that is asked hears of the action of its channel, if there is one.** -/
theorem poll_reply (sound : state.Sound) (name : Nat) : state.Reply name (state.poll name) := by
  unfold poll
  cases known : state.waiters.lookup name with
  | none => exact .gone known
  | some waiter =>
    obtain ⟨channel, exist, unaware⟩ := sound.watched name waiter known
    have acted : state.actionOf waiter.channel = channel.action := by simp [actionOf, exist]
    have found := Waiter.look_of_unaware unaware
    have same := Waiter.look_channel waiter channel
    have still := Waiter.look_unaware unaware
    rcases looked : waiter.look channel with ⟨action | action, after⟩
    · rw [looked] at found same still
      have silent : channel.action = none := found.symm
      simp only [exist, looked]
      exact .pending known (acted.trans silent) (by rw [same, exist]) same (still silent)
    · rw [looked] at found
      simp only [exist, looked]
      exact .heard known (acted.trans found.symm)

theorem Sound.poll (sound : state.Sound) (name : Nat) : (state.poll name).2.Sound := by
  have reply := poll_reply sound name
  generalize state.poll name = result at reply
  cases reply with
  | gone => exact sound
  | heard => exact sound.dropWaiter name
  | pending known silent exist same unaware => exact sound.setWaiter name exist unaware

theorem Sound.trigger (sound : state.Sound) (channel : Nat) (action : ControlAction) :
    (state.trigger channel action).2.Sound where
  reached := by
    rw [trigger_length, (trigger_frame state channel action).1]
    exact sound.reached
  watched := by
    intro name waiter known
    rw [(trigger_frame state channel action).2] at known
    obtain ⟨held, exist, unaware⟩ := sound.watched name waiter known
    rw [trigger_channels]
    split
    · exact ⟨_, by rw [exist, Option.map_some], unaware.announce action⟩
    · exact ⟨held, exist, unaware⟩

/-- Every use keeps waiters unaware of what they have not heard. -/
theorem step_sound (sound : state.Sound) (use : LifecycleStep) : (state.step use).2.Sound := by
  have outcome := step_outcome state use
  generalize state.step use = result at outcome
  cases outcome with
  | unknown | fired => exact sound
  | @trigger _ channel action => exact sound.trigger channel action
  | @copy handle channel reaches =>
    refine ⟨fun other made => ?_, sound.watched⟩
    obtain old | new := List.mem_append.mp made
    · exact sound.reached other old
    · rw [List.mem_singleton.mp new]
      exact sound.exist reaches
  | create =>
    constructor
    · intro other made
      rw [List.length_append, List.length_singleton]
      obtain old | new := List.mem_append.mp made
      · exact Nat.lt_succ_of_lt (sound.reached other old)
      · rw [List.mem_singleton.mp new]
        exact Nat.lt_succ_self _
    · intro name waiter known
      obtain ⟨held, exist, unaware⟩ := sound.watched name waiter known
      obtain ⟨inside, -⟩ := List.getElem?_eq_some_iff.mp exist
      exact ⟨held, by rw [List.getElem?_append_left inside, exist], unaware⟩
  | start name reaches => exact sound.start name reaches
  | wait name reaches => exact (sound.start name reaches).poll name
  | poll name => exact sound.poll name

theorem after_sound (sound : state.Sound) (steps : List LifecycleStep) :
    (state.after steps).Sound := by
  induction steps generalizing state with
  | nil => exact sound
  | cons first steps ih => exact ih (step_sound sound first)

/-- **The action of a channel is the first one announced on it.** -/
theorem after_actionOf (sound : state.Sound) (channel : Nat) (steps : List LifecycleStep) :
    (state.after steps).actionOf channel =
      (state.actionOf channel).or (state.announced channel steps).head? := by
  induction steps generalizing state with
  | nil => simp [after, announced]
  | cons first steps ih =>
    rw [after, ih (step_sound sound first), step_actionOf sound, announced]
    cases state.announces channel first <;> simp

theorem actionOf_initial (channel : Nat) : actionOf {} channel = none := by
  cases channel <;> rfl

theorem start_watches (state : Lifecycle) (name channel : Nat) :
    (state.start name channel).Watches name channel :=
  ⟨{ channel }, by simp [start, lookup_setWaiter], rfl⟩

/-- A waiter of another name goes on watching when one is started. -/
theorem start_watches_iff (state : Lifecycle) {name other : Nat} (distinct : name ≠ other)
    (started : Nat) :
    (state.start other started).Watches name channel ↔ state.Watches name channel := by
  simp [Watches, start, lookup_setWaiter, distinct]

/-- Asking one waiter leaves the others as they are. -/
theorem poll_watches_iff (sound : state.Sound) {name other : Nat} (distinct : name ≠ other) :
    (state.poll other).2.Watches name channel ↔ state.Watches name channel := by
  have reply := poll_reply sound other
  generalize state.poll other = result at reply
  cases reply with
  | gone => exact Iff.rfl
  | heard => simp [Watches, lookup_dropWaiter, distinct]
  | pending => simp [Watches, lookup_setWaiter, distinct]

/-- A waiter that is asked goes on watching if there is no action yet. -/
theorem poll_watches (sound : state.Sound) (watches : state.Watches name channel) :
    (state.poll name).1 = told (state.actionOf channel) ∧
      ((state.poll name).2.Watches name channel ↔ state.actionOf channel = none) := by
  obtain ⟨waiter, known, rfl⟩ := watches
  have reply := poll_reply sound name
  generalize state.poll name = result at reply
  cases reply with
  | gone missing => simp [known] at missing
  | heard found acted =>
    obtain rfl := Option.some.inj (known.symm.trans found)
    simp [Watches, lookup_dropWaiter, acted, told]
  | pending found silent exist same =>
    obtain rfl := Option.some.inj (known.symm.trans found)
    simp [Watches, lookup_setWaiter, silent, told, same]

/-- A waiter goes on watching, unless another takes its name or it hears of an action. -/
theorem step_watches (sound : state.Sound) {use : LifecycleStep}
    (watches : state.Watches name channel) (kept : use.started? ≠ some name)
    (unheard : use = .poll name → state.actionOf channel = none) :
    (state.step use).2.Watches name channel := by
  have outcome := step_outcome state use
  generalize state.step use = result at outcome
  cases outcome with
  | unknown | fired | copy | create => exact watches
  | trigger action => rwa [Watches, (trigger_frame _ _ action).2]
  | start other =>
    have distinct : name ≠ other := fun same => kept (by rw [same, LifecycleStep.started?])
    exact (start_watches_iff state distinct _).mpr watches
  | wait other reaches =>
    have distinct : name ≠ other := fun same => kept (by rw [same, LifecycleStep.started?])
    rw [poll_watches_iff (sound.start other reaches) distinct]
    exact (start_watches_iff state distinct _).mpr watches
  | poll other =>
    by_cases same : name = other
    · subst same
      exact (poll_watches sound watches).2.mpr (unheard rfl)
    · exact (poll_watches_iff sound same).mpr watches

/-- **A waiter that is started watches its channel until it has heard**, unless another takes its
name. -/
theorem after_watches (sound : state.Sound) {steps : List LifecycleStep}
    (watches : state.Watches name channel) (kept : ∀ use ∈ steps, use.started? ≠ some name)
    (unheard : ∀ early late, steps = early ++ .poll name :: late →
      (state.after early).actionOf channel = none) :
    (state.after steps).Watches name channel := by
  induction steps generalizing state with
  | nil => exact watches
  | cons first steps ih =>
    refine ih (step_sound sound first) ?_ (fun use inside => kept use (.tail _ inside)) ?_
    · refine step_watches sound watches (kept first (.head _)) ?_
      rintro rfl
      exact unheard [] steps rfl
    · rintro early late rfl
      exact unheard (first :: early) late rfl

/-! ### Channels apart from each other -/

/-- Two states in which a channel is the same, and so is what reaches it and what watches it. -/
structure Alike (channel : Nat) (state other : Lifecycle) : Prop where
  handles : state.handles = other.handles
  length : state.channels.length = other.channels.length
  content : state.channels[channel]? = other.channels[channel]?
  watched : ∀ name waiter, waiter.channel = channel →
    (state.waiters.lookup name = some waiter ↔ other.waiters.lookup name = some waiter)

namespace Alike

variable {other third : Lifecycle}

theorem refl (state : Lifecycle) : Alike channel state state :=
  ⟨rfl, rfl, rfl, fun _ _ _ => Iff.rfl⟩

theorem symm (alike : Alike channel state other) : Alike channel other state :=
  ⟨alike.handles.symm, alike.length.symm, alike.content.symm,
    fun name waiter on => (alike.watched name waiter on).symm⟩

theorem trans (first : Alike channel state other) (second : Alike channel other third) :
    Alike channel state third :=
  ⟨first.handles.trans second.handles, first.length.trans second.length,
    first.content.trans second.content,
    fun name waiter on => (first.watched name waiter on).trans (second.watched name waiter on)⟩

theorem watches_iff (alike : Alike channel state other) :
    state.Watches name channel ↔ other.Watches name channel :=
  exists_congr fun waiter => and_congr_left fun on => alike.watched name waiter on

/-- The same announcement in both states. -/
theorem trigger (alike : Alike channel state other) (named : Nat) (action : ControlAction) :
    Alike channel (state.trigger named action).2 (other.trigger named action).2 where
  handles := by rw [(trigger_frame _ _ _).1, (trigger_frame _ _ _).1, alike.handles]
  length := by rw [trigger_length, trigger_length, alike.length]
  content := by rw [trigger_channels, trigger_channels, alike.content]
  watched := by
    rw [(trigger_frame _ _ _).2, (trigger_frame _ _ _).2]
    exact alike.watched

/-- An announcement on another channel. -/
theorem trigger_aside {named : Nat} (distinct : named ≠ channel) (action : ControlAction) :
    Alike channel state (state.trigger named action).2 where
  handles := by rw [(trigger_frame _ _ _).1]
  length := by rw [trigger_length]
  content := by rw [trigger_channels, if_neg distinct.symm]
  watched := by
    rw [(trigger_frame _ _ _).2]
    exact fun _ _ _ => Iff.rfl

theorem dropWaiter (alike : Alike channel state other) (name : Nat) :
    Alike channel (state.dropWaiter name) (other.dropWaiter name) := by
  refine ⟨alike.handles, alike.length, alike.content, fun asked waiter on => ?_⟩
  rw [lookup_dropWaiter, lookup_dropWaiter]
  split
  · exact Iff.rfl
  · exact alike.watched asked waiter on

theorem setWaiter (alike : Alike channel state other) (name : Nat) (waiter : Waiter) :
    Alike channel (state.setWaiter name waiter) (other.setWaiter name waiter) := by
  refine ⟨alike.handles, alike.length, alike.content, fun asked watcher on => ?_⟩
  rw [lookup_setWaiter, lookup_setWaiter]
  split
  · exact Iff.rfl
  · exact alike.watched asked watcher on

/-- A waiter that does not watch the channel ends. -/
theorem dropWaiter_aside (aside : ¬ state.Watches name channel) :
    Alike channel state (state.dropWaiter name) := by
  refine ⟨rfl, rfl, rfl, fun asked waiter on => ?_⟩
  rw [lookup_dropWaiter]
  split
  · rename_i same
    subst same
    exact iff_of_false (fun known => aside ⟨waiter, known, on⟩) (by simp)
  · exact Iff.rfl

/-- A waiter on another channel takes the place of one that does not watch the channel either. -/
theorem setWaiter_aside (aside : ¬ state.Watches name channel) {waiter : Waiter}
    (distinct : waiter.channel ≠ channel) : Alike channel state (state.setWaiter name waiter) := by
  refine ⟨rfl, rfl, rfl, fun asked watcher on => ?_⟩
  rw [lookup_setWaiter]
  split
  · rename_i same
    subst same
    refine iff_of_false (fun known => aside ⟨watcher, known, on⟩) ?_
    rintro ⟨rfl⟩
    exact distinct on
  · exact Iff.rfl

/-- A waiter that does not watch the channel is asked. -/
theorem poll_aside (sound : state.Sound) (aside : ¬ state.Watches name channel) :
    Alike channel state (state.poll name).2 := by
  have reply := poll_reply sound name
  generalize state.poll name = result at reply
  cases reply with
  | gone => exact refl state
  | heard => exact dropWaiter_aside aside
  | @pending waiter looked _ known _ _ same =>
    refine setWaiter_aside aside ?_
    rw [same]
    exact fun on => aside ⟨waiter, known, on⟩

/-- The same waiter is asked in both states. -/
theorem poll (alike : Alike channel state other) (sound : state.Sound) (others : other.Sound)
    (name : Nat) : Alike channel (state.poll name).2 (other.poll name).2 := by
  by_cases watches : state.Watches name channel
  · obtain ⟨waiter, known, rfl⟩ := watches
    have also := (alike.watched name waiter rfl).mp known
    simp only [Lifecycle.poll, known, also, alike.content]
    split
    · exact alike
    · split
      · exact alike.dropWaiter name
      · exact alike.setWaiter name _
  · have aside : ¬ other.Watches name channel := fun also => watches (alike.watches_iff.mpr also)
    exact (poll_aside sound watches).symm.trans (alike.trans (poll_aside others aside))

theorem start (alike : Alike channel state other) (name started : Nat) :
    Alike channel (state.start name started) (other.start name started) :=
  alike.setWaiter name { channel := started }

theorem reaches_iff (alike : Alike channel state other) {reached : Nat} :
    state.Reaches handle reached ↔ other.Reaches handle reached := by
  rw [Reaches, Reaches, alike.handles]

/-- The same handle is used in both states. -/
theorem through (alike : Alike channel state other)
    {act change : Nat → LifecycleAnswer × Lifecycle}
    (each : ∀ reached, state.Reaches handle reached →
      Alike channel (act reached).2 (change reached).2) :
    Alike channel (state.through handle act).2 (other.through handle change).2 := by
  simp only [Lifecycle.through, ← alike.handles]
  cases known : state.handles[handle]? with
  | none => exact alike
  | some reached => exact each reached known

/-- The same use in both states. -/
theorem step (alike : Alike channel state other) (sound : state.Sound) (others : other.Sound)
    (use : LifecycleStep) : Alike channel (state.step use).2 (other.step use).2 := by
  cases use with
  | trigger handle action => exact alike.through fun reached _ => alike.trigger reached action
  | fired handle => exact alike.through fun _ _ => alike
  | copy handle =>
    refine alike.through fun reached _ => ⟨?_, alike.length, alike.content, alike.watched⟩
    rw [alike.handles]
  | create =>
    refine ⟨?_, ?_, ?_, alike.watched⟩
    · simp only [Lifecycle.step, alike.handles, alike.length]
    · simp only [Lifecycle.step, List.length_append, alike.length]
    · simp only [Lifecycle.step, List.getElem?_append, alike.length, alike.content]
  | start name handle => exact alike.through fun reached _ => alike.start name reached
  | wait name handle =>
    exact alike.through fun reached reaches => (alike.start name reached).poll
      (sound.start name reaches) (others.start name (alike.reaches_iff.mp reaches)) name
  | poll name => exact alike.poll sound others name

theorem after (alike : Alike channel state other) (sound : state.Sound) (others : other.Sound)
    (steps : List LifecycleStep) : Alike channel (state.after steps) (other.after steps) := by
  induction steps generalizing state other with
  | nil => exact alike
  | cons first steps ih =>
    exact ih (alike.step sound others first) (step_sound sound first) (step_sound others first)

end Alike

/-- A use goes through a handle to a channel, or asks a waiter on it. -/
def Concerns (state : Lifecycle) (channel : Nat) (use : LifecycleStep) : Prop :=
  (∃ handle, use.handle? = some handle ∧ state.Reaches handle channel) ∨
    ∃ name, use = .poll name ∧ state.Watches name channel

/-- A use that makes no handle has nothing to do with a channel, nor with a waiter on it. -/
structure Aside (state : Lifecycle) (channel : Nat) (use : LifecycleStep) : Prop where
  elsewhere : ¬ state.Concerns channel use
  unnamed : ∀ name, use.started? = some name → ¬ state.Watches name channel
  makes : use.makesHandle = false

/-- A use that has nothing to do with a channel leaves the channel as it is. -/
theorem step_aside {use : LifecycleStep} (sound : state.Sound)
    (aside : state.Aside channel use) : Alike channel state (state.step use).2 := by
  have outcome := step_outcome state use
  have elsewhere := aside.elsewhere
  have unnamed := aside.unnamed
  have makes := aside.makes
  generalize state.step use = result at outcome
  have distinct : ∀ {handle reached}, use.handle? = some handle → state.Reaches handle reached →
      reached ≠ channel := by
    rintro handle reached goes reaches rfl
    exact elsewhere (.inl ⟨handle, goes, reaches⟩)
  cases outcome with
  | unknown | fired => exact .refl state
  | trigger action reaches => exact .trigger_aside (distinct rfl reaches) action
  | copy | create => cases makes
  | start name reaches => exact .setWaiter_aside (unnamed name rfl) (distinct rfl reaches)
  | @wait handle reached name reaches =>
    have apart := distinct rfl reaches
    refine (Alike.setWaiter_aside (unnamed name rfl) apart).trans
      (.poll_aside (sound.start name reaches) ?_)
    rintro ⟨waiter, known, on⟩
    obtain rfl : { channel := reached } = waiter := by simpa [start, lookup_setWaiter] using known
    exact apart on
  | poll name => exact .poll_aside sound fun watches => elsewhere (.inr ⟨name, rfl, watches⟩)

/-- A channel answers a use as it does in a state in which it is the same. -/
theorem answer_alike {other : Lifecycle} (alike : Alike channel state other) {use : LifecycleStep}
    (concerns : state.Concerns channel use) : (state.step use).1 = (other.step use).1 := by
  obtain ⟨handle, goes, reaches⟩ | ⟨name, rfl, waiter, known, rfl⟩ := concerns
  · have also := alike.reaches_iff.mp reaches
    have reaches : state.handles[handle]? = some channel := reaches
    have also : other.handles[handle]? = some channel := also
    cases use <;> cases goes <;> simp only [step, through, reaches, also]
    · simp only [trigger, alike.content]
      split <;> rfl
    · simp only [actionOf, alike.content]
    · rw [alike.handles]
    · simp only [poll, start, lookup_setWaiter, if_pos, setWaiter_channels, alike.content]
      split
      · rfl
      · split <;> rfl
  · have also := (alike.watched name waiter rfl).mp known
    simp only [step, poll, known, also, alike.content]
    split
    · rfl
    · split <;> rfl

/-! ### From the start on -/

/-- The answers of a run are those of the single uses, each in the state that it meets. -/
theorem run_append_getElem (state : Lifecycle) (front : List LifecycleStep) (use : LifecycleStep)
    (back : List LifecycleStep) :
    (state.run (front ++ use :: back))[front.length]? = some ((state.after front).step use).1 := by
  induction front generalizing state with
  | nil => rfl
  | cons first front ih => exact ih (state.step first).2

/-- The use that follows some steps from the start is answered so, whatever comes later. -/
def Answers (steps : List LifecycleStep) (use : LifecycleStep) (answer : LifecycleAnswer) : Prop :=
  ∀ later, (run {} (steps ++ use :: later))[steps.length]? = some answer

theorem answers_iff {steps : List LifecycleStep} {use : LifecycleStep} {answer : LifecycleAnswer} :
    Answers steps use answer ↔ ((after {} steps).step use).1 = answer := by
  constructor
  · intro answers
    exact Option.some.inj ((run_append_getElem {} steps use []).symm.trans (answers []))
  · rintro rfl later
    exact run_append_getElem {} steps use later

theorem actionOf_announced (channel : Nat) (steps : List LifecycleStep) :
    (after {} steps).actionOf channel = (announced {} channel steps).head? := by
  rw [after_actionOf sound_initial, actionOf_initial, Option.none_or]

section Answers

variable {steps : List LifecycleStep}

theorem answers_triggered (reaches : (after {} steps).Reaches handle channel)
    (action : ControlAction) :
    Answers steps (.trigger handle action) (.triggered (announced {} channel steps).isEmpty) := by
  have exist := (after_sound sound_initial steps).exist reaches
  have reaches : (after {} steps).handles[handle]? = some channel := reaches
  have first := actionOf_announced channel steps
  simp only [actionOf, List.getElem?_eq_getElem exist, Option.bind_some] at first
  rw [answers_iff]
  simp only [step, through, reaches, trigger, List.getElem?_eq_getElem exist,
    Channel.announce_first, first]
  cases announced {} channel steps <;> rfl

theorem answers_fired (reaches : (after {} steps).Reaches handle channel) :
    Answers steps (.fired handle) (.fired (announced {} channel steps).head?) := by
  have reaches : (after {} steps).handles[handle]? = some channel := reaches
  rw [answers_iff, ← actionOf_announced]
  simp only [step, through, reaches]

theorem answers_poll (watches : (after {} steps).Watches name channel) :
    Answers steps (.poll name) (told (announced {} channel steps).head?) := by
  rw [answers_iff, ← actionOf_announced]
  exact (poll_watches (after_sound sound_initial steps) watches).1

theorem answers_wait (name : Nat) (reaches : (after {} steps).Reaches handle channel) :
    Answers steps (.wait name handle) (told (announced {} channel steps).head?) := by
  have sound := (after_sound sound_initial steps).start name reaches
  have reaches : (after {} steps).handles[handle]? = some channel := reaches
  rw [answers_iff, ← actionOf_announced]
  simp only [step, through, reaches]
  exact (poll_watches sound (start_watches _ name channel)).1

theorem answers_copy (reaches : (after {} steps).Reaches handle channel) :
    Answers steps (.copy handle) (.handle (after {} steps).handles.length) ∧
      (after {} (steps ++ [.copy handle])).Reaches (after {} steps).handles.length channel := by
  have reaches : (after {} steps).handles[handle]? = some channel := reaches
  rw [answers_iff, after_append]
  simp only [after, step, through, reaches, Reaches, List.getElem?_concat_length, and_self]

/-- A channel that does not exist yet has no announcements. -/
theorem announced_unmade (steps : List LifecycleStep)
    (unmade : (after {} steps).channels.length ≤ channel) : announced {} channel steps = [] := by
  rw [← List.head?_eq_none_iff, ← actionOf_announced, actionOf, List.getElem?_eq_none unmade,
    Option.bind_none]

/-- The handle that comes with a new channel is the only one that reaches it. -/
theorem create_reaches_iff (sound : state.Sound) :
    (state.step .create).2.Reaches handle state.channels.length ↔
      handle = state.handles.length := by
  show (state.handles ++ [state.channels.length])[handle]? = _ ↔ _
  constructor
  · intro reaches
    have inside := (List.getElem?_eq_some_iff.mp reaches).1
    rw [List.length_append, List.length_singleton] at inside
    obtain old | new := Nat.lt_succ_iff_lt_or_eq.mp inside
    · rw [List.getElem?_append_left old] at reaches
      exact absurd (sound.exist reaches) (Nat.lt_irrefl _)
    · exact new
  · rintro rfl
    exact List.getElem?_concat_length

/-- A waiter that was started and has not heard of an action is told of the first one. -/
theorem answers_started {early late : List LifecycleStep}
    (reaches : (after {} early).Reaches handle channel)
    (kept : ∀ use ∈ late, use.started? ≠ some name)
    (unheard : ∀ front back, late = front ++ .poll name :: back →
      announced {} channel (early ++ .start name handle :: front) = []) :
    Answers (early ++ .start name handle :: late) (.poll name)
      (told (announced {} channel (early ++ .start name handle :: late)).head?) := by
  have sound := after_sound sound_initial early
  have handles : (after {} early).handles[handle]? = some channel := reaches
  have started : ((after {} early).step (.start name handle)).2 =
      (after {} early).start name channel := by
    simp only [step, through, handles]
  refine answers_poll ?_
  rw [after_append, after, started]
  refine after_watches (sound.start name reaches) (start_watches _ name channel) kept ?_
  intro front back equal
  have silent := actionOf_announced channel (early ++ .start name handle :: front)
  rwa [unheard front back equal, after_append, after, started] at silent

end Answers

/-- **The first announcement counts.** What is answered after some steps from the start. -/
structure FirstCounts (steps : List LifecycleStep) : Prop where
  /-- An announcement succeeds if it is the first one on its channel. -/
  triggered : ∀ handle channel action, (after {} steps).Reaches handle channel →
    Answers steps (.trigger handle action) (.triggered (announced {} channel steps).isEmpty)
  /-- Every handle to a channel gives the first action announced on it. -/
  fired : ∀ handle channel, (after {} steps).Reaches handle channel →
    Answers steps (.fired handle) (.fired (announced {} channel steps).head?)
  /-- Every waiter that has not ended is told of the first action announced on its channel. -/
  polled : ∀ name channel, (after {} steps).Watches name channel →
    Answers steps (.poll name) (told (announced {} channel steps).head?)
  /-- So is a waiter that is started and asked at once. -/
  waited : ∀ name handle channel, (after {} steps).Reaches handle channel →
    Answers steps (.wait name handle) (told (announced {} channel steps).head?)
  /-- The first action stays the first one. -/
  lasting : ∀ channel action, (announced {} channel steps).head? = some action →
    ∀ later, (announced {} channel (steps ++ later)).head? = some action
  /-- A handle reaches its channel for ever. -/
  reaching : ∀ handle channel, (after {} steps).Reaches handle channel →
    ∀ later, (after {} (steps ++ later)).Reaches handle channel
  /-- A copy of a handle reaches the same channel. -/
  copied : ∀ handle channel, (after {} steps).Reaches handle channel →
    ∃ number, Answers steps (.copy handle) (.handle number) ∧
      (after {} (steps ++ [.copy handle])).Reaches number channel
  /-- A new channel is reached by its own handle only, and nothing has been announced on it. -/
  created : ∃ number channel, Answers steps .create (.handle number) ∧
    announced {} channel (steps ++ [.create]) = [] ∧
    ∀ handle, (after {} (steps ++ [.create])).Reaches handle channel ↔ handle = number
  /-- A waiter that was started on a channel at any time, and since then has neither heard of an
  action nor lost its name, is told of the first action announced, before its start or after. -/
  heard : ∀ early late name handle channel, steps = early ++ .start name handle :: late →
    (after {} early).Reaches handle channel → (∀ use ∈ late, use.started? ≠ some name) →
    (∀ front back, late = front ++ .poll name :: back →
      announced {} channel (early ++ .start name handle :: front) = []) →
    Answers steps (.poll name) (told (announced {} channel steps).head?)
  /-- A use of other channels is no announcement on a channel. -/
  elsewhere : ∀ channel use, ¬ (after {} steps).Concerns channel use →
    announced {} channel (steps ++ [use]) = announced {} channel steps
  /-- Without a use of other channels, all that a channel answers later would be the same. -/
  apart : ∀ early late channel use query, steps = early ++ use :: late →
    (after {} early).Aside channel use → (after {} steps).Concerns channel query →
    ∀ answer, Answers steps query answer ↔ Answers (early ++ late) query answer

/-- **The first announcement on a channel counts, for all that reach it and for ever.** -/
theorem first_announcement_counts (steps : List LifecycleStep) : FirstCounts steps where
  triggered _ _ action reaches := answers_triggered reaches action
  fired _ _ reaches := answers_fired reaches
  polled _ _ watches := answers_poll watches
  waited name _ _ reaches := answers_wait name reaches
  lasting := by
    intro channel action first later
    rw [announced_append, List.head?_append, first, Option.some_or]
  reaching := by
    intro handle channel reaches later
    rw [after_append]
    exact after_reaches later reaches
  copied _ _ reaches := ⟨_, answers_copy reaches⟩
  created := by
    have sound := after_sound sound_initial steps
    refine ⟨_, (after {} steps).channels.length, answers_iff.mpr rfl, ?_, fun handle => ?_⟩
    · rw [announced_append, announced_unmade steps (Nat.le_refl _)]
      rfl
    · rw [after_append]
      exact create_reaches_iff sound
  heard := by
    rintro early late name handle channel rfl reaches kept unheard
    exact answers_started reaches kept unheard
  elsewhere := by
    intro channel use elsewhere
    have silent : (after {} steps).announces channel use = none := by
      cases use <;> simp only [announces]
      rename_i handle action
      exact if_neg fun reaches => elsewhere (.inl ⟨handle, rfl, reaches⟩)
    rw [announced_append, announced, silent, announced, Option.toList_none, List.append_nil,
      List.append_nil]
  apart := by
    rintro early late channel use query rfl aside concerns answer
    have sound := after_sound sound_initial early
    have alike := (step_aside sound aside).after sound (step_sound sound use) late
    rw [answers_iff, answers_iff, after_append, after_append, after]
    rw [after_append, after] at concerns
    rw [answer_alike alike.symm concerns]

/-- A waiter hears of what was announced on its own channel, and of the first of it. -/
example :
    run {} [.start 7 0, .create, .trigger 1 .shutdown, .poll 7, .trigger 0 .reboot,
        .trigger 0 .shutdown, .poll 7, .poll 7] =
      [.pending, .handle 1, .triggered true, .pending, .triggered true, .triggered false,
        .heard .reboot, .gone] := by
  decide

end Lifecycle

end HostNet
