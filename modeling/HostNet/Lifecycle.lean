/-
**Control actions and who hears of them.**

A control action is announced on a channel. The first announcement on a channel counts for ever;
later ones change nothing. A channel is reached by handles, of which there may be many, and is
watched by waiters, each of which ends by hearing the action. A channel counts its changes; a
waiter looks at the action when it is asked first, and after that only if the count has changed
since it looked.

* `Channel.announce` and `Waiter.look`: what a handle does to a channel, and a waiter;
* `Lifecycle.step`: one use of a handle or a waiter;
* `Lifecycle.trigger_twice`: a second announcement on a channel is ignored.
-/

import HostNet.Host.Failure

namespace HostNet

/-- What may be asked of the machine as a whole. -/
inductive ControlAction where
  | shutdown
  | reboot
  deriving Repr, DecidableEq, Inhabited

/-- The word for an action. -/
def ControlAction.text : ControlAction → String
  | .shutdown => "shutdown"
  | .reboot => "reboot"

/-- The action of a word. -/
def ControlAction.ofText (word : String) : Except HostFailure ControlAction :=
  if word = "shutdown" ∨ word = "poweroff" then .ok .shutdown
  else if word = "reboot" then .ok .reboot
  else .error (.unknownAction word)

/-- The word for an action stands for it. -/
theorem ControlAction.ofText_text (action : ControlAction) : ofText action.text = .ok action := by
  cases action <;> simp [ofText, text]

/-- A channel. -/
structure Channel where
  /-- The action announced, once there is one. -/
  action : Option ControlAction := none
  /-- How often the action has changed. -/
  version : Nat := 0
  deriving Repr, DecidableEq, Inhabited

/-- Announces an action, unless there is one: whether it is the first one. -/
def Channel.announce (channel : Channel) (action : ControlAction) : Bool × Channel :=
  match channel.action with
  | none => (true, { action := some action, version := channel.version + 1 })
  | some _ => (false, channel)

/-- A waiter. -/
structure Waiter where
  /-- The number of the channel that it watches. -/
  channel : Nat
  /-- The version of the channel when it last looked. -/
  seen : Option Nat := none
  deriving Repr, DecidableEq, Inhabited

/-- Looks at a channel: the action found there, if the channel has changed since the last time. -/
def Waiter.look (waiter : Waiter) (channel : Channel) : Option ControlAction × Waiter :=
  if waiter.seen = some channel.version then (none, waiter)
  else (channel.action, { waiter with seen := some channel.version })

/-- Channels, the handles that reach them and the waiters that watch them. -/
structure Lifecycle where
  channels : List Channel := [{}]
  /-- The number of the channel that each handle reaches. -/
  handles : List Nat := [0]
  /-- The waiters that have not ended, by their names. -/
  waiters : List (Nat × Waiter) := []
  deriving Repr, DecidableEq, Inhabited

/-- A use of a handle or a waiter. -/
inductive LifecycleStep where
  | trigger (handle : Nat) (action : ControlAction)
  | fired (handle : Nat)
  /-- Makes a further handle to the channel of a handle. -/
  | copy (handle : Nat)
  /-- Makes a channel with a handle. -/
  | create
  /-- Starts a waiter on the channel of a handle. -/
  | start (waiter handle : Nat)
  /-- Starts a waiter on the channel of a handle and asks it at once. -/
  | wait (waiter handle : Nat)
  | poll (waiter : Nat)
  deriving Repr, DecidableEq

/-- What comes of a use. -/
inductive LifecycleAnswer where
  /-- Whether the announcement was the first one. -/
  | triggered (first : Bool)
  | fired (action : Option ControlAction)
  /-- The number of a new handle. -/
  | handle (number : Nat)
  /-- The waiter has not heard of an action yet. -/
  | pending
  | heard (action : ControlAction)
  /-- There is no such handle, or the waiter has ended before or never was. -/
  | gone
  deriving Repr, DecidableEq

namespace Lifecycle

/-- The action of a channel. -/
def actionOf (state : Lifecycle) (channel : Nat) : Option ControlAction :=
  (state.channels[channel]?).bind Channel.action

/-- Uses the channel of a handle, if there is such a handle. -/
def through (state : Lifecycle) (handle : Nat) (use : Nat → LifecycleAnswer × Lifecycle) :
    LifecycleAnswer × Lifecycle :=
  match state.handles[handle]? with
  | some channel => use channel
  | none => (.gone, state)

/-- Announces an action on a channel: whether it is the first one. -/
def trigger (state : Lifecycle) (channel : Nat) (action : ControlAction) : Bool × Lifecycle :=
  match state.channels[channel]? with
  | some known =>
    let (first, changed) := known.announce action
    (first, { state with channels := state.channels.set channel changed })
  | none => (false, state)

/-- Removes a waiter. -/
def dropWaiter (state : Lifecycle) (name : Nat) : Lifecycle :=
  { state with waiters := state.waiters.filter (·.1 ≠ name) }

/-- Puts a waiter in the place of any other of its name. -/
def setWaiter (state : Lifecycle) (name : Nat) (waiter : Waiter) : Lifecycle :=
  { state.dropWaiter name with waiters := (name, waiter) :: (state.dropWaiter name).waiters }

/-- Starts a waiter, which has not looked yet. -/
def start (state : Lifecycle) (name channel : Nat) : Lifecycle :=
  state.setWaiter name { channel }

/-- Asks a waiter; it ends once it has heard of an action. -/
def poll (state : Lifecycle) (name : Nat) : LifecycleAnswer × Lifecycle :=
  match state.waiters.lookup name with
  | none => (.gone, state)
  | some waiter =>
    match state.channels[waiter.channel]? with
    | none => (.pending, state)
    | some channel =>
      match waiter.look channel with
      | (some action, _) => (.heard action, state.dropWaiter name)
      | (none, looked) => (.pending, state.setWaiter name looked)

/-- One use of a handle or a waiter. -/
def step (state : Lifecycle) : LifecycleStep → LifecycleAnswer × Lifecycle
  | .trigger handle action => state.through handle fun channel =>
    let (first, after) := state.trigger channel action
    (.triggered first, after)
  | .fired handle => state.through handle fun channel => (.fired (state.actionOf channel), state)
  | .copy handle => state.through handle fun channel =>
    (.handle state.handles.length, { state with handles := state.handles ++ [channel] })
  | .create =>
    (.handle state.handles.length,
      { state with
        channels := state.channels ++ [{}], handles := state.handles ++ [state.channels.length] })
  | .start name handle => state.through handle fun channel => (.pending, state.start name channel)
  | .wait name handle => state.through handle fun channel => (state.start name channel).poll name
  | .poll name => state.poll name

/-- The answers to steps, in their order. -/
def run (state : Lifecycle) : List LifecycleStep → List LifecycleAnswer
  | [] => []
  | first :: steps =>
    let (answer, after) := state.step first
    answer :: run after steps

/-- After an announcement its channel has an action. -/
theorem trigger_fired (state : Lifecycle) {channel : Nat} (action : ControlAction)
    (exist : channel < state.channels.length) :
    ((state.trigger channel action).2.actionOf channel).isSome = true := by
  unfold trigger Channel.announce
  cases held : state.channels[channel].action with
  | none => simp [actionOf, exist, held]
  | some earlier => simp [actionOf, exist, held]

/-- A second announcement on a channel is ignored. -/
theorem trigger_twice (state : Lifecycle) {channel : Nat} (first second : ControlAction)
    (exist : channel < state.channels.length) :
    (state.trigger channel first).2.trigger channel second =
      (false, (state.trigger channel first).2) := by
  have fired := trigger_fired state first exist
  generalize (state.trigger channel first).2 = after at fired
  cases known : after.channels[channel]? with
  | none => simp [actionOf, known] at fired
  | some held =>
    obtain ⟨here, rfl⟩ := List.getElem?_eq_some_iff.mp known
    obtain ⟨action, taken⟩ := Option.isSome_iff_exists.mp fired
    simp only [actionOf, known, Option.bind_some] at taken
    simp [trigger, known, Channel.announce, taken]

end Lifecycle

end HostNet
