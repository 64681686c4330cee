/-
**The stages of an apply, and how it fails.**

An apply goes through its stages in a fixed order. It fails in one of them, by a problem of the
configuration, a failure of the host or the end of its time.

* `Stage.rank_injective`: the order tells stages apart;
* `ApplyFailure.message`: the sentence for a failure, which names its stage.
-/

import HostNet.Duration
import HostNet.Host.Failure
import HostNet.Validation.Problem

namespace HostNet

/-- A stage of an apply. -/
inductive Stage where
  | validate
  | hostname
  | proxy
  | networkFiles
  | timesync
  | renameWait
  | networkRestart
  | timesyncRestart
  | onlineWait
  deriving Repr, DecidableEq, Inhabited

namespace Stage

/-- All stages in their order. -/
def all : List Stage :=
  [validate, hostname, proxy, networkFiles, timesync, renameWait, networkRestart,
    timesyncRestart, onlineWait]

/-- How many stages come before a stage. -/
def rank : Stage → Nat
  | validate => 0
  | hostname => 1
  | proxy => 2
  | networkFiles => 3
  | timesync => 4
  | renameWait => 5
  | networkRestart => 6
  | timesyncRestart => 7
  | onlineWait => 8

/-- Stages are ordered as they are carried out. -/
instance : LT Stage := ⟨fun first second => first.rank < second.rank⟩

instance (first second : Stage) : Decidable (first < second) :=
  inferInstanceAs (Decidable (first.rank < second.rank))

/-- The order tells stages apart. -/
theorem rank_injective {first second : Stage} (same : first.rank = second.rank) :
    first = second := by
  cases first <;> cases second <;> first | rfl | cases same

/-- The words for a stage. -/
def text : Stage → String
  | validate => "validation"
  | hostname => "hostname update"
  | proxy => "proxy environment update"
  | networkFiles => "network configuration write"
  | timesync => "timesync configuration write"
  | renameWait => "interface rename wait"
  | networkRestart => "network service restart"
  | timesyncRestart => "timesync service restart"
  | onlineWait => "network online wait"

end Stage

/-- How an apply fails. -/
inductive ApplyFailure where
  /-- The configuration breaks a rule; nothing has been done. -/
  | invalid (problem : Problem)
  | hostFailed (stage : Stage) (failure : HostFailure)
  | timedOut (stage : Stage) (limit : Duration)
  /-- The settings or the configuration could not be loaded. -/
  | unloadable (reason : String)
  deriving Repr, DecidableEq, Inhabited

namespace ApplyFailure

/-- The sentence for a failure. -/
def message : ApplyFailure → String
  | invalid problem => "Invalid network configuration: " ++ problem.message
  | hostFailed stage failure => stage.text ++ " failed: " ++ failure.message
  | timedOut stage limit => stage.text ++ " timed out after " ++ limit.text
  | unloadable reason => "Configuration error: " ++ reason

/-- The stage that failed, if the apply got that far. -/
def stage? : ApplyFailure → Option Stage
  | invalid _ => some .validate
  | hostFailed stage _ => some stage
  | timedOut stage _ => some stage
  | unloadable _ => none

/-- Whether time ran out. -/
def isTimeout : ApplyFailure → Bool
  | timedOut _ _ => true
  | _ => false

/-- Whether cancellation is the reason. -/
def isCancelled : ApplyFailure → Bool
  | hostFailed _ failure => failure.isCancelled
  | _ => false

/-- The sentences of the failures beneath a failure, the nearest first. -/
def causes : ApplyFailure → List String
  | invalid problem => [problem.message]
  | hostFailed _ failure =>
    failure.message :: (failure.cause?.map Refusal.message).toList
  | timedOut _ _ => []
  | unloadable _ => []

end ApplyFailure

end HostNet
