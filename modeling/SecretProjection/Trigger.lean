import SecretProjection.Output.Basic

/-!
# Triggers

An event leads to a synchronisation at once when the spec is not the one that was tried last, when
a failed attempt has waited long enough, or when the output secret is no longer what was written.
Otherwise the schedule decides.
-/

namespace SecretProjection

inductive ForceReason where
  | specChanged
  | outputDrift
  | retryAfterFailure
  deriving DecidableEq, Repr

inductive Trigger where
  | forced (reason : ForceReason)
  /-- The schedule decides. -/
  | scheduled
  deriving DecidableEq, Repr

inductive Decision where
  | sync (trigger : Trigger)
  /-- A failed attempt has to wait. -/
  | wait (remaining : Duration)
  deriving DecidableEq, Repr

namespace Trigger

open Cluster

/-- The type of the condition of a successful attempt. -/
def successType : String := "ReconcileSuccessful"

/-- The type of the condition of a failed attempt. -/
def failureType : String := "ReconcileFailed"

/-- Whether the spec is of another generation than the attempt recorded last.  Without a record
it is. -/
def specChanged (unit : Projection) : Bool :=
  match unit.lastCondition with
  | none => true
  | some condition => decide (condition.observedGeneration ≠ unit.metadata.generation)

/-- The condition of the attempt recorded last, if that attempt failed. -/
def lastFailure (unit : Projection) : Option Condition :=
  unit.lastCondition.filter fun condition => condition.type == failureType

/-- Whether the attempt recorded last failed. -/
def lastAttemptFailed (unit : Projection) : Bool := (lastFailure unit).isSome

/-- The digest that a secret carries, and that of its data. -/
def hashMatches (secret : Secret) : Bool :=
  (Output.filled secret.metadata.annotations).get? Output.hashAnnotation ==
    some (Output.dataHash (Output.filled secret.data))

/-- Whether the output of an earlier synchronisation is gone or was edited. -/
def outputDrifted (unit : Projection) (existing : Option Secret) : Bool :=
  match unit.lastSync, existing with
  | none, _ => false
  | some _, none => true
  | some _, some secret => !hashMatches secret

/-- The time left until a failed attempt may be repeated, if any is left. -/
def backoff (unit : Projection) (now : Instant) (retryInterval : Duration) : Option Duration :=
  match lastFailure unit with
  | none => none
  | some condition =>
      let elapsed := condition.lastTransitionTime.timeTo now
      if elapsed < retryInterval then
        some ⟨retryInterval.nanoseconds - elapsed.nanoseconds⟩
      else none

/-- Decides what to do about an event, given the output secret that is stored. -/
def classify (unit : Projection) (existing : Option Secret) (now : Instant)
    (retryInterval : Duration) : Decision :=
  if specChanged unit then .sync (.forced .specChanged)
  else if lastAttemptFailed unit then
    match backoff unit now retryInterval with
    | some remaining => .wait remaining
    | none => .sync (.forced .retryAfterFailure)
  else if outputDrifted unit existing then .sync (.forced .outputDrift)
  else .sync .scheduled

end Trigger

end SecretProjection
