import SecretProjection.Output.Basic
import SecretProjection.Schedule
import SecretProjection.Source.Basic
import SecretProjection.Trigger

/-!
# Synchronisation

One attempt reads all definitions, renders the document and commits it.  Nothing is written
unless everything before the write succeeded, and one deadline holds for the reads and the commit
together.

The outcome of a reconciliation is the state reached, the status to be recorded, and when to come
back.  A failure keeps the record of the last success and replaces the condition only.
-/

namespace SecretProjection

universe u v w x

namespace Sync

open Cluster Projection

/-! ## Outcomes -/

/-- How long attempts may take and how far apart they are after a failure. -/
structure Settings where
  timeout : Duration
  retryInterval : Duration
  deriving DecidableEq, Repr

/-- When to come back. -/
inductive Requeue where
  | after (delay : Duration)
  /-- Not before something changes. -/
  | awaitChange
  deriving DecidableEq, Repr

inductive State where
  | notDue
  | synced (written : Bool)
  | failed (fault : Fault)
  deriving DecidableEq, Repr

/-- The outcome of a reconciliation, with the requests to the source and to the store, and the
store behind it. -/
structure Outcome (ε : Type u) (φ : Type w) (τ : Type x) where
  state : State
  /-- The status to be recorded, if anything has changed. -/
  status : Option Status
  requeue : Requeue
  reads : List ε
  accesses : List φ
  store : τ

/-! ## Conditions -/

/-- The reason that the condition of a successful attempt gives. -/
def successReason : String := "LastReconcileCycleSucceeded"

def successCondition (unit : Projection) (now : Instant) : Condition :=
  { type := Trigger.successType, status := "True", reason := successReason, message := "",
    observedGeneration := unit.metadata.generation, lastTransitionTime := now }

def failureCondition (unit : Projection) (fault : Fault) (now : Instant) : Condition :=
  { type := Trigger.failureType, status := "False", reason := fault.reason,
    message := fault.message, observedGeneration := unit.metadata.generation,
    lastTransitionTime := now }

/-! ## Attempts -/

/-- The fault of an attempt that takes too long. -/
def lateFault (timeout : Duration) (stage : String) : Fault :=
  ⟨.deadline, "sync did not finish within " ++ timeout.text ++ " while " ++ stage⟩

def gather {ε : Type u} {σ : Type v} (source : SecretSource ε σ) (settings : Settings)
    (unit : Projection) : Timed ε Aggregate :=
  match Schedule.validate unit.spec with
  | .error fault => .fail fault.toFault
  | .ok () =>
      (Aggregate.read source unit.metadata.namespaceText unit.spec.definitions).within
        settings.timeout (lateFault settings.timeout "reading Vault secrets")

/-- What the reads have left of the deadline. -/
def remaining (settings : Settings) (elapsed : Duration) : Duration :=
  ⟨settings.timeout.nanoseconds - elapsed.nanoseconds⟩

/-- Commits a document under what is left of the deadline. -/
def commit {φ : Type w} {τ : Type x} (store : Output.Store φ τ) (state : τ) (settings : Settings)
    (elapsed : Duration) (unit : Projection) (document : Document) :
    Timed φ (Output.Committed τ) :=
  (Output.commit store state unit document).within (remaining settings elapsed)
    (lateFault settings.timeout "writing output Secret")

structure Attempt (ε : Type u) (φ : Type w) (τ : Type x) where
  /-- The leases that were read and whether the output was written. -/
  result : Except Fault (List Lease × Bool)
  reads : List ε
  accesses : List φ
  store : τ

def attempt {ε : Type u} {σ : Type v} {φ : Type w} {τ : Type x} (source : SecretSource ε σ)
    (store : Output.Store φ τ) (state : τ) (settings : Settings) (unit : Projection) :
    Attempt ε φ τ :=
  let gathered := gather source settings unit
  match gathered.result with
  | .error fault => ⟨.error fault, gathered.events, [], state⟩
  | .ok aggregate =>
      match Document.render unit.spec.output aggregate.merged with
      | .error fault => ⟨.error fault, gathered.events, [], state⟩
      | .ok document =>
          let committed := commit store state settings gathered.elapsed unit document
          match committed.result with
          | .error fault => ⟨.error fault, gathered.events, committed.events, state⟩
          | .ok done =>
              ⟨.ok (aggregate.leases, done.written), gathered.events, committed.events,
                done.state⟩

/-! ## Reconciliation -/

/-- The interval of a spec; a spec without a usable one has none. -/
def intervalOf (spec : Spec) (leases : List Lease) : Option Duration :=
  match Schedule.interval spec leases with
  | .ok interval => interval
  | .error _ => none

/-- Whether a trigger leads to an attempt.  An invalid spec does, so that the attempt reports
it. -/
def isDue (unit : Projection) (trigger : Trigger) (now : Instant) : Bool :=
  match trigger with
  | .forced _ => true
  | .scheduled =>
      match Schedule.interval unit.spec unit.leases with
      | .ok interval => Schedule.isDue interval unit.lastSync now
      | .error _ => true

/-- When to come back for a planned instant. -/
def requeueFor (next : Option Instant) (now : Instant) : Requeue :=
  match next with
  | some next => .after (Schedule.wait next now)
  | none => .awaitChange

/-- When to come back to a projection that is not due: at the recorded time of the next
synchronisation, or else at the computed one. -/
def rearm (unit : Projection) (now : Instant) : Requeue :=
  requeueFor
    (unit.nextSync.or (Schedule.next (intervalOf unit.spec unit.leases) unit.lastSync)) now

def successStatus (unit : Projection) (leases : List Lease) (now : Instant) : Status :=
  { conditions := [successCondition unit now]
    lastUpdate := some now
    nextUpdate := Schedule.next (intervalOf unit.spec leases) (some now)
    leases }

def failureStatus (unit : Projection) (fault : Fault) (now : Instant) : Status :=
  { unit.status.getD .empty with conditions := [failureCondition unit fault now] }

def conclude {ε : Type u} {φ : Type w} {τ : Type x} (settings : Settings) (unit : Projection)
    (now : Instant) (done : Attempt ε φ τ) : Outcome ε φ τ :=
  match done.result with
  | .error fault =>
      { state := .failed fault
        status := some (failureStatus unit fault now)
        requeue := .after settings.retryInterval
        reads := done.reads, accesses := done.accesses, store := done.store }
  | .ok (leases, written) =>
      let status := successStatus unit leases now
      { state := .synced written
        status := some status
        requeue := requeueFor status.nextUpdate now
        reads := done.reads, accesses := done.accesses, store := done.store }

def reconcile {ε : Type u} {σ : Type v} {φ : Type w} {τ : Type x} (source : SecretSource ε σ)
    (store : Output.Store φ τ) (state : τ) (settings : Settings) (unit : Projection)
    (trigger : Trigger) (now : Instant) : Outcome ε φ τ :=
  if isDue unit trigger now then
    conclude settings unit now (attempt source store state settings unit)
  else
    { state := .notDue, status := none, requeue := rearm unit now, reads := [], accesses := [],
      store := state }

end Sync

end SecretProjection
