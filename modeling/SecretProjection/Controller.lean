import SecretProjection.Output.Clustered
import SecretProjection.Projection.Shape
import SecretProjection.Sync

/-!
# Handling events

An event speaks of a projection as it was seen some time ago.  What is done about it is decided
on the projection as it is now, together with the output secret that is stored under the name
that the event knows; the status of an attempt is recorded as a merge patch.
-/

namespace SecretProjection

universe u v w

namespace Controller

open Cluster

/-! ## Projections in the cluster -/

def unitFormat : Format Projection := ⟨Projection.shape, Projection.ofJson?⟩

def unitsRoot : String := "/apis/" ++ Projection.apiVersion

/-- The path of the projections in the namespace of a projection. -/
def unitsPath (unit : Projection) : Except Fault String :=
  match unit.metadata.namespaceName with
  | none => .error Projection.SpecFault.noNamespace.toFault
  | some space => .ok (collection unitsRoot space Projection.plural)

def clusterFault (failure : Failure) : Fault := ⟨.cluster, failure.message⟩

structure Step (σ : Type u) (α : Type v) where
  requests : List Request
  state : σ
  result : Except Fault α

def Step.ofCall {σ : Type u} {α : Type v} (call : Call σ α) : Step σ α :=
  ⟨call.requests, call.state, call.result.mapError clusterFault⟩

def fetchLive {σ : Type u} (api : Api σ) (state : σ) (unit : Projection) :
    Step σ (Option Projection) :=
  match unitsPath unit with
  | .error fault => ⟨[], state, .error fault⟩
  | .ok path => .ofCall (.get? api state path unit.metadata.displayName unitFormat)

def statusPatch (status : Projection.Status) : Json := .ofMembers [("status", status.toJson)]

def recordStatus {σ : Type u} (api : Api σ) (state : σ) (unit : Projection)
    (status : Projection.Status) : Step σ Projection :=
  match unitsPath unit with
  | .error fault => ⟨[], state, .error fault⟩
  | .ok path =>
      .ofCall (.sendNamed api state .patch path unit.metadata.displayName "/status"
        (some (statusPatch status)) unitFormat)

/-! ## Events -/

/-- What the handling of an event leaves behind: when to come back, and the requests before the
reads of the source, those of the source, and those after them. -/
structure Handled (ε : Type v) (σ : Type u) where
  action : Except Fault Sync.Requeue
  lookups : List Request
  reads : List ε
  writes : List Request
  state : σ

/-- Puts requests in front of those of a handled event. -/
def Handled.behind {ε : Type v} {σ : Type u} (lookups : List Request) (done : Handled ε σ) :
    Handled ε σ :=
  { done with lookups := lookups ++ done.lookups }

/-- Records the status of an outcome, if there is one. -/
def finish {ε : Type v} {σ : Type u} (api : Api σ) (live : Projection)
    (outcome : Sync.Outcome ε Request σ) : Handled ε σ :=
  match outcome.status with
  | none => ⟨.ok outcome.requeue, [], outcome.reads, outcome.accesses, outcome.store⟩
  | some status =>
      let step := recordStatus api outcome.store live status
      ⟨step.result.map fun _ => outcome.requeue, [], outcome.reads,
        outcome.accesses ++ step.requests, step.state⟩

/-- Does what the state of a projection asks for. -/
def settle {ε : Type v} {τ : Type w} {σ : Type} (api : Api σ) (source : σ -> SecretSource ε τ)
    (settings : Sync.Settings) (state : σ) (live : Projection) (existing : Option Secret)
    (now : Instant) : Handled ε σ :=
  match Trigger.classify live existing now settings.retryInterval with
  | .wait remaining => ⟨.ok (.after remaining), [], [], [], state⟩
  | .sync trigger =>
      finish api live
        (Sync.reconcile (source state) (Output.clustered api) state settings live trigger now)

/-- Handles an event that speaks of a projection, given the output secret that is stored. -/
def dispatch {ε : Type v} {τ : Type w} {σ : Type} (api : Api σ) (source : σ -> SecretSource ε τ)
    (settings : Sync.Settings) (state : σ) (unit : Projection) (existing : Option Secret)
    (now : Instant) : Handled ε σ :=
  let fetched := fetchLive api state unit
  match fetched.result with
  | .error fault => ⟨.error fault, fetched.requests, [], [], fetched.state⟩
  | .ok none => ⟨.ok .awaitChange, fetched.requests, [], [], fetched.state⟩
  | .ok (some live) =>
      (settle api source settings fetched.state live existing now).behind fetched.requests

/-- Handles an event that speaks of a projection. -/
def handle {ε : Type v} {τ : Type w} {σ : Type} (api : Api σ) (source : σ -> SecretSource ε τ)
    (settings : Sync.Settings) (state : σ) (unit : Projection) (now : Instant) : Handled ε σ :=
  let (space, name) := unit.outputKey
  let call := Output.lookUp api state space name
  match (Output.accessed call "get" space name).result with
  | .error fault => ⟨.error fault, call.requests, [], [], call.state⟩
  | .ok existing =>
      (dispatch api source settings call.state unit existing now).behind call.requests

/-- When to come back to a projection whose event could not be handled. -/
def afterFault (settings : Sync.Settings) : Sync.Requeue := .after settings.retryInterval

end Controller

end SecretProjection
