import SecretProjection.Controller

/-!
# Queues of projections

The controller watches projections and the secrets that it manages.  An event puts projections in
a queue: a projection that appears or changes, and the owners of a secret to which anything
happens.  Only projections that have been seen and are still there are handled, each once, as it
was seen last.
-/

namespace SecretProjection

universe v w

namespace Controller

open Cluster

/-! ## Events -/

structure UnitKey where
  space : Option String
  name : String
  deriving DecidableEq, Repr

def keyOf (unit : Projection) : UnitKey :=
  ⟨unit.metadata.namespaceName, unit.metadata.displayName⟩

inductive Event where
  /-- A projection is there, new or changed. -/
  | seen (unit : Projection)
  | gone (unit : Projection)
  /-- A secret has appeared, changed or gone. -/
  | touched (secret : Secret)
  /-- Nothing has happened up to now. -/
  | progress

/-! ## Owners -/

/-- The group in the text of group and version; without a version there is none. -/
def groupOf (apiVersion : String) : String :=
  let (group, rest) := apiVersion.toList.span (· != '/')
  if rest.isEmpty then "" else String.ofList group

def isToUnit (owner : OwnerReference) : Bool :=
  groupOf owner.apiVersion == Projection.group && owner.kind == Projection.kind

/-- The projections that own a secret. -/
def ownersOf (secret : Secret) : List UnitKey :=
  ((secret.metadata.ownerReferences.getD []).filter isToUnit).map fun owner =>
    ⟨secret.metadata.namespaceName, owner.name⟩

/-! ## Queues -/

/-- The projections as they were seen last, and those that wait to be handled, in order. -/
structure Queue where
  known : List (UnitKey × Projection)
  waiting : List UnitKey

namespace Queue

def empty : Queue := ⟨[], []⟩

/-- The projection with a key, as it was seen last. -/
def find? (queue : Queue) (key : UnitKey) : Option Projection := queue.known.lookup key

def forget (queue : Queue) (key : UnitKey) : Queue :=
  { queue with known := queue.known.filter fun entry => entry.1 ≠ key }

def remember (queue : Queue) (unit : Projection) : Queue :=
  { queue with known := (keyOf unit, unit) :: (queue.forget (keyOf unit)).known }

/-- Lets a key wait, unless it waits already. -/
def enqueue (queue : Queue) (key : UnitKey) : Queue :=
  if key ∈ queue.waiting then queue else { queue with waiting := queue.waiting ++ [key] }

def observe (queue : Queue) : Event -> Queue
  | .seen unit => (queue.remember unit).enqueue (keyOf unit)
  | .gone unit => queue.forget (keyOf unit)
  | .touched secret => (ownersOf secret).foldl enqueue queue
  | .progress => queue

def due (queue : Queue) : List Projection := queue.waiting.filterMap queue.find?

def cleared (queue : Queue) : Queue := { queue with waiting := [] }

end Queue

def handleAll {ε : Type v} {τ : Type w} {σ : Type} (api : Api σ) (source : σ -> SecretSource ε τ)
    (settings : Sync.Settings) (now : Instant) (state : σ) :
    List Projection -> List (Handled ε σ)
  | [] => []
  | unit :: rest =>
      let done := handle api source settings state unit now
      done :: handleAll api source settings now done.state rest

def stateAfter {ε : Type v} {σ : Type} (state : σ) (done : List (Handled ε σ)) : σ :=
  (done.getLast?.map (·.state)).getD state

end Controller

end SecretProjection
