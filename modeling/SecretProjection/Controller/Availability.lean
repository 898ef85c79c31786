import SecretProjection.Cluster.Discovery
import SecretProjection.Projection.Codec

/-!
# Waiting for the kind of projections

Before it watches anything the controller waits until the cluster knows projections.  It asks
again after ten seconds, then after twice the time, up to once a minute; an answer that is no
answer counts like one that says no.
-/

namespace SecretProjection

universe u

namespace Controller

open Cluster

/-! ## Looking once -/

/-- Whether a kind is that of projections, in the version that is used here. -/
def isUnitKind (resource : Resource) : Bool :=
  resource.kind == Projection.kind && resource.version == Projection.version

/-- Whether a group has projections in the version that counts. -/
def offersUnits (group : ApiGroup) : Bool := group.recommended.any isUnitKind

/-- Asks whether the cluster knows projections. -/
def lookForUnits {σ : Type u} (api : Api σ) (state : σ) : Inquiry σ Bool :=
  (discover api Projection.group state).andThen fun state group =>
    .done state (group.any offersUnits)

/-! ## Waiting -/

/-- The first pause. -/
def firstPause : Duration := .ofSeconds 10

def longestPause : Duration := .ofSeconds 60

def nextPause (pause : Duration) : Duration :=
  if longestPause ≤ pause + pause then longestPause else pause + pause

/-- What the wait has come to: the requests, and when projections were found, if they were. -/
structure Wait where
  requests : List Request
  found : Option Duration

/-- Looks again and again until a limit, at most a number of times. -/
def waitFrom {σ : Type u} (api : Api σ) (limit : Duration) (state : σ) (now pause : Duration) :
    Nat -> Wait
  | 0 => ⟨[], none⟩
  | rounds + 1 =>
      if limit < now then ⟨[], none⟩
      else
        let look := lookForUnits api state
        let now := now + look.elapsed
        if look.found = some true then ⟨look.requests, some now⟩
        else
          let later := waitFrom api limit look.state (now + pause) (nextPause pause) rounds
          ⟨look.requests ++ later.requests, later.found⟩

/-- How often one can look at most until a limit. -/
def roundsWithin (limit : Duration) : Nat := limit.nanoseconds / firstPause.nanoseconds + 1

def waitForUnits {σ : Type u} (api : Api σ) (limit : Duration) (state : σ) : Wait :=
  waitFrom api limit state .zero firstPause (roundsWithin limit)

end Controller

end SecretProjection
