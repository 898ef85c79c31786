import SecretProjection.Cluster.Client
import SecretProjection.Cluster.Shape
import SecretProjection.Output.Basic

/-!
# Secrets in the cluster

The store that keeps its secrets in the cluster itself.  A secret without a version is created,
one with a version replaces the secret of that version as a whole; the cluster refuses to create
what is there and to replace what has changed.
-/

namespace SecretProjection

universe u

namespace Output

open Cluster

def secretFormat : Format Secret := ⟨secretShape, Secret.ofJson?⟩

/-- The query by which the manager of a write names itself. -/
def managerQuery : String := "?fieldManager=" ++ managerName

/-- An access to a secret as an attempt; a failure is told with the key of the secret. -/
def accessed {σ : Type u} {α : Type u} (call : Call σ α) (action space name : String) :
    Timed Request α :=
  ⟨call.requests.map fun request => (.zero, request), call.elapsed,
    call.result.mapError fun failure =>
      ⟨.outputWrite, "failed to " ++ action ++ " Secret " ++ space ++ "/" ++ name ++ ": " ++
        failure.message⟩⟩

def lookUp {σ : Type} (api : Api σ) (state : σ) (space name : String) :
    Call σ (Option Secret) :=
  .get? api state (secretsPath space) name secretFormat

/-- Creates a secret without a version and replaces one with a version. -/
def put {σ : Type} (api : Api σ) (state : σ) (secret : Secret) : Call σ Secret :=
  let (space, name) := secret.key
  match secret.metadata.resourceVersion with
  | none =>
      .sendTo api state .post (secretsPath space ++ managerQuery) (some secret.toJson) secretFormat
  | some _ =>
      .sendNamed api state .put (secretsPath space) name managerQuery (some secret.toJson)
        secretFormat

def clustered {σ : Type} (api : Api σ) : Store Request σ where
  get state space name := accessed (lookUp api state space name) "get" space name
  write state secret :=
    let call := put api state secret
    (accessed call "write" secret.key.1 secret.key.2).map fun _ => call.state

end Output

end SecretProjection
