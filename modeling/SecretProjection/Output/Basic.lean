import SecretProjection.Cluster.Secret
import SecretProjection.Digest
import SecretProjection.Document
import SecretProjection.Projection.Codec
import SecretProjection.Timed

/-!
# Output secrets

The output secret of a projection holds the bytes of its document, is owned by the projection
alone, and carries the digest of its data as an annotation, by which later edits are noticed.

To commit a document is to bring the stored secret up to date: nothing is written when it already
has everything, and a write never goes over a version of the secret that was not seen.
-/

namespace SecretProjection

universe u v

namespace Output

open Cluster

/-! ## Digest of the data -/

/-- The annotation that holds the digest of the data. -/
def hashAnnotation : String := "vaultsecret.redhatcop.redhat.io/data-hash"

/-- The label that names the manager of a secret. -/
def managerLabel : String := "app.kubernetes.io/managed-by"

/-- The name under which this program manages objects. -/
def managerName : String := "vault-secret-sync"

/-- The bytes of one entry: key and value, each with a zero byte behind it. -/
def entryBytes (entry : String × Bytes) : Bytes :=
  Text.Utf8.encode entry.1 ++ 0 :: (entry.2 ++ [0])

def dataBytes (data : Table Bytes) : Bytes := data.entries.flatMap entryBytes

def dataHash (data : Table Bytes) : String := Digest.sha256 (dataBytes data)

/-! ## Building -/

/-- The reference by which a projection owns its output, if it has an identity. -/
def ownerReference? (owner : Projection) : Option OwnerReference :=
  match owner.metadata.name, owner.metadata.uid with
  | some name, some uid =>
      some { apiVersion := Projection.apiVersion, blockOwnerDeletion := none,
             controller := some true, kind := Projection.kind, name, uid }
  | _, _ => none

def dataOf (document : Document) : Table Bytes :=
  document.data.map fun _ text => Text.Utf8.encode text

/-- The labels of the output: those of the document and the name of the manager. -/
def labelsOf (document : Document) : Table String :=
  document.labels.insert managerLabel managerName

/-- The annotations of the output: those of the document and the digest of its data. -/
def annotationsOf (document : Document) : Table String :=
  document.annotations.insert hashAnnotation (dataHash (dataOf document))

/-- The fault of a projection that cannot own anything. -/
def ownerFault (owner : Projection) : Fault :=
  ⟨.outputWrite, "VaultSecret " ++ owner.metadata.displayName ++
    " has no uid, cannot own its output"⟩

def build (owner : Projection) (document : Document) : Except Fault Secret :=
  match ownerReference? owner with
  | none => .error (ownerFault owner)
  | some reference =>
      .ok {
        data := some (dataOf document)
        immutable := none
        metadata := { Metadata.empty with
          name := some document.name
          namespaceName := owner.metadata.namespaceName
          labels := some (labelsOf document)
          annotations := some (annotationsOf document)
          ownerReferences := some [reference] }
        stringData := none
        type := some document.type }

/-! ## Comparing -/

def filled {α : Type u} (table : Option (Table α)) : Table α := table.getD .empty

/-- Whether a stored secret has everything that a desired one asks for.  An empty table is as
good as none. -/
def isUpToDate (existing desired : Secret) : Bool :=
  decide (existing.type = desired.type) &&
    decide (filled existing.metadata.labels = filled desired.metadata.labels) &&
    decide (filled existing.metadata.annotations = filled desired.metadata.annotations) &&
    decide (existing.metadata.ownerReferences = desired.metadata.ownerReferences) &&
    decide (filled existing.data = filled desired.data) &&
    (filled existing.stringData).isEmpty

/-! ## Committing -/

/-- A place where secrets are stored, with states `σ` and events `ε`. -/
structure Store (ε : Type u) (σ : Type v) where
  get : σ -> String -> String -> Timed ε (Option Secret)
  /-- Creates a secret that has no version, and else replaces the one stored. -/
  write : σ -> Secret -> Timed ε σ

/-- The secret that has to be written over an observed one, if any.  It names the version that
was observed. -/
def plan (desired : Secret) : Option Secret -> Option Secret
  | none => some desired
  | some existing =>
      if isUpToDate existing desired then none
      else
        some { desired with
          metadata := { desired.metadata with
            resourceVersion := existing.metadata.resourceVersion } }

structure Committed (σ : Type v) where
  state : σ
  /-- Whether anything had to be written. -/
  written : Bool

/-- Brings the stored secret of a document up to date. -/
def commit {ε : Type u} {σ : Type v} (store : Store ε σ) (state : σ) (owner : Projection)
    (document : Document) : Timed ε (Committed σ) :=
  match build owner document with
  | .error fault => .fail fault
  | .ok desired =>
      (store.get state owner.metadata.namespaceText document.name).bind fun existing =>
        match plan desired existing with
        | none => .pure ⟨state, false⟩
        | some secret => (store.write state secret).map fun state => ⟨state, true⟩

end Output

end SecretProjection
