import SecretProjection.Output.Clustered
import SecretProjection.Proofs.Digits
import SecretProjection.Proofs.Timed

/-!
# Secrets under versions

A registry is what a cluster keeps of its secrets.  Each write gives the secret a version that has
not been used before.  A creation is refused where a secret is stored already, and a replacement
where none is stored or one of another version.

The store of the cluster tells a creation from a replacement by the version of the secret that is
to be written.  A registry takes the place of the cluster behind this choice.
-/

namespace SecretProjection

namespace Output

open Cluster

/-!
## Calls for secrets
-/

/-- The calls by which a client handles secrets. -/
structure Access (σ : Type) where
  lookUp : σ -> String -> String -> Call σ (Option Secret)
  create : σ -> Secret -> Call σ Secret
  replace : σ -> Secret -> Call σ Secret

namespace Access

variable {σ : Type}

/-- Creates a secret without a version and replaces one with a version. -/
def put (access : Access σ) (state : σ) (secret : Secret) : Call σ Secret :=
  match secret.metadata.resourceVersion with
  | none => access.create state secret
  | some _ => access.replace state secret

/-- The store behind some calls. -/
def toStore (access : Access σ) : Store Request σ where
  get state space name := accessed (access.lookUp state space name) "get" space name
  write state secret :=
    (accessed (access.put state secret) "write" secret.key.1 secret.key.2).map fun _ =>
      (access.put state secret).state

/-- The calls to a cluster. -/
def ofApi (api : Api σ) : Access σ where
  lookUp := Output.lookUp api
  create state secret :=
    .sendTo api state .post (secretsPath secret.key.1 ++ managerQuery) (some secret.toJson)
      secretFormat
  replace state secret :=
    .sendNamed api state .put (secretsPath secret.key.1) secret.key.2 managerQuery
      (some secret.toJson) secretFormat

theorem put_ofApi (api : Api σ) (state : σ) (secret : Secret) :
    (ofApi api).put state secret = Output.put api state secret := by
  unfold put Output.put
  cases secret.metadata.resourceVersion with
  | none => rfl
  | some version => rfl

theorem toStore_ofApi (api : Api σ) : (ofApi api).toStore = clustered api := by
  unfold toStore clustered
  simp only [put_ofApi]
  rfl

theorem result_write_of_ok {access : Access σ} {state : σ} {secret stored : Secret}
    (h : (access.put state secret).result = .ok stored) :
    (access.toStore.write state secret).result = .ok (access.put state secret).state := by
  simp only [toStore, Timed.map, accessed, h, mapError_ok]
  rfl

theorem result_write_of_error {access : Access σ} {state : σ} {secret : Secret}
    {failure : Failure} (h : (access.put state secret).result = .error failure) :
    (access.toStore.write state secret).result =
      .error ⟨.outputWrite, "failed to write Secret " ++ secret.key.1 ++ "/" ++ secret.key.2 ++
        ": " ++ failure.message⟩ := by
  simp only [toStore, Timed.map, accessed, h]
  rfl

end Access

end Output

namespace Cluster

/-- The secret with a version. -/
def Secret.withVersion (secret : Secret) (version : Option String) : Secret :=
  { secret with metadata := { secret.metadata with resourceVersion := version } }

/-!
## Registries
-/

/-- The versions in the order in which they are issued.  None is issued twice. -/
structure Numbering where
  version : Nat -> String
  injective : forall {m n : Nat}, version m = version n -> m = n

/-- The versions in decimal. -/
def Numbering.decimal : Numbering where
  version n := String.ofList (Nat.toDigits 10 n)
  injective := by
    intro m n h
    have hdigits : Nat.toDigits 10 m = Nat.toDigits 10 n := String.ofList_injective h
    have hread : some m = some n := by
      rw [← Text.natural?_toDigits m, hdigits, Text.natural?_toDigits n]
    injection hread

/-- The secrets of a cluster by namespace and name, and the number of versions issued so far.
Each of the secrets has a version that was issued. -/
structure Registry (numbering : Numbering) where
  secret : String × String -> Option Secret
  issued : Nat
  versioned : forall key found, secret key = some found ->
    exists n, n < issued ∧ found.metadata.resourceVersion = some (numbering.version n)

namespace Registry

variable {numbering : Numbering} {registry : Registry numbering} {secret : Secret}
variable {key : String × String}

/-- The registry without secrets. -/
def empty (numbering : Numbering) : Registry numbering where
  secret _ := none
  issued := 0
  versioned := by
    intro key found hfound
    cases hfound

/-- Stores a secret with the next version. -/
def put (registry : Registry numbering) (secret : Secret) : Registry numbering where
  secret key :=
    if key = secret.key then
      some (secret.withVersion (some (numbering.version registry.issued)))
    else registry.secret key
  issued := registry.issued + 1
  versioned := by
    intro key found hfound
    by_cases hkey : key = secret.key
    · rw [if_pos hkey] at hfound
      cases hfound
      exact ⟨registry.issued, Nat.lt_succ_self _, rfl⟩
    · rw [if_neg hkey] at hfound
      rcases registry.versioned key found hfound with ⟨n, hn, hversion⟩
      exact ⟨n, Nat.lt_succ_of_lt hn, hversion⟩

def erase (registry : Registry numbering) (key : String × String) : Registry numbering where
  secret other := if other = key then none else registry.secret other
  issued := registry.issued
  versioned := by
    intro other found hfound
    by_cases hkey : other = key
    · rw [if_pos hkey] at hfound
      cases hfound
    · rw [if_neg hkey] at hfound
      exact registry.versioned other found hfound

theorem secret_put_self : (registry.put secret).secret secret.key =
    some (secret.withVersion (some (numbering.version registry.issued))) := if_pos rfl

theorem secret_put_of_ne (h : key ≠ secret.key) :
    (registry.put secret).secret key = registry.secret key := if_neg h

theorem secret_erase_self : (registry.erase key).secret key = none := if_pos rfl

theorem secret_erase_of_ne {other : String × String} (h : other ≠ key) :
    (registry.erase key).secret other = registry.secret other := if_neg h

/-!
## Calls to a registry
-/

def existsFailure : Failure := .refused ⟨"Failure", "already exists", "AlreadyExists", 409⟩

def missingFailure : Failure := .refused ⟨"Failure", "not found", "NotFound", 404⟩

def conflictFailure : Failure :=
  .refused ⟨"Failure", "the object has been modified", "Conflict", 409⟩

/-- The registry behind the write of a secret. -/
def stored (registry : Registry numbering) (secret : Secret) : Call (Registry numbering) Secret :=
  ⟨none, .zero, registry.put secret,
    .ok (secret.withVersion (some (numbering.version registry.issued)))⟩

def create (registry : Registry numbering) (secret : Secret) : Call (Registry numbering) Secret :=
  match registry.secret secret.key with
  | none => registry.stored secret
  | some _ => .fail registry existsFailure

/-- Replaces a secret of the version that is named. -/
def replace (registry : Registry numbering) (secret : Secret) :
    Call (Registry numbering) Secret :=
  match registry.secret secret.key with
  | none => .fail registry missingFailure
  | some found =>
      if found.metadata.resourceVersion = secret.metadata.resourceVersion then
        registry.stored secret
      else .fail registry conflictFailure

def access (numbering : Numbering) : Output.Access (Registry numbering) where
  lookUp registry space name := ⟨none, .zero, registry, .ok (registry.secret (space, name))⟩
  create := create
  replace := replace

/-- What a write demands of the secret that is stored under its key: that there is none, or that
it has the version which is named. -/
def Admits (registry : Registry numbering) (secret : Secret) : Prop :=
  match secret.metadata.resourceVersion with
  | none => registry.secret secret.key = none
  | some version => exists found,
      registry.secret secret.key = some found ∧ found.metadata.resourceVersion = some version

theorem put_of_admits (h : registry.Admits secret) :
    (access numbering).put registry secret = registry.stored secret := by
  unfold Admits at h
  unfold Output.Access.put
  cases hversion : secret.metadata.resourceVersion with
  | none =>
      rw [hversion] at h
      show registry.create secret = _
      unfold create
      rw [h]
  | some version =>
      rw [hversion] at h
      rcases h with ⟨found, hfound, hsame⟩
      show registry.replace secret = _
      unfold replace
      rw [hfound]
      exact if_pos (hsame.trans hversion.symm)

/-- The failure of a write that is not admitted. -/
def refusal (registry : Registry numbering) (secret : Secret) : Failure :=
  match secret.metadata.resourceVersion, registry.secret secret.key with
  | none, _ => existsFailure
  | some _, none => missingFailure
  | some _, some _ => conflictFailure

theorem put_of_not_admits (h : ¬ registry.Admits secret) :
    (access numbering).put registry secret = .fail registry (registry.refusal secret) := by
  unfold Admits at h
  unfold Output.Access.put refusal
  cases hversion : secret.metadata.resourceVersion with
  | none =>
      rw [hversion] at h
      show registry.create secret = _
      unfold create
      cases hfound : registry.secret secret.key with
      | none => exact absurd hfound h
      | some found => rfl
  | some version =>
      rw [hversion] at h
      show registry.replace secret = _
      unfold replace
      cases hfound : registry.secret secret.key with
      | none => rfl
      | some found =>
          refine if_neg ?_
          intro hsame
          exact h ⟨found, hfound, hsame.trans hversion⟩

end Registry

end Cluster

end SecretProjection
