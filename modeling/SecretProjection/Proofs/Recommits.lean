import SecretProjection.Proofs.Output
import SecretProjection.Proofs.Registry

/-!
# Committing again

A commit compares what is stored with what it would write.  The comparison passes over all that a
store may add to a secret, such as its version, and takes an absent table for an empty one; of the
rest it sees every difference.  So a second commit finds what the first has left and writes
nothing, and an edit of the content makes the next commit write.
-/

namespace SecretProjection

universe u v

namespace Output

open Cluster

/-!
# Content of secrets
-/

/-- Two secrets that differ at most in what a commit does not care for. -/
structure SameContent (first second : Secret) : Prop where
  type : first.type = second.type
  labels : filled first.metadata.labels = filled second.metadata.labels
  annotations : filled first.metadata.annotations = filled second.metadata.annotations
  owners : first.metadata.ownerReferences = second.metadata.ownerReferences
  data : filled first.data = filled second.data
  settled : (filled first.stringData).isEmpty = (filled second.stringData).isEmpty

theorem SameContent.withVersion (secret : Secret) (version : Option String) :
    SameContent secret
      { secret with metadata := { secret.metadata with resourceVersion := version } } :=
  ⟨rfl, rfl, rfl, rfl, rfl, rfl⟩

section Content

variable {owner : Projection} {document : Document} {first second desired existing : Secret}

theorem Carries.of_sameContent (h : Carries owner document first)
    (hsame : SameContent first second) : Carries owner document second where
  data := hsame.data.symm.trans h.data
  type := hsame.type.symm.trans h.type
  labels := hsame.labels.symm.trans h.labels
  annotations := hsame.annotations.symm.trans h.annotations
  owners := by
    rcases h.owners with ⟨reference, hreference, howners⟩
    exact ⟨reference, hreference, hsame.owners.symm.trans howners⟩
  settled := hsame.settled.symm.trans h.settled

theorem Carries.sameContent (hfirst : Carries owner document first)
    (hsecond : Carries owner document second) : SameContent first second where
  type := hfirst.type.trans hsecond.type.symm
  labels := hfirst.labels.trans hsecond.labels.symm
  annotations := hfirst.annotations.trans hsecond.annotations.symm
  owners := by
    rcases hfirst.owners with ⟨reference, hreference, hone⟩
    rcases hsecond.owners with ⟨other, hother, htwo⟩
    rw [hreference] at hother
    cases hother
    exact hone.trans htwo.symm
  data := hfirst.data.trans hsecond.data.symm
  settled := hfirst.settled.trans hsecond.settled.symm

/-- The comparison accepts exactly the secrets with the content of the document. -/
theorem isUpToDate_iff_carries (h : build owner document = .ok desired) :
    isUpToDate existing desired = true <-> Carries owner document existing := by
  constructor
  · exact carries_of_isUpToDate (carries_of_build h)
  · intro hcarries
    have hsame := hcarries.sameContent (carries_of_build h)
    simp only [isUpToDate, Bool.and_eq_true, decide_eq_true_eq]
    exact ⟨⟨⟨⟨⟨hsame.type, hsame.labels⟩, hsame.annotations⟩, hsame.owners⟩, hsame.data⟩,
      hcarries.settled⟩

theorem Carries.exists_build (h : Carries owner document existing) :
    exists desired, build owner document = .ok desired := by
  rcases h.owners with ⟨reference, hreference, _⟩
  unfold build
  rw [hreference]
  exact ⟨_, rfl⟩

end Content

/-!
# Commits one after another
-/

section Stores

variable {ε : Type u} {σ : Type v} {store : Store ε σ} {state : σ} {owner : Projection}
variable {document : Document} {stored : σ -> String -> String -> Option Secret}

/-- A store gives back the content that was written.  It may add to the secret what belongs to
nobody's content, and a write does not put an end to look-ups that work. -/
structure Store.Returns (store : Store ε σ) (stored : σ -> String -> String -> Option Secret) :
    Prop where
  get : forall {state : σ} {space name : String} {found : Option Secret},
    (store.get state space name).result = .ok found -> found = stored state space name
  write : forall {state after : σ} {secret : Secret},
    (filled secret.stringData).isEmpty = true -> (store.write state secret).result = .ok after ->
      exists kept, stored after secret.key.1 secret.key.2 = some kept ∧ SameContent secret kept
  again : forall {state after : σ} {secret : Secret} {space name : String}
    {found : Option Secret}, (store.get state space name).result = .ok found ->
      (store.write state secret).result = .ok after ->
        exists other, (store.get after space name).result = .ok other

/-- Where the content of the document is stored, a commit is the look-up and nothing else. -/
theorem commit_of_carries {existing : Secret}
    (hget : (store.get state owner.metadata.namespaceText document.name).result =
      .ok (some existing))
    (hcarries : Carries owner document existing) :
    (commit store state owner document).result = .ok ⟨state, false⟩ ∧
      (commit store state owner document).trace =
        (store.get state owner.metadata.namespaceText document.name).trace := by
  rcases hcarries.exists_build with ⟨desired, hbuild⟩
  have hplan : plan desired (some existing) = none :=
    if_pos ((isUpToDate_iff_carries hbuild).mpr hcarries)
  have hsettle : settle store state desired (some existing) = .pure ⟨state, false⟩ := by
    unfold settle
    rw [hplan]
  rw [commit_of_built hbuild]
  constructor
  · rw [Timed.result_bind_of_ok hget, hsettle]
    rfl
  · simp [Timed.bind, hget, hsettle, Timed.pure, Timed.later]

/-- A commit that succeeds without a write has found the content of the document. -/
theorem carries_of_not_written {done : Committed σ}
    (h : (commit store state owner document).result = .ok done) (hwritten : done.written = false) :
    exists existing,
      (store.get state owner.metadata.namespaceText document.name).result = .ok (some existing) ∧
        Carries owner document existing := by
  rcases cases_of_commit h with ⟨existing, hget, hcarries, _⟩ | ⟨_, _, _, _, _, _, _, rfl⟩
  · exact ⟨existing, hget, hcarries⟩
  · cases hwritten

/-- A commit that succeeds leaves the content of the document in a place that can be looked up. -/
theorem Store.Returns.exists_get_of_commit (hstore : store.Returns stored) {done : Committed σ}
    (h : (commit store state owner document).result = .ok done) :
    exists kept,
      (store.get done.state owner.metadata.namespaceText document.name).result =
        .ok (some kept) ∧ Carries owner document kept := by
  rcases cases_of_commit h with
    ⟨existing, hget, hcarries, rfl⟩ | ⟨found, secret, after, hget, hkey, hcarries, hwrite, rfl⟩
  · exact ⟨existing, hget, hcarries⟩
  · rcases hstore.write hcarries.settled hwrite with ⟨kept, hkept, hsame⟩
    rcases hstore.again hget hwrite with ⟨other, hother⟩
    rw [hkey] at hkept
    refine ⟨kept, ?_, hcarries.of_sameContent hsame⟩
    rw [hother, hstore.get hother, hkept]

/-- A commit that follows a successful one only looks, and leaves everything as it is.  A commit
writes nothing exactly where the content of its document is stored; so after an edit of that
content it writes, and restores it. -/
theorem recommit_changes_nothing (hstore : store.Returns stored) (state : σ)
    (owner : Projection) (document : Document) :
    (forall done, (commit store state owner document).result = .ok done ->
      (commit store done.state owner document).result = .ok ⟨done.state, false⟩ ∧
        (commit store done.state owner document).trace =
          (store.get done.state owner.metadata.namespaceText document.name).trace) ∧
    (forall found,
      (store.get state owner.metadata.namespaceText document.name).result = .ok found ->
      ((exists done, (commit store state owner document).result = .ok done ∧
          done.written = false) <->
        exists existing,
          stored state owner.metadata.namespaceText document.name = some existing ∧
            Carries owner document existing)) ∧
    (forall kept edited done, Carries owner document kept ->
      stored state owner.metadata.namespaceText document.name = some edited ->
      ¬ SameContent kept edited -> (commit store state owner document).result = .ok done ->
      done.written = true ∧ exists restored,
        stored done.state owner.metadata.namespaceText document.name = some restored ∧
          SameContent kept restored) := by
  refine ⟨?_, ?_, ?_⟩
  · intro done h
    rcases hstore.exists_get_of_commit h with ⟨kept, hget, hcarries⟩
    exact commit_of_carries hget hcarries
  · intro found hget
    constructor
    · rintro ⟨done, hdone, hwritten⟩
      rcases carries_of_not_written hdone hwritten with ⟨existing, hexisting, hcarries⟩
      exact ⟨existing, (hstore.get hexisting).symm, hcarries⟩
    · rintro ⟨existing, hexisting, hcarries⟩
      rw [hstore.get hget, hexisting] at hget
      exact ⟨_, (commit_of_carries hget hcarries).1, rfl⟩
  · intro kept edited done hkept hedited hdiffers hdone
    constructor
    · by_contra hwritten
      rw [Bool.not_eq_true] at hwritten
      rcases carries_of_not_written hdone hwritten with ⟨existing, hexisting, hcarries⟩
      have hsame := hstore.get hexisting
      rw [hedited] at hsame
      cases hsame
      exact hdiffers (hkept.sameContent hcarries)
    · rcases hstore.exists_get_of_commit hdone with ⟨restored, hget, hcarries⟩
      exact ⟨restored, (hstore.get hget).symm, hkept.sameContent hcarries⟩

end Stores

/-!
# Stores
-/

namespace Memory

/-- A behaviour that lets one operation succeed lets every one succeed. -/
theorem resultOf_of_ok {α β : Type} {behaviour : Behaviour} {value found : α}
    (h : resultOf behaviour value = .ok found) (other : β) :
    resultOf behaviour other = .ok other := by
  unfold resultOf at h ⊢
  cases hfault : behaviour.fault with
  | none => rfl
  | some fault =>
      rw [hfault] at h
      cases h

theorem returns_stored : Memory.toStore.Returns stored where
  get := keeps_stored.get
  write := by
    intro memory after secret _ hwrite
    rcases keeps_stored.write hwrite with ⟨version, hversion⟩
    exact ⟨_, hversion, .withVersion secret version⟩
  again := by
    intro memory after secret space name found hget hwrite
    rw [resultOf_eq_ok hwrite]
    exact ⟨_, resultOf_of_ok hget _⟩

namespace Sample

def document : Document := ⟨"app-creds", "Opaque", .empty, .empty, .ofList [("password", "p")]⟩

/-- The output, to which somebody has added a key. -/
def edited : Secret where
  data := some (.ofList [("admin", [49]), ("password", [112])])
  immutable := none
  metadata := { Metadata.empty with
    name := some "app-creds", namespaceName := some "team-a", resourceVersion := some "7" }
  stringData := none
  type := some "Opaque"

def start : Memory := { empty with secrets := .ofList [("team-a/app-creds", edited)], writes := 7 }

end Sample

theorem edited_output_restored_once :
    exists done,
      (commit toStore Sample.start (Sync.Sample.projection "p" none) Sample.document).result =
        .ok done ∧
      done.written = true ∧
      (exists restored, stored done.state "team-a" "app-creds" = some restored ∧
        filled restored.data = .ofList [("password", [112])]) ∧
      (commit toStore done.state (Sync.Sample.projection "p" none) Sample.document).result =
        .ok ⟨done.state, false⟩ := by
  rcases recommit_changes_nothing returns_stored Sample.start
    (Sync.Sample.projection "p" none) Sample.document with ⟨hagain, _, hrestores⟩
  have hedited : stored Sample.start "team-a" "app-creds" = some Sample.edited := by
    decide +kernel
  have hdata : dataOf Sample.document = .ofList [("password", [112])] := by
    decide +kernel
  have hbuild : exists desired,
      build (Sync.Sample.projection "p" none) Sample.document = .ok desired :=
    ⟨_, rfl⟩
  rcases hbuild with ⟨desired, hbuild⟩
  have hdesired := carries_of_build hbuild
  have hdiffers : ¬ SameContent desired Sample.edited := by
    intro hsame
    have heq := hdesired.data.symm.trans hsame.data
    rw [hdata] at heq
    revert heq
    decide +kernel
  have hsucceeds : (commit toStore Sample.start (Sync.Sample.projection "p" none)
      Sample.document).result.isOk = true := by
    decide +kernel
  cases hdone : (commit toStore Sample.start (Sync.Sample.projection "p" none)
      Sample.document).result with
  | error fault =>
      rw [hdone] at hsucceeds
      cases hsucceeds
  | ok done =>
      rcases hrestores desired Sample.edited done hdesired hedited hdiffers hdone with
        ⟨hwritten, restored, hrestored, hsame⟩
      refine ⟨done, rfl, hwritten, ⟨restored, hrestored, ?_⟩, (hagain done hdone).1⟩
      rw [← hsame.data, hdesired.data, hdata]

end Memory

end Output

namespace Cluster

namespace Registry

open Output

variable {numbering : Numbering}

/-- The secret that a registry holds under a namespace and a name. -/
def held (registry : Registry numbering) (space name : String) : Option Secret :=
  registry.secret (space, name)

theorem returns_held : (access numbering).toStore.Returns held where
  get := by
    intro registry space name found hget
    cases hget
    rfl
  write := by
    intro registry after secret _ hwrite
    by_cases hadmits : registry.Admits secret
    · have hput := put_of_admits hadmits
      rw [Access.result_write_of_ok (congrArg Call.result hput), hput] at hwrite
      cases hwrite
      exact ⟨_, secret_put_self, .withVersion secret _⟩
    · rw [Access.result_write_of_error (congrArg Call.result (put_of_not_admits hadmits))] at hwrite
      cases hwrite
  again := by
    intro registry after secret space name found _ _
    exact ⟨_, rfl⟩

end Registry

end Cluster

end SecretProjection
