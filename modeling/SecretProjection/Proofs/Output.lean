import SecretProjection.Proofs.Attempt
import SecretProjection.Proofs.Gathering
import SecretProjection.Proofs.Rendering

/-!
# Outputs of a success

A commit that succeeds leaves a secret with the content of its document, whether the secret had to
be written or was found to have that content already.  Comparing and writing agree on every field,
and the digest annotation is the digest of the data beside it.  Therefore the output of a
successful reconciliation is what the spec asks for, and is not taken for an edited one.
-/

namespace SecretProjection

universe u v w x

namespace Output

open Cluster Projection

/-!
# Content of a document
-/

/-- A secret with the content of a document.  An absent table is as good as an empty one. -/
structure Carries (owner : Projection) (document : Document) (secret : Secret) : Prop where
  data : filled secret.data = dataOf document
  type : secret.type = some document.type
  labels : filled secret.metadata.labels = labelsOf document
  annotations : filled secret.metadata.annotations = annotationsOf document
  owners : exists reference, ownerReference? owner = some reference ∧
    secret.metadata.ownerReferences = some [reference]
  settled : (filled secret.stringData).isEmpty = true

theorem carries_of_build {owner : Projection} {document : Document} {desired : Secret}
    (h : build owner document = .ok desired) : Carries owner document desired := by
  unfold build at h
  cases hreference : ownerReference? owner with
  | none =>
      rw [hreference] at h
      cases h
  | some reference =>
      rw [hreference] at h
      cases h
      exact ⟨rfl, rfl, rfl, rfl, ⟨reference, hreference, rfl⟩, rfl⟩

theorem key_of_build {owner : Projection} {document : Document} {desired : Secret}
    (h : build owner document = .ok desired) :
    desired.key = (owner.metadata.namespaceText, document.name) := by
  unfold build at h
  cases hreference : ownerReference? owner with
  | none =>
      rw [hreference] at h
      cases h
  | some reference =>
      rw [hreference] at h
      cases h
      rfl

theorem carries_of_isUpToDate {owner : Projection} {document : Document}
    {existing desired : Secret} (hdesired : Carries owner document desired)
    (h : isUpToDate existing desired = true) : Carries owner document existing := by
  simp only [isUpToDate, Bool.and_eq_true, decide_eq_true_eq] at h
  rcases h with ⟨⟨⟨⟨⟨htype, hlabels⟩, hannotations⟩, howners⟩, hdata⟩, hsettled⟩
  constructor
  · rw [hdata]
    exact hdesired.data
  · rw [htype]
    exact hdesired.type
  · rw [hlabels]
    exact hdesired.labels
  · rw [hannotations]
    exact hdesired.annotations
  · rw [howners]
    exact hdesired.owners
  · exact hsettled

theorem Carries.withVersion {owner : Projection} {document : Document} {secret : Secret}
    (h : Carries owner document secret) (version : Option String) :
    Carries owner document
      { secret with metadata := { secret.metadata with resourceVersion := version } } :=
  ⟨h.data, h.type, h.labels, h.annotations, h.owners, h.settled⟩

theorem Carries.hashMatches {owner : Projection} {document : Document} {secret : Secret}
    (h : Carries owner document secret) : Trigger.hashMatches secret = true := by
  unfold Trigger.hashMatches
  rw [h.annotations, h.data]
  unfold annotationsOf
  rw [Table.get?_insert_self]
  exact beq_self_eq_true _

/-!
# Commits
-/

theorem plan_eq_none {desired : Secret} {existing : Option Secret}
    (h : plan desired existing = none) :
    exists found, existing = some found ∧ isUpToDate found desired = true := by
  cases existing with
  | none => cases h
  | some found =>
      simp only [plan] at h
      by_cases huptodate : isUpToDate found desired = true
      · exact ⟨found, rfl, huptodate⟩
      · rw [if_neg huptodate] at h
        cases h

/-- What is written differs from what is desired in the version only. -/
theorem plan_eq_some {desired secret : Secret} {existing : Option Secret}
    (h : plan desired existing = some secret) :
    exists version, secret =
      { desired with metadata := { desired.metadata with resourceVersion := version } } := by
  cases existing with
  | none =>
      cases h
      exact ⟨_, rfl⟩
  | some found =>
      simp only [plan] at h
      by_cases huptodate : isUpToDate found desired = true
      · rw [if_pos huptodate] at h
        cases h
      · rw [if_neg huptodate] at h
        cases h
        exact ⟨_, rfl⟩

theorem key_of_plan {desired secret : Secret} {existing : Option Secret}
    (h : plan desired existing = some secret) : secret.key = desired.key := by
  rcases plan_eq_some h with ⟨version, rfl⟩
  rfl

section Steps

variable {ε : Type u} {σ : Type v} {store : Store ε σ} {state : σ} {owner : Projection}
variable {document : Document} {desired : Secret}

/-- What a commit goes on with once the stored secret is known. -/
def settle (store : Store ε σ) (state : σ) (desired : Secret) (existing : Option Secret) :
    Timed ε (Committed σ) :=
  match plan desired existing with
  | none => .pure ⟨state, false⟩
  | some secret => (store.write state secret).map fun state => ⟨state, true⟩

/-- States of a store show the secrets in it: a look-up finds what is there, and a write that
succeeds leaves the secret under its key, with a version that the store chose. -/
structure Store.Keeps (store : Store ε σ) (stored : σ -> String -> String -> Option Secret) :
    Prop where
  get : forall {state : σ} {space name : String} {found : Option Secret},
    (store.get state space name).result = .ok found -> found = stored state space name
  write : forall {state after : σ} {secret : Secret},
    (store.write state secret).result = .ok after ->
      exists version, stored after secret.key.1 secret.key.2 = some
        { secret with metadata := { secret.metadata with resourceVersion := version } }

theorem commit_of_unbuilt {fault : Fault} (h : build owner document = .error fault) :
    commit store state owner document = .fail fault := by
  simp only [commit, h]

theorem commit_of_built (h : build owner document = .ok desired) :
    commit store state owner document =
      (store.get state owner.metadata.namespaceText document.name).bind
        (settle store state desired) := by
  simp only [commit, h]
  rfl

/-- How a commit succeeds: it finds the content of the document, or it writes it. -/
theorem cases_of_commit {done : Committed σ}
    (h : (commit store state owner document).result = .ok done) :
    (exists existing,
      (store.get state owner.metadata.namespaceText document.name).result =
        .ok (some existing) ∧ Carries owner document existing ∧ done = ⟨state, false⟩) ∨
    exists found secret after,
      (store.get state owner.metadata.namespaceText document.name).result = .ok found ∧
        secret.key = (owner.metadata.namespaceText, document.name) ∧
        Carries owner document secret ∧ (store.write state secret).result = .ok after ∧
        done = ⟨after, true⟩ := by
  cases hbuild : build owner document with
  | error fault =>
      rw [commit_of_unbuilt hbuild] at h
      cases h
  | ok desired =>
      rw [commit_of_built hbuild] at h
      rcases Timed.result_bind_eq_ok.mp h with ⟨found, hget, hsettle⟩
      unfold settle at hsettle
      cases hplan : plan desired found with
      | none =>
          rw [hplan] at hsettle
          cases hsettle
          rcases plan_eq_none hplan with ⟨existing, rfl, huptodate⟩
          exact .inl ⟨existing, hget,
            carries_of_isUpToDate (carries_of_build hbuild) huptodate, rfl⟩
      | some secret =>
          rw [hplan] at hsettle
          rcases Timed.result_map_eq_ok.mp hsettle with ⟨after, hwrite, rfl⟩
          have hkey := (key_of_plan hplan).trans (key_of_build hbuild)
          rcases plan_eq_some hplan with ⟨version, rfl⟩
          exact .inr ⟨found, _, after, hget, hkey,
            (carries_of_build hbuild).withVersion version, hwrite, rfl⟩

/-- A commit that succeeds leaves a secret with the content of the document at its place. -/
theorem exists_carries_of_commit {stored : σ -> String -> String -> Option Secret}
    {done : Committed σ} (hstore : store.Keeps stored)
    (h : (commit store state owner document).result = .ok done) :
    exists secret,
      stored done.state owner.metadata.namespaceText document.name = some secret ∧
      Carries owner document secret := by
  rcases cases_of_commit h with
    ⟨existing, hget, hcarries, rfl⟩ | ⟨found, secret, after, hget, hkey, hcarries, hwrite, rfl⟩
  · -- Nothing was written, so that the secret is the one that was looked up.
    exact ⟨existing, (hstore.get hget).symm, hcarries⟩
  · rcases hstore.write hwrite with ⟨version, hstored⟩
    rw [hkey] at hstored
    exact ⟨_, hstored, hcarries.withVersion version⟩

end Steps

namespace Memory

theorem resultOf_eq_ok {α : Type} {behaviour : Behaviour} {value found : α}
    (h : resultOf behaviour value = .ok found) : found = value := by
  unfold resultOf at h
  cases hfault : behaviour.fault with
  | some fault =>
      rw [hfault] at h
      cases h
  | none =>
      rw [hfault] at h
      cases h
      rfl

theorem get?_put (memory : Memory) (secret : Secret) :
    (memory.put secret).secrets.get? (keyOfSecret secret) =
      some { secret with
        metadata := { secret.metadata with
          resourceVersion := some (toString (memory.writes + 1)) } } := by
  unfold put
  exact Table.get?_insert_self _ _ _

/-- The secret that a memory holds under a key. -/
def stored (memory : Memory) (space name : String) : Option Secret :=
  memory.secrets.get? (keyOf space name)

theorem keeps_stored : Memory.toStore.Keeps stored where
  get := by
    intro memory space name found hget
    exact resultOf_eq_ok hget
  write := by
    intro memory after secret hwrite
    have hafter := resultOf_eq_ok hwrite
    refine ⟨some (toString (memory.writes + 1)), ?_⟩
    rw [hafter]
    exact get?_put memory secret

theorem exists_carries_of_commit {memory : Memory} {owner : Projection} {document : Document}
    {done : Committed Memory}
    (h : (commit Memory.toStore memory owner document).result = .ok done) :
    exists secret,
      done.state.secrets.get? (keyOf owner.metadata.namespaceText document.name) = some secret ∧
      Carries owner document secret :=
  Output.exists_carries_of_commit keeps_stored h

end Memory

/-!
# What a spec asks for
-/

/-- A secret that is what a spec asks for, with the templates rendered for a root. -/
structure Projects (unit : Projection) (root : Json) (secret : Secret) : Prop where
  keys : (filled secret.data).keys = unit.spec.output.stringData.keys
  value : forall key source, unit.spec.output.stringData.get? key = some source ->
    exists text, Template.render source root = .ok text ∧
      (filled secret.data).get? key = some (Text.Utf8.encode text)
  type : secret.type = some unit.spec.output.type
  manager : (filled secret.metadata.labels).get? managerLabel = some managerName
  label : forall key, key ≠ managerLabel ->
    (filled secret.metadata.labels).get? key = unit.spec.output.labels.get? key
  digest : (filled secret.metadata.annotations).get? hashAnnotation =
    some (dataHash (filled secret.data))
  annotation : forall key, key ≠ hashAnnotation ->
    (filled secret.metadata.annotations).get? key = unit.spec.output.annotations.get? key
  owner : exists name uid, unit.metadata.name = some name ∧ unit.metadata.uid = some uid ∧
    secret.metadata.ownerReferences = some [
      { apiVersion := Projection.apiVersion, kind := Projection.kind, name, uid,
        controller := some true, blockOwnerDeletion := none }]
  settled : (filled secret.stringData).isEmpty = true

theorem ownerReference?_eq_some {owner : Projection} {reference : OwnerReference}
    (h : ownerReference? owner = some reference) :
    exists name uid, owner.metadata.name = some name ∧ owner.metadata.uid = some uid ∧
      reference =
        { apiVersion := Projection.apiVersion, kind := Projection.kind, name, uid,
          controller := some true, blockOwnerDeletion := none } := by
  unfold ownerReference? at h
  cases hname : owner.metadata.name with
  | none =>
      rw [hname] at h
      cases h
  | some name =>
      cases huid : owner.metadata.uid with
      | none =>
          rw [hname, huid] at h
          cases h
      | some uid =>
          rw [hname, huid] at h
          cases h
          exact ⟨name, uid, rfl, rfl, rfl⟩

theorem projects_of_carries {unit : Projection} {merged : Table Json} {document : Document}
    {secret : Secret} (hrender : Document.render unit.spec.output merged = .ok document)
    (h : Carries unit document secret) : Projects unit (.object merged.entries) secret := by
  rcases Document.render_eq_ok.mp hrender with ⟨fields, hfields, rfl⟩
  have hentries := Document.entries_data_of_renderFields hfields
  rcases h.owners with ⟨reference, hreference, howners⟩
  rcases ownerReference?_eq_some hreference with ⟨name, uid, hname, huid, rfl⟩
  constructor
  · rw [h.data]
    unfold dataOf
    rw [Table.keys_map]
    unfold Table.keys
    rw [hentries]
    exact Document.keys_of_renderFields hfields
  · intro key source hsource
    rcases Document.find?_of_renderFields hfields hsource with ⟨text, htext, hfind⟩
    refine ⟨text, htext, ?_⟩
    rw [h.data]
    unfold dataOf
    rw [Table.get?_map]
    unfold Table.get?
    rw [hentries, hfind]
    rfl
  · exact h.type
  · rw [h.labels]
    exact Table.get?_insert_self _ _ _
  · intro key hne
    rw [h.labels]
    exact Table.get?_insert_of_ne _ hne _
  · rw [h.annotations, h.data]
    exact Table.get?_insert_self _ _ _
  · intro key hne
    rw [h.annotations]
    exact Table.get?_insert_of_ne _ hne _
  · exact ⟨name, uid, hname, huid, howners⟩
  · exact h.settled

end Output

/-!
# Reconciliations that succeed
-/

namespace Sync

open Cluster Projection

section Successes

variable {ε : Type u} {σ : Type v} {φ : Type w} {τ : Type x}
variable {source : SecretSource ε σ} {store : Output.Store φ τ} {state : τ}
variable {settings : Settings} {unit : Projection}

/-- A success has passed every stage. -/
theorem stages_of_attempt {leases : List Lease} {written : Bool}
    (h : (attempt source store state settings unit).result = .ok (leases, written)) :
    exists aggregate document done,
      (gather source settings unit).result = .ok aggregate ∧
      Document.render unit.spec.output aggregate.merged = .ok document ∧
      (commit store state settings (gather source settings unit).elapsed unit document).result =
        .ok done ∧
      leases = aggregate.leases ∧ written = done.written ∧
      (attempt source store state settings unit).store = done.state := by
  have hending : Ending source store state settings unit _ := ending_attempt
  generalize attempt source store state settings unit = outcome at h hending
  cases hending with
  | unread _ => cases h
  | unrendered _ _ => cases h
  | uncommitted _ _ _ => cases h
  | committed hread hrender hcommit =>
      rename_i aggregate document done
      cases h
      exact ⟨aggregate, document, done, hread, hrender, hcommit, rfl, rfl, rfl⟩

end Successes

theorem not_outputDrifted_of_hashMatches {unit : Projection} {secret : Secret}
    (h : Trigger.hashMatches secret = true) : Trigger.outputDrifted unit (some secret) = false := by
  unfold Trigger.outputDrifted
  cases unit.lastSync with
  | none => rfl
  | some _ => simp [h]

/-- With the record of a success, nothing but drift comes before the schedule. -/
theorem classify_of_success {unit : Projection} {leases : List Lease} {now : Instant}
    {existing : Option Secret}
    (h : Trigger.outputDrifted { unit with status := some (successStatus unit leases now) }
      existing = false) (later : Instant) (retryInterval : Duration) :
    Trigger.classify { unit with status := some (successStatus unit leases now) } existing later
      retryInterval = .sync .scheduled := by
  have hcondition : ({ unit with status := some (successStatus unit leases now) } :
      Projection).lastCondition = some (successCondition unit now) := rfl
  have hspec : Trigger.specChanged
      { unit with status := some (successStatus unit leases now) } = false := by
    unfold Trigger.specChanged
    rw [hcondition]
    simp [successCondition]
  have hfailed : Trigger.lastAttemptFailed
      { unit with status := some (successStatus unit leases now) } = false := by
    unfold Trigger.lastAttemptFailed Trigger.lastFailure
    rw [hcondition]
    simp [successCondition, Trigger.successType, Trigger.failureType]
  unfold Trigger.classify
  rw [hspec, hfailed, h]
  rfl

/-- A successful reconciliation leaves the output that the spec asks for, written or not, and the
next event does not take it for an edited one. -/
theorem synced_reconcile_projects {ε : Type u} {σ : Type v} {source : SecretSource ε σ}
    {memory : Output.Memory} {settings : Settings} {unit : Projection} {trigger : Trigger}
    {now : Instant} {written : Bool}
    (h : (reconcile source Output.Memory.toStore memory settings unit trigger now).state =
      .synced written) :
    exists merged secret status,
      Aggregate.Holds source unit.metadata.namespaceText unit.spec.definitions merged ∧
      (reconcile source Output.Memory.toStore memory settings unit trigger
        now).store.secrets.get?
          (Output.Memory.keyOf unit.metadata.namespaceText unit.spec.output.name) = some secret ∧
      Output.Projects unit (.object merged.entries) secret ∧
      (reconcile source Output.Memory.toStore memory settings unit trigger now).status =
        some status ∧
      Trigger.outputDrifted { unit with status := some status } (some secret) = false ∧
      forall later retryInterval,
        Trigger.classify { unit with status := some status } (some secret) later retryInterval =
          .sync .scheduled := by
  rcases reconcile_of_synced h with ⟨leases, hresult, hreconcile⟩
  rcases stages_of_attempt hresult with
    ⟨aggregate, document, done, hread, hrender, hcommit, _, _, hstore⟩
  have hholds : Aggregate.Holds source unit.metadata.namespaceText unit.spec.definitions
      aggregate.merged := Aggregate.holds_of_read (result_gather_eq_ok.mp hread).2.2
  rcases Output.Memory.exists_carries_of_commit (Timed.result_within_eq_ok.mp hcommit).2 with
    ⟨secret, hget, hcarries⟩
  have hname : document.name = unit.spec.output.name := by
    rcases Document.render_eq_ok.mp hrender with ⟨fields, _, hdocument⟩
    rw [hdocument]
  rw [hname] at hget
  rw [hreconcile, conclude_of_ok hresult]
  have hdrift : Trigger.outputDrifted
      { unit with status := some (successStatus unit leases now) } (some secret) = false :=
    not_outputDrifted_of_hashMatches hcarries.hashMatches
  refine ⟨aggregate.merged, secret, _, hholds, ?_, Output.projects_of_carries hrender hcarries,
    rfl, hdrift, classify_of_success hdrift⟩
  change (attempt source Output.Memory.toStore memory settings unit).store.secrets.get? _ = _
  rw [hstore]
  exact hget

namespace Sample

/-- A store where somebody has put a secret of his own in the place of the output. -/
def foreign : Output.Memory :=
  { Output.Memory.empty with
    secrets := .ofList [("team-a/app-creds",
      { data := some (.ofList [("user", [104, 105])]), immutable := none,
        metadata := { Metadata.empty with
          name := some "app-creds", namespaceName := some "team-a",
          resourceVersion := some "7" },
        stringData := some (.ofList [("note", "mine")]), type := none })] }

end Sample

theorem foreign_secret_replaced :
    (reconcile (Sample.script "hunter2").toSource Output.Memory.toStore Sample.foreign
        Sample.settings (Sample.projection "{{ .db.password }}" none) .scheduled .epoch).state =
        .synced true ∧
      exists merged secret,
        (reconcile (Sample.script "hunter2").toSource Output.Memory.toStore Sample.foreign
          Sample.settings (Sample.projection "{{ .db.password }}" none) .scheduled
          .epoch).store.secrets.get? "team-a/app-creds" = some secret ∧
        Output.Projects (Sample.projection "{{ .db.password }}" none) (.object merged) secret := by
  have hstate : (reconcile (Sample.script "hunter2").toSource Output.Memory.toStore
      Sample.foreign Sample.settings (Sample.projection "{{ .db.password }}" none) .scheduled
      .epoch).state = .synced true := by
    decide +kernel
  rcases synced_reconcile_projects hstate with ⟨merged, secret, _, _, hget, hprojects, _⟩
  exact ⟨hstate, merged.entries, secret, hget, hprojects⟩

end Sync

end SecretProjection
