import SecretProjection.Output.Memory
import SecretProjection.Proofs.Timed
import SecretProjection.Source.Scripted
import SecretProjection.Sync

/-!
# Exits of an attempt

An attempt validates the spec, reads, renders and commits.  Each of these stages may end it, the
two that wait may also run out of time, and a stage is entered only when all stages before it are
through.  The relation `EndsIn` lists the exits one by one, and an attempt fails exactly when
one of them is taken.

Whatever the exit, the store is the one before the attempt and the record differs from the one
before it in the condition only.  No exit before the last stage has touched the store, not even to
look at it.
-/

namespace SecretProjection

universe u v w x

namespace Sync

open Projection

inductive Stage where
  | validating
  | reading
  | rendering
  | committing
  deriving DecidableEq, Repr

section Exits

variable {ε : Type u} {σ : Type v} {φ : Type w} {τ : Type x}
variable (source : SecretSource ε σ) (store : Output.Store φ τ) (state : τ)
variable (settings : Settings) (unit : Projection)

/-- All definitions of a projection, read without a deadline. -/
def reads : Timed ε Aggregate :=
  Aggregate.read source unit.metadata.namespaceText unit.spec.definitions

/-- The exits of an attempt, with the stage that they leave and the fault that they report. -/
inductive EndsIn : Stage -> Fault -> Prop where
  | refused {fault : SpecFault} :
      Schedule.validate unit.spec = .error fault ->
      EndsIn .validating fault.toFault
  | unread {fault : Fault} :
      Schedule.validate unit.spec = .ok () ->
      (reads source unit).elapsed ≤ settings.timeout ->
      (reads source unit).result = .error fault ->
      EndsIn .reading fault
  | readLate :
      Schedule.validate unit.spec = .ok () ->
      ¬ (reads source unit).elapsed ≤ settings.timeout ->
      EndsIn .reading (lateFault settings.timeout "reading Vault secrets")
  | unrendered {aggregate : Aggregate} {fault : Fault} :
      (gather source settings unit).result = .ok aggregate ->
      Document.render unit.spec.output aggregate.merged = .error fault ->
      EndsIn .rendering fault
  | uncommitted {aggregate : Aggregate} {document : Document} {fault : Fault} :
      (gather source settings unit).result = .ok aggregate ->
      Document.render unit.spec.output aggregate.merged = .ok document ->
      (Output.commit store state unit document).elapsed ≤
        remaining settings (gather source settings unit).elapsed ->
      (Output.commit store state unit document).result = .error fault ->
      EndsIn .committing fault
  | commitLate {aggregate : Aggregate} {document : Document} :
      (gather source settings unit).result = .ok aggregate ->
      Document.render unit.spec.output aggregate.merged = .ok document ->
      ¬ (Output.commit store state unit document).elapsed ≤
        remaining settings (gather source settings unit).elapsed ->
      EndsIn .committing (lateFault settings.timeout "writing output Secret")

/-- The four ways in which an attempt ends, with what it leaves behind. -/
inductive Ending : Attempt ε φ τ -> Prop where
  | unread {fault : Fault} :
      (gather source settings unit).result = .error fault ->
      Ending ⟨.error fault, (gather source settings unit).events, [], state⟩
  | unrendered {aggregate : Aggregate} {fault : Fault} :
      (gather source settings unit).result = .ok aggregate ->
      Document.render unit.spec.output aggregate.merged = .error fault ->
      Ending ⟨.error fault, (gather source settings unit).events, [], state⟩
  | uncommitted {aggregate : Aggregate} {document : Document} {fault : Fault} :
      (gather source settings unit).result = .ok aggregate ->
      Document.render unit.spec.output aggregate.merged = .ok document ->
      (commit store state settings (gather source settings unit).elapsed unit document).result =
        .error fault ->
      Ending ⟨.error fault, (gather source settings unit).events,
        (commit store state settings (gather source settings unit).elapsed unit document).events,
        state⟩
  | committed {aggregate : Aggregate} {document : Document} {done : Output.Committed τ} :
      (gather source settings unit).result = .ok aggregate ->
      Document.render unit.spec.output aggregate.merged = .ok document ->
      (commit store state settings (gather source settings unit).elapsed unit document).result =
        .ok done ->
      Ending ⟨.ok (aggregate.leases, done.written), (gather source settings unit).events,
        (commit store state settings (gather source settings unit).elapsed unit document).events,
        done.state⟩

end Exits

section Failures

variable {ε : Type u} {σ : Type v} {φ : Type w} {τ : Type x}
variable {source : SecretSource ε σ} {store : Output.Store φ τ} {state : τ}
variable {settings : Settings} {unit : Projection}

/-!
## Stages one by one
-/

theorem result_gather_of_refused {fault : SpecFault}
    (h : Schedule.validate unit.spec = .error fault) :
    (gather source settings unit).result = .error fault.toFault := by
  unfold gather
  rw [h]
  rfl

theorem gather_of_valid (h : Schedule.validate unit.spec = .ok ()) :
    gather source settings unit =
      (reads source unit).within settings.timeout
        (lateFault settings.timeout "reading Vault secrets") := by
  unfold gather
  rw [h]
  rfl

theorem result_gather_eq_ok {aggregate : Aggregate} :
    (gather source settings unit).result = .ok aggregate <->
      Schedule.validate unit.spec = .ok () ∧ (reads source unit).elapsed ≤ settings.timeout ∧
        (reads source unit).result = .ok aggregate := by
  cases hvalid : Schedule.validate unit.spec with
  | error fault =>
      rw [result_gather_of_refused hvalid]
      simp
  | ok _ =>
      rw [gather_of_valid hvalid, Timed.result_within_eq_ok]
      simp

theorem attempt_of_unread {fault : Fault}
    (h : (gather source settings unit).result = .error fault) :
    attempt source store state settings unit =
      ⟨.error fault, (gather source settings unit).events, [], state⟩ := by
  simp only [attempt, h]

theorem attempt_of_unrendered {aggregate : Aggregate} {fault : Fault}
    (hread : (gather source settings unit).result = .ok aggregate)
    (hrender : Document.render unit.spec.output aggregate.merged = .error fault) :
    attempt source store state settings unit =
      ⟨.error fault, (gather source settings unit).events, [], state⟩ := by
  simp only [attempt, hread, hrender]

theorem attempt_of_uncommitted {aggregate : Aggregate} {document : Document} {fault : Fault}
    (hread : (gather source settings unit).result = .ok aggregate)
    (hrender : Document.render unit.spec.output aggregate.merged = .ok document)
    (hcommit : (commit store state settings (gather source settings unit).elapsed unit
      document).result = .error fault) :
    attempt source store state settings unit =
      ⟨.error fault, (gather source settings unit).events,
        (commit store state settings (gather source settings unit).elapsed unit document).events,
        state⟩ := by
  simp only [attempt, hread, hrender, hcommit]

theorem attempt_of_committed {aggregate : Aggregate} {document : Document}
    {done : Output.Committed τ}
    (hread : (gather source settings unit).result = .ok aggregate)
    (hrender : Document.render unit.spec.output aggregate.merged = .ok document)
    (hcommit : (commit store state settings (gather source settings unit).elapsed unit
      document).result = .ok done) :
    attempt source store state settings unit =
      ⟨.ok (aggregate.leases, done.written), (gather source settings unit).events,
        (commit store state settings (gather source settings unit).elapsed unit document).events,
        done.state⟩ := by
  simp only [attempt, hread, hrender, hcommit]

theorem ending_attempt :
    Ending source store state settings unit (attempt source store state settings unit) := by
  cases hread : (gather source settings unit).result with
  | error fault =>
      rw [attempt_of_unread hread]
      exact .unread hread
  | ok aggregate =>
      cases hrender : Document.render unit.spec.output aggregate.merged with
      | error fault =>
          rw [attempt_of_unrendered hread hrender]
          exact .unrendered hread hrender
      | ok document =>
          cases hcommit : (commit store state settings (gather source settings unit).elapsed
              unit document).result with
          | error fault =>
              rw [attempt_of_uncommitted hread hrender hcommit]
              exact .uncommitted hread hrender hcommit
          | ok done =>
              rw [attempt_of_committed hread hrender hcommit]
              exact .committed hread hrender hcommit

/-!
## Faults and exits

The stages are passed in order, so that the first one that fails decides.
-/

theorem attempt_of_endsIn {stage : Stage} {fault : Fault}
    (h : EndsIn source store state settings unit stage fault) :
    exists accesses,
      attempt source store state settings unit =
        ⟨.error fault, (gather source settings unit).events, accesses, state⟩ ∧
      (stage ≠ .committing -> accesses = []) := by
  cases h with
  | refused hvalid =>
      exact ⟨[], attempt_of_unread (result_gather_of_refused hvalid), fun _ => rfl⟩
  | unread hvalid htime hresult =>
      have hgather : (gather source settings unit).result = .error fault := by
        rw [gather_of_valid hvalid, Timed.result_within_of_le htime]
        exact hresult
      exact ⟨[], attempt_of_unread hgather, fun _ => rfl⟩
  | readLate hvalid htime =>
      have hgather : (gather source settings unit).result =
          .error (lateFault settings.timeout "reading Vault secrets") := by
        rw [gather_of_valid hvalid, Timed.result_within_of_not_le htime]
      exact ⟨[], attempt_of_unread hgather, fun _ => rfl⟩
  | unrendered hread hrender =>
      exact ⟨[], attempt_of_unrendered hread hrender, fun _ => rfl⟩
  | uncommitted hread hrender htime hresult =>
      rename_i aggregate document
      have hcommit : (commit store state settings (gather source settings unit).elapsed unit
          document).result = .error fault := by
        unfold commit
        rw [Timed.result_within_of_le htime]
        exact hresult
      exact ⟨_, attempt_of_uncommitted hread hrender hcommit, fun hne => absurd rfl hne⟩
  | commitLate hread hrender htime =>
      rename_i aggregate document
      have hcommit : (commit store state settings (gather source settings unit).elapsed unit
          document).result = .error (lateFault settings.timeout "writing output Secret") := by
        unfold commit
        rw [Timed.result_within_of_not_le htime]
      exact ⟨_, attempt_of_uncommitted hread hrender hcommit, fun hne => absurd rfl hne⟩

theorem exists_endsIn_of_unread {fault : Fault}
    (h : (gather source settings unit).result = .error fault) :
    exists stage, EndsIn source store state settings unit stage fault := by
  cases hvalid : Schedule.validate unit.spec with
  | error reason =>
      rw [result_gather_of_refused hvalid] at h
      cases h
      exact ⟨.validating, .refused hvalid⟩
  | ok _ =>
      rw [gather_of_valid hvalid] at h
      by_cases htime : (reads source unit).elapsed ≤ settings.timeout
      · rw [Timed.result_within_of_le htime] at h
        exact ⟨.reading, .unread hvalid htime h⟩
      · rw [Timed.result_within_of_not_le htime] at h
        cases h
        exact ⟨.reading, .readLate hvalid htime⟩

theorem exists_endsIn_of_uncommitted {aggregate : Aggregate} {document : Document} {fault : Fault}
    (hread : (gather source settings unit).result = .ok aggregate)
    (hrender : Document.render unit.spec.output aggregate.merged = .ok document)
    (h : (commit store state settings (gather source settings unit).elapsed unit
      document).result = .error fault) :
    exists stage, EndsIn source store state settings unit stage fault := by
  unfold commit at h
  by_cases htime : (Output.commit store state unit document).elapsed ≤
      remaining settings (gather source settings unit).elapsed
  · rw [Timed.result_within_of_le htime] at h
    exact ⟨.committing, .uncommitted hread hrender htime h⟩
  · rw [Timed.result_within_of_not_le htime] at h
    cases h
    exact ⟨.committing, .commitLate hread hrender htime⟩

/-- An attempt fails exactly when it takes one of the exits. -/
theorem result_attempt_eq_error {fault : Fault} :
    (attempt source store state settings unit).result = .error fault <->
      exists stage, EndsIn source store state settings unit stage fault := by
  constructor
  · intro h
    have hending : Ending source store state settings unit _ := ending_attempt
    generalize attempt source store state settings unit = done at h hending
    cases hending with
    | unread hread =>
        cases h
        exact exists_endsIn_of_unread hread
    | unrendered hread hrender =>
        cases h
        exact ⟨.rendering, .unrendered hread hrender⟩
    | uncommitted hread hrender hcommit =>
        cases h
        exact exists_endsIn_of_uncommitted hread hrender hcommit
    | committed _ _ _ => cases h
  · intro h
    rcases h with ⟨stage, hends⟩
    rcases attempt_of_endsIn hends with ⟨accesses, heq, _⟩
    rw [heq]

/-!
# Records of a failure
-/

/-- The record of a failure: that of the last success, with the fault as its only condition. -/
structure RecordsFailure (unit : Projection) (fault : Fault) (now : Instant)
    (status : Status) : Prop where
  lastUpdate : status.lastUpdate = unit.lastSync
  nextUpdate : status.nextUpdate = unit.nextSync
  leases : status.leases = unit.leases
  conditions : status.conditions =
    [{ type := "ReconcileFailed", status := "False", reason := fault.reason,
       message := fault.message, observedGeneration := unit.metadata.generation,
       lastTransitionTime := now }]

theorem recordsFailure_failureStatus (unit : Projection) (fault : Fault) (now : Instant) :
    RecordsFailure unit fault now (failureStatus unit fault now) := by
  cases hstatus : unit.status with
  | none =>
      constructor <;>
        simp [failureStatus, failureCondition, lastSync, nextSync, leases, hstatus,
          Status.empty, Trigger.failureType]
  | some status =>
      constructor <;>
        simp [failureStatus, failureCondition, lastSync, nextSync, leases, hstatus,
          Trigger.failureType]

theorem conclude_of_error {now : Instant} {done : Attempt ε φ τ} {fault : Fault}
    (h : done.result = .error fault) :
    conclude settings unit now done =
      { state := .failed fault, status := some (failureStatus unit fault now),
        requeue := .after settings.retryInterval, reads := done.reads,
        accesses := done.accesses, store := done.store } := by
  unfold conclude
  rw [h]

theorem conclude_of_ok {now : Instant} {done : Attempt ε φ τ} {leases : List Lease}
    {written : Bool} (h : done.result = .ok (leases, written)) :
    conclude settings unit now done =
      { state := .synced written, status := some (successStatus unit leases now),
        requeue := requeueFor (successStatus unit leases now).nextUpdate now,
        reads := done.reads, accesses := done.accesses, store := done.store } := by
  unfold conclude
  rw [h]

theorem reconcile_of_attempted {trigger : Trigger} {now : Instant}
    (h : (reconcile source store state settings unit trigger now).state ≠ .notDue) :
    reconcile source store state settings unit trigger now =
      conclude settings unit now (attempt source store state settings unit) := by
  unfold reconcile at h ⊢
  by_cases hdue : isDue unit trigger now = true
  · rw [if_pos hdue]
  · rw [if_neg hdue] at h
    exact absurd rfl h

/-- A reconciliation that fails has made an attempt that failed. -/
theorem reconcile_of_failed {trigger : Trigger} {now : Instant} {fault : Fault}
    (h : (reconcile source store state settings unit trigger now).state = .failed fault) :
    (attempt source store state settings unit).result = .error fault ∧
      reconcile source store state settings unit trigger now =
        conclude settings unit now (attempt source store state settings unit) := by
  have hreconcile : reconcile source store state settings unit trigger now = _ :=
    reconcile_of_attempted (by rw [h]; exact nofun)
  rw [hreconcile] at h
  refine ⟨?_, hreconcile⟩
  cases hresult : (attempt source store state settings unit).result with
  | error reason =>
      rw [conclude_of_error hresult] at h
      cases h
      rfl
  | ok value =>
      rw [conclude_of_ok hresult] at h
      cases h

/-- A reconciliation that succeeds has made an attempt that succeeded. -/
theorem reconcile_of_synced {trigger : Trigger} {now : Instant} {written : Bool}
    (h : (reconcile source store state settings unit trigger now).state = .synced written) :
    exists leases,
      (attempt source store state settings unit).result = .ok (leases, written) ∧
      reconcile source store state settings unit trigger now =
        conclude settings unit now (attempt source store state settings unit) := by
  have hreconcile : reconcile source store state settings unit trigger now = _ :=
    reconcile_of_attempted (by rw [h]; exact nofun)
  rw [hreconcile] at h
  cases hresult : (attempt source store state settings unit).result with
  | error fault =>
      rw [conclude_of_error hresult] at h
      cases h
  | ok value =>
      rcases value with ⟨leases, stored⟩
      rw [conclude_of_ok hresult] at h
      cases h
      exact ⟨leases, rfl, hreconcile⟩

/-- A failed reconciliation leaves the store as it was, records the fault and nothing else, comes
back after the retry interval, and has not accessed the store unless the fault is one of the
commit. -/
theorem failed_reconcile_changes_condition_only {trigger : Trigger} {now : Instant} {fault : Fault}
    (h : (reconcile source store state settings unit trigger now).state = .failed fault) :
    (reconcile source store state settings unit trigger now).store = state ∧
      (exists status,
        (reconcile source store state settings unit trigger now).status = some status ∧
        RecordsFailure unit fault now status) ∧
      (reconcile source store state settings unit trigger now).requeue =
        .after settings.retryInterval ∧
      (exists stage, EndsIn source store state settings unit stage fault) ∧
      (forall stage, EndsIn source store state settings unit stage fault ->
        stage ≠ .committing ->
        (reconcile source store state settings unit trigger now).accesses = []) := by
  rcases reconcile_of_failed h with ⟨hresult, hreconcile⟩
  have hexits := result_attempt_eq_error.mp hresult
  rw [hreconcile, conclude_of_error hresult]
  refine ⟨?_, ⟨_, rfl, recordsFailure_failureStatus unit fault now⟩, rfl, hexits, ?_⟩
  · rcases hexits with ⟨stage, hends⟩
    rcases attempt_of_endsIn hends with ⟨accesses, heq, _⟩
    rw [heq]
  · intro stage hends hne
    rcases attempt_of_endsIn hends with ⟨accesses, heq, hnone⟩
    rw [heq]
    exact hnone hne

end Failures

/-!
## A sample projection

One password is read and copied into the output by a template.
-/

namespace Sample

def settings : Settings := ⟨.ofSeconds 5, .ofSeconds 30⟩

def definition : Definition := ⟨"db", ⟨some ⟨"kubernetes", "app", "default"⟩, none, none⟩, "kv/db"⟩

/-- The projection with a template and a record of the last attempt. -/
def projection (template : String) (status : Option Status) : Projection where
  metadata := { Cluster.Metadata.empty with
    name := some "app", namespaceName := some "team-a", uid := some "uid-1", generation := some 1 }
  spec := {
    refreshPeriod := none, refreshThreshold := 90, definitions := [definition]
    output := ⟨"app-creds", "Opaque", .ofList [("password", template)], .empty, .empty⟩ }
  status

/-- The record of a success at the start of time. -/
def record : Status := ⟨[], some .epoch, none, [⟨"db", "lease-1", 100, true⟩]⟩

def script (password : String) : Script where
  identities := .empty
  paths := .ofList
    [("kv/db", ⟨.zero, none, ⟨.ofList [("password", .string password)], "", 0, false⟩⟩)]

def refusing : Output.Memory :=
  { Output.Memory.empty with onWrite := ⟨.zero, some ⟨.outputWrite, "refused"⟩⟩ }

def refusedWrite : Outcome String String Output.Memory :=
  reconcile (script "p").toSource Output.Memory.toStore refusing settings
    (projection "{{ .db.password }}" (some record)) (.forced .specChanged) .epoch

end Sample

theorem refusedWrite_changes_condition_only :
    Sample.refusedWrite.state = .failed ⟨.outputWrite, "refused"⟩ ∧
      Sample.refusedWrite.store = Sample.refusing ∧
      (exists status, Sample.refusedWrite.status = some status ∧
        RecordsFailure (Sample.projection "{{ .db.password }}" (some Sample.record))
          ⟨.outputWrite, "refused"⟩ .epoch status) ∧
      Sample.refusedWrite.requeue = .after (.ofSeconds 30) := by
  have hstate : Sample.refusedWrite.state = .failed ⟨.outputWrite, "refused"⟩ := by
    decide +kernel
  rcases failed_reconcile_changes_condition_only hstate with ⟨hstore, hstatus, hrequeue, _⟩
  exact ⟨hstate, hstore, hstatus, hrequeue⟩

end Sync

end SecretProjection
