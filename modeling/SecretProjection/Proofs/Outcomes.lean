import Mathlib.Data.List.Forall2
import SecretProjection.Proofs.Attempt
import SecretProjection.Proofs.Gathering
import SecretProjection.Proofs.Schedule

/-!
# Outcomes

What a reconciliation reports is one of three things: that nothing was due, that the attempt
failed, or that it succeeded.  A success reports one lease for each definition, with the name of
the definition and what the read of the definition has said, and the time planned next comes from
an interval that the spec really has.
-/

namespace SecretProjection

universe u v w x

open Projection

/-!
## Leases
-/

/-- The leases that the reads of some definitions give, one for each definition and in their
order.  Each definition is read at its position. -/
def SecretSource.Grants {ε : Type u} {σ : Type v} (source : SecretSource ε σ) (space : String)
    (definitions : List Definition) (leases : List Lease) : Prop :=
  List.Forall₂
    (fun request lease => exists reading,
      ((source request.2).readDefinition space request.1).result = .ok reading ∧
        lease = ⟨request.1.name, reading.leaseId, reading.leaseDuration, reading.renewable⟩)
    definitions.zipIdx leases

namespace Aggregate

variable {ε : Type u} {σ : Type v} {source : SecretSource ε σ} {space : String}

theorem leases_addAll (pairs : List (Definition × Reading)) (aggregate : Aggregate) :
    (aggregate.addAll pairs).leases =
      aggregate.leases ++ pairs.map fun pair => pair.2.lease pair.1.name := by
  induction pairs generalizing aggregate with
  | nil => simp [addAll]
  | cons pair rest ih => simp [addAll, ih]

theorem grants_of_results {definitions : List Definition} {readings : List Reading}
    (h : (source.attempts space definitions).map (·.result) = readings.map .ok) :
    source.Grants space definitions
      ((definitions.zip readings).map fun pair => pair.2.lease pair.1.name) := by
  rw [SecretSource.attempts, List.map_map] at h
  unfold SecretSource.Grants
  -- The definitions may stand behind others, so that their positions start anywhere.
  generalize 0 = start at h ⊢
  induction definitions generalizing start readings with
  | nil => exact .nil
  | cons definition rest ih =>
      cases readings with
      | nil => cases h
      | cons reading others =>
          injection h with hfirst hrest
          exact .cons ⟨reading, hfirst, rfl⟩ (ih (start + 1) hrest)

theorem grants_of_read {definitions : List Definition} {aggregate : Aggregate}
    (h : (read source space definitions).result = .ok aggregate) :
    source.Grants space definitions aggregate.leases := by
  unfold read at h
  cases hname : repeatedName? [] definitions with
  | some name =>
      rw [hname] at h
      cases h
  | none =>
      rw [hname] at h
      rcases Timed.result_map_eq_ok.mp h with ⟨readings, hall, rfl⟩
      rw [leases_addAll]
      exact grants_of_results (Timed.results_of_all hall)

end Aggregate

namespace Sync

section Outcomes

variable {ε : Type u} {σ : Type v} {φ : Type w} {τ : Type x}
variable {source : SecretSource ε σ} {store : Output.Store φ τ} {state : τ}
variable {settings : Settings} {unit : Projection} {trigger : Trigger} {now : Instant}

theorem of_attempt_eq_ok {leases : List Lease} {written : Bool}
    (h : (attempt source store state settings unit).result = .ok (leases, written)) :
    Schedule.validate unit.spec = .ok () ∧
      source.Grants unit.metadata.namespaceText unit.spec.definitions leases := by
  have hending : Ending source store state settings unit _ := ending_attempt
  generalize attempt source store state settings unit = done at h hending
  cases hending with
  | unread _ => cases h
  | unrendered _ _ => cases h
  | uncommitted _ _ _ => cases h
  | committed hread _ _ =>
      cases h
      rcases result_gather_eq_ok.mp hread with ⟨hvalid, _, hresult⟩
      exact ⟨hvalid, Aggregate.grants_of_read hresult⟩

/-!
## Reports
-/

/-- The status of a success with its leases and its interval. -/
def successRecord (unit : Projection) (now : Instant) (interval : Option Duration)
    (leases : List Lease) : Status where
  conditions := [successCondition unit now]
  lastUpdate := some now
  nextUpdate := Schedule.next interval (some now)
  leases := leases

/-- The state that a reconciliation reaches, with the status that it returns and the time of the
next one. -/
inductive Reports (source : SecretSource ε σ) (settings : Settings) (unit : Projection)
    (now : Instant) : State -> Option Status -> Requeue -> Prop where
  | notDue : Reports source settings unit now .notDue none (rearm unit now)
  | failed (fault : Fault) :
      Reports source settings unit now (.failed fault) (some (failureStatus unit fault now))
        (.after settings.retryInterval)
  | synced {leases : List Lease} {interval : Option Duration} (written : Bool) :
      Schedule.validate unit.spec = .ok () ->
      source.Grants unit.metadata.namespaceText unit.spec.definitions leases ->
      Schedule.interval unit.spec leases = .ok interval ->
      Reports source settings unit now (.synced written)
        (some (successRecord unit now interval leases))
        (requeueFor (Schedule.next interval (some now)) now)

theorem intervalOf_eq {spec : Spec} {leases : List Lease} {interval : Option Duration}
    (h : Schedule.interval spec leases = .ok interval) : intervalOf spec leases = interval := by
  unfold intervalOf
  rw [h]

theorem successStatus_eq {leases : List Lease} {interval : Option Duration}
    (h : Schedule.interval unit.spec leases = .ok interval) :
    successStatus unit leases now = successRecord unit now interval leases := by
  unfold successStatus successRecord
  rw [intervalOf_eq h]

theorem reports_conclude :
    let outcome := conclude settings unit now (attempt source store state settings unit)
    Reports source settings unit now outcome.state outcome.status outcome.requeue := by
  cases hresult : (attempt source store state settings unit).result with
  | error fault =>
      rw [conclude_of_error hresult]
      exact .failed fault
  | ok value =>
      rcases value with ⟨leases, written⟩
      rcases of_attempt_eq_ok hresult with ⟨hvalid, hgrants⟩
      rcases Schedule.exists_interval hvalid leases with ⟨interval, hinterval⟩
      rw [conclude_of_ok hresult, successStatus_eq hinterval]
      exact .synced written hvalid hgrants hinterval

theorem reconcile_of_not_due (h : isDue unit trigger now = false) :
    reconcile source store state settings unit trigger now =
      { state := .notDue, status := none, requeue := rearm unit now, reads := [], accesses := [],
        store := state } := by
  unfold reconcile
  rw [h]
  rfl

/-- A reconciliation makes one of the three reports. -/
theorem reports_reconcile :
    let outcome := reconcile source store state settings unit trigger now
    Reports source settings unit now outcome.state outcome.status outcome.requeue := by
  unfold reconcile
  by_cases hdue : isDue unit trigger now = true
  · rw [if_pos hdue]
    exact reports_conclude
  · rw [if_neg hdue]
    exact .notDue

end Outcomes

end Sync

end SecretProjection
