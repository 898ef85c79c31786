import SecretProjection.Proofs.Outcomes

/-!
# Valid specs

The validation of a spec looks at the threshold and at the period apart from each other, while the
interval is taken from the one or from the other.  Still the validation is just strict enough: a
spec that passes has an interval whatever the leases say, so that nothing is hidden when a fault of
the interval is passed over, and the interval is never zero, so that a success is not due again at
once.  A spec that does not pass is reported before anything is asked of the source or the store.
-/

namespace SecretProjection

universe u v w x

namespace Sync

open Projection

section Validity

variable {ε : Type u} {σ : Type v} {φ : Type w} {τ : Type x}
variable {source : SecretSource ε σ} {store : Output.Store φ τ} {state : τ}
variable {settings : Settings} {unit later : Projection} {trigger : Trigger} {now : Instant}

/-!
## Specs that pass
-/

/-- A valid spec whose success has just been recorded leaves nothing for the schedule to do. -/
theorem isDue_of_success {leases : List Lease} {interval : Option Duration}
    (hvalid : Schedule.validate unit.spec = .ok ())
    (hinterval : Schedule.interval unit.spec leases = .ok interval)
    (hspec : later.spec = unit.spec)
    (hstatus : later.status = some (successRecord unit now interval leases)) :
    isDue later .scheduled now = false := by
  have hleases : later.leases = leases := by
    unfold Projection.leases
    rw [hstatus]
    rfl
  have hlast : later.lastSync = some now := by
    unfold Projection.lastSync
    rw [hstatus]
    rfl
  have hlater : forall length next, interval = some length -> now.after? length = some next ->
      now < next := by
    intro length next hlength hnext
    rw [hlength] at hinterval
    have hpos := Schedule.interval_pos hvalid hinterval
    have htime := Instant.nanoseconds_after?.mp hnext
    rw [Instant.lt_iff]
    omega
  unfold isDue
  simp only [hspec, hleases, hlast, hinterval, Schedule.isDue_eq_false hlater]

/-!
## Specs that are refused
-/

/-- Whatever the source and the store are, a refused spec leads to the same outcome. -/
theorem reconcile_of_refused {fault : SpecFault}
    (hrefused : Schedule.validate unit.spec = .error fault)
    (hdue : isDue unit trigger now = true) :
    reconcile source store state settings unit trigger now =
      { state := .failed fault.toFault
        status := some (failureStatus unit fault.toFault now)
        requeue := .after settings.retryInterval
        reads := [], accesses := [], store := state } := by
  have hgather : gather source settings unit = .fail fault.toFault := by
    unfold gather
    rw [hrefused]
  have hattempt : attempt source store state settings unit =
      ⟨.error fault.toFault, [], [], state⟩ := by
    rw [attempt_of_unread (result_gather_of_refused hrefused), hgather]
    rfl
  unfold reconcile
  rw [if_pos hdue, hattempt]
  rfl

/-- The validation tells specs with a usable schedule from those that are refused.  A valid spec
has an interval for all leases, which is not zero, and the recorded time of the next
synchronisation is reckoned with it; a success is not due again at its own time.  With a spec that
is not valid, a reconciliation that is forced or due fails without a request to the source or the
store. -/
theorem validation_settles_schedule (source : SecretSource ε σ) (store : Output.Store φ τ)
    (state : τ) (settings : Settings) (unit : Projection) (trigger : Trigger) (now : Instant) :
    (Schedule.validate unit.spec = .ok () ->
      forall leases, exists interval,
        Schedule.interval unit.spec leases = .ok interval ∧
          intervalOf unit.spec leases = interval ∧
          forall length, interval = some length -> 0 < length.nanoseconds) ∧
    (forall written,
      (reconcile source store state settings unit trigger now).state = .synced written ->
      exists status interval,
        (reconcile source store state settings unit trigger now).status = some status ∧
        Schedule.interval unit.spec status.leases = .ok interval ∧
        status.nextUpdate = Schedule.next interval (some now) ∧
        forall later : Projection, later.spec = unit.spec -> later.status = some status ->
          forall after,
            (reconcile source store after settings later .scheduled now).state = .notDue) ∧
    (forall fault, Schedule.validate unit.spec = .error fault ->
      isDue unit trigger now = true ->
      reconcile source store state settings unit trigger now =
        { state := .failed fault.toFault
          status := some (failureStatus unit fault.toFault now)
          requeue := .after settings.retryInterval
          reads := [], accesses := [], store := state }) := by
  refine ⟨?_, ?_, fun _ => reconcile_of_refused⟩
  · intro hvalid leases
    rcases Schedule.exists_interval hvalid leases with ⟨interval, hinterval⟩
    refine ⟨interval, hinterval, intervalOf_eq hinterval, ?_⟩
    intro length hlength
    rw [hlength] at hinterval
    exact Schedule.interval_pos hvalid hinterval
  · intro written hstate
    have hreport : Reports source settings unit now
        (reconcile source store state settings unit trigger now).state
        (reconcile source store state settings unit trigger now).status
        (reconcile source store state settings unit trigger now).requeue := reports_reconcile
    generalize reconcile source store state settings unit trigger now = outcome
      at hstate hreport ⊢
    rw [hstate] at hreport
    generalize outcome.status = found, outcome.requeue = requeue at hreport ⊢
    cases hreport with
    | @synced leases interval _ hvalid _ hinterval =>
        refine ⟨_, interval, rfl, hinterval, rfl, ?_⟩
        intro later hspec hstatus after
        rw [reconcile_of_not_due (isDue_of_success hvalid hinterval hspec hstatus)]

end Validity

/-!
## A period that rounds to nothing

Four tenths of a nanosecond are a duration, but one of no length.
-/

namespace Sample

/-- The sample projection with a period of its own. -/
def every (period : String) : Projection :=
  { projection "\x7b\x7b .db.password \x7d\x7d" none with
    spec := { (projection "\x7b\x7b .db.password \x7d\x7d" none).spec with
      refreshPeriod := some period } }

def hastySync : Outcome String String Output.Memory :=
  reconcile (script "p").toSource Output.Memory.toStore .empty settings (every "0.4ns")
    (.forced .outputDrift) .epoch

def shortSync : Outcome String String Output.Memory :=
  reconcile (script "p").toSource Output.Memory.toStore .empty settings (every "0.6ns")
    .scheduled .epoch

end Sample

theorem shortest_period_schedules :
    (Schedule.validate (Sample.every "0.6ns").spec = .ok () ∧
      Sample.shortSync.state = .synced true ∧
      forall status, Sample.shortSync.status = some status ->
        (reconcile (Sample.script "p").toSource Output.Memory.toStore Sample.shortSync.store
          Sample.settings { Sample.every "0.6ns" with status := some status } .scheduled
          .epoch).state = .notDue) ∧
    (Schedule.validate (Sample.every "0.4ns").spec = .error .zeroPeriod ∧
      Sample.hastySync.reads = [] ∧ Sample.hastySync.accesses = []) := by
  have hvalid : Schedule.validate (Sample.every "0.6ns").spec = .ok () :=
    ok_of_toOption (by decide +kernel)
  have hsynced : Sample.shortSync.state = .synced true := by decide +kernel
  have hrefused : Schedule.validate (Sample.every "0.4ns").spec = .error .zeroPeriod := by
    decide +kernel
  refine ⟨⟨hvalid, hsynced, ?_⟩, hrefused, ?_⟩
  · rcases (validation_settles_schedule (Sample.script "p").toSource Output.Memory.toStore .empty
      Sample.settings (Sample.every "0.6ns") .scheduled .epoch).2.1 true hsynced with
      ⟨recorded, _, hrecorded, _, _, hquiet⟩
    intro status hstatus
    cases hrecorded.symm.trans hstatus
    exact hquiet { Sample.every "0.6ns" with status := some recorded } rfl rfl _
  · have houtcome := (validation_settles_schedule (Sample.script "p").toSource
      Output.Memory.toStore .empty Sample.settings (Sample.every "0.4ns") (.forced .outputDrift)
      .epoch).2.2 .zeroPeriod hrefused rfl
    have hsync : Sample.hastySync = _ := houtcome
    rw [hsync]
    exact ⟨rfl, rfl⟩

end Sync

end SecretProjection
