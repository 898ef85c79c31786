import SecretProjection.Controller
import SecretProjection.Proofs.Edits
import SecretProjection.Proofs.Output
import SecretProjection.Proofs.WakeUps

/-!
# Quiescence

A success leaves behind a status, which may be written and read back, and an output secret.  As
long as spec and generation stay what they were, and the data of the secret and the digest beside
it too, no event leads to another synchronisation before the next one is due.  What else changes
does not matter: neither the other metadata and the rest of the secret, nor what the source holds.

A reconciliation that finds nothing due returns no status and asks nobody, so that it changes
nothing either.
-/

namespace SecretProjection

universe u v w x

namespace Sync

open Cluster Projection Trigger

/-!
## Decisions
-/

theorem classify_of_settled {unit : Projection} {existing : Option Secret} {now : Instant}
    {retryInterval : Duration} (hspec : specChanged unit = false)
    (hattempt : lastAttemptFailed unit = false) (hdrift : outputDrifted unit existing = false) :
    classify unit existing now retryInterval = .sync .scheduled := by
  unfold classify
  rw [hspec, hattempt, hdrift]
  rfl

theorem hashMatches_congr {first second : Secret}
    (hdata : Output.filled first.data = Output.filled second.data)
    (hdigest : (Output.filled first.metadata.annotations).get? Output.hashAnnotation =
      (Output.filled second.metadata.annotations).get? Output.hashAnnotation) :
    hashMatches first = hashMatches second := by
  unfold hashMatches
  rw [hdata, hdigest]

/-!
## After a success
-/

/-- A projection and its output, as they are found some time after a success with a status and a
secret: the status was kept, and of everything else only what tells an edit is still the same. -/
structure Undisturbed (unit : Projection) (status : Status) (secret : Secret)
    (later : Projection) (existing : Secret) : Prop where
  spec : later.spec = unit.spec
  generation : later.metadata.generation = unit.metadata.generation
  status : exists found, status.Kept found ∧ later.status = some found
  data : Output.filled existing.data = Output.filled secret.data
  digest : (Output.filled existing.metadata.annotations).get? Output.hashAnnotation =
    (Output.filled secret.metadata.annotations).get? Output.hashAnnotation

section Records

variable {unit later : Projection} {leases : List Lease} {now : Instant}
variable {secret existing : Secret}

/-- What is found of the status of a success. -/
structure ShowsRecord (unit later : Projection) (leases : List Lease) (now last : Instant) :
    Prop where
  lastSync : later.lastSync = some last
  leases : later.leases = leases
  unchanged : specChanged later = false
  succeeded : lastAttemptFailed later = false
  time : last = now ∨ last = now.wholeSecond

theorem showsRecord_of_condition {status : Status} {last time : Instant}
    (hgeneration : later.metadata.generation = unit.metadata.generation)
    (hstatus : later.status = some status)
    (hconditions : status.conditions = [successCondition unit time])
    (hlast : status.lastUpdate = some last) (hleases : status.leases = leases)
    (htime : last = now ∨ last = now.wholeSecond) :
    ShowsRecord unit later leases now last where
  lastSync := by rw [Projection.lastSync, hstatus, Option.bind_some, hlast]
  leases := by rw [Projection.leases, hstatus, Option.map_some, hleases, Option.getD_some]
  unchanged := by
    rw [specChanged_eq hstatus hconditions, hgeneration]
    simp [successCondition]
  succeeded := by
    rw [lastAttemptFailed_eq hstatus hconditions]
    simp [successCondition, successType, failureType]
  time := htime

theorem showsRecord_of_undisturbed
    (h : Undisturbed unit (successStatus unit leases now) secret later existing) :
    exists last, ShowsRecord unit later leases now last := by
  rcases h.status with ⟨found, hkept, hstatus⟩
  rcases hkept.eq_or with rfl | rfl
  · exact ⟨now, showsRecord_of_condition h.generation hstatus rfl rfl rfl (.inl rfl)⟩
  · exact ⟨now.wholeSecond,
      showsRecord_of_condition h.generation hstatus rfl rfl rfl (.inr rfl)⟩

/-- The schedule finds nothing due before the time planned for the recorded success. -/
theorem isDue_of_showsRecord {interval : Option Duration} {last t : Instant}
    (hspec : later.spec = unit.spec)
    (hinterval : Schedule.interval unit.spec leases = .ok interval)
    (hrecord : ShowsRecord unit later leases now last)
    (h : forall length next, interval = some length -> last.after? length = some next ->
      t < next) : isDue later .scheduled t = false := by
  unfold isDue
  simp only [hspec, hrecord.leases, hinterval, hrecord.lastSync, Schedule.isDue_eq_false h]

end Records

section Successes

variable {ε : Type u} {σ : Type v} {φ : Type w} {τ : Type x}
variable {source : SecretSource ε σ} {store : Output.Store φ τ} {state : τ}
variable {settings : Settings} {unit : Projection} {trigger : Trigger} {now : Instant}

theorem exists_carries_of_attempt {stored : τ -> String -> String -> Option Secret}
    (hstore : store.Keeps stored) {leases : List Lease} {written : Bool}
    (h : (attempt source store state settings unit).result = .ok (leases, written)) :
    exists document secret,
      stored (attempt source store state settings unit).store unit.metadata.namespaceText
        unit.spec.output.name = some secret ∧
      Output.Carries unit document secret := by
  rcases stages_of_attempt h with ⟨aggregate, document, done, _, hrender, hcommit, _, _, hafter⟩
  rcases Output.exists_carries_of_commit hstore (Timed.result_within_eq_ok.mp hcommit).2 with
    ⟨secret, hsecret, hcarries⟩
  rcases Document.render_eq_ok.mp hrender with ⟨fields, _, rfl⟩
  refine ⟨_, secret, ?_, hcarries⟩
  rw [hafter]
  exact hsecret

/-- After a success, in whatever undisturbed state, every event before the recorded time of the
success and one interval is left to the schedule, which finds nothing due: there is no new status,
nothing is asked of the source or the store, and the handling of the event asks nothing of the
cluster. -/
theorem quiet_until_due {stored : τ -> String -> String -> Option Secret}
    (hstore : store.Keeps stored) {written : Bool}
    (h : (reconcile source store state settings unit trigger now).state = .synced written) :
    exists secret status interval,
      stored (reconcile source store state settings unit trigger now).store
        unit.metadata.namespaceText unit.spec.output.name = some secret ∧
      (reconcile source store state settings unit trigger now).status = some status ∧
      Schedule.interval unit.spec status.leases = .ok interval ∧
      forall later existing, Undisturbed unit status secret later existing ->
        exists last, later.lastSync = some last ∧ (last = now ∨ last = now.wholeSecond) ∧
          forall t : Instant,
            (forall length next, interval = some length -> last.after? length = some next ->
              t < next) ->
            (forall retryInterval,
              classify later (some existing) t retryInterval = .sync .scheduled) ∧
            (forall (source : SecretSource ε σ) (store : Output.Store φ τ) (state : τ)
                (settings : Settings),
              reconcile source store state settings later .scheduled t =
                { state := .notDue, status := none, requeue := rearm later t, reads := [],
                  accesses := [], store := state }) ∧
            (forall (ρ : Type) (api : Api ρ) (source : ρ -> SecretSource ε σ)
                (settings : Settings) (state : ρ),
              Controller.settle api source settings state later (some existing) t =
                ⟨.ok (rearm later t), [], [], [], state⟩) := by
  rcases reconcile_of_synced h with ⟨leases, hresult, hreconcile⟩
  rcases exists_carries_of_attempt hstore hresult with ⟨document, secret, hsecret, hcarries⟩
  rcases Schedule.exists_interval (of_attempt_eq_ok hresult).1 leases with ⟨interval, hinterval⟩
  rw [hreconcile, conclude_of_ok hresult]
  refine ⟨secret, successStatus unit leases now, interval, hsecret, rfl, hinterval, ?_⟩
  intro later existing hfound
  rcases showsRecord_of_undisturbed hfound with ⟨last, hrecord⟩
  refine ⟨last, hrecord.lastSync, hrecord.time, ?_⟩
  intro t ht
  have hdigest : hashMatches existing = true := by
    rw [hashMatches_congr hfound.data hfound.digest]
    exact hcarries.hashMatches
  have hclassify : forall retryInterval,
      classify later (some existing) t retryInterval = .sync .scheduled := by
    intro retryInterval
    exact classify_of_settled hrecord.unchanged hrecord.succeeded
      (not_outputDrifted_of_hashMatches hdigest)
  have hnot : isDue later .scheduled t = false :=
    isDue_of_showsRecord hfound.spec hinterval hrecord ht
  refine ⟨hclassify, fun _ _ _ _ => reconcile_of_not_due hnot, ?_⟩
  intro ρ api source settings state
  unfold Controller.settle
  rw [hclassify]
  simp only [reconcile_of_not_due hnot, Controller.finish]

end Successes

/-!
## A relabelled projection

The sample projection with a period of ninety seconds is synchronised, stored and given a label,
and somebody takes the type off its output.
-/

namespace Sample

def relabelled : Projection :=
  { periodicLater with
    metadata := { periodicLater.metadata with labels := some (.ofList [("team", "a")]) } }

def untyped (secret : Secret) : Secret := { secret with type := none }

/-- One minute after the start of time. -/
def minute : Instant := ⟨60000000000, by decide, by decide⟩

end Sample

theorem relabelled_stays_quiet :
    exists secret,
      Output.Memory.stored Sample.periodicSync.store "team-a" "app-creds" = some secret ∧
        classify Sample.relabelled (some (Sample.untyped secret)) Sample.minute
          (.ofSeconds 30) = .sync .scheduled ∧
        (reconcile (Sample.script "q").toSource Output.Memory.toStore Output.Memory.empty
          Sample.settings Sample.relabelled .scheduled Sample.minute).state = .notDue := by
  have hstate : Sample.periodicSync.state = .synced true := by decide +kernel
  have hrecorded : Sample.periodicSync.status = some Sample.periodicStatus := by decide +kernel
  have hperiod : Schedule.interval Sample.periodic.spec Sample.periodicStatus.leases =
      .ok (some (.ofSeconds 90)) := by decide +kernel
  rcases quiet_until_due Output.Memory.keeps_stored hstate with
    ⟨secret, status, interval, hsecret, hstatus, hinterval, hquiet⟩
  have heq : Sample.periodicStatus = status :=
    Option.some.inj (hrecorded.symm.trans hstatus)
  subst heq
  rw [hperiod] at hinterval
  cases hinterval
  have hfound : Undisturbed Sample.periodic Sample.periodicStatus secret Sample.relabelled
      (Sample.untyped secret) :=
    ⟨rfl, rfl, ⟨_, .rewritten .same (Status.readsBack.read _), rfl⟩, rfl, rfl⟩
  rcases hquiet _ _ hfound with ⟨last, hlast, _, hbefore⟩
  have hbound : forall length next, some (Duration.ofSeconds 90) = some length ->
      last.after? length = some next -> Sample.minute < next := by
    intro length next hlength hnext
    cases hlength
    cases hlast
    rw [Instant.lt_iff, Instant.nanoseconds_after?.mp hnext]
    decide
  rcases hbefore Sample.minute hbound with ⟨hclassify, hreconcile, _⟩
  exact ⟨secret, hsecret, hclassify _, by rw [hreconcile]⟩

end Sync

end SecretProjection
