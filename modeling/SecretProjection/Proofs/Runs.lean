import SecretProjection.Proofs.Outcomes
import SecretProjection.Proofs.StoredForms

/-!
# Runs

A projection is reconciled again and again.  In between its spec is edited, it is written and read
back, the source changes, and others change or delete what is stored.  The status that a
reconciliation returns is recorded, or it is lost on the way.

A run keeps the list of what has happened, the newest first, and every reconciliation in it comes
with the projection, the source and the time that it worked with.  Two invariants tie the status
to this list: times and leases are those of the latest success that was recorded, and the
condition is that of the latest attempt that was recorded, whether it succeeded or not.
-/

namespace SecretProjection

universe u v w x

namespace Sync

open Cluster Projection

/-!
## Steps and runs
-/

/-- What reconciliations work with.  A store keeps its secrets in states `τ`. -/
structure World (ε : Type u) (σ : Type v) (τ : Type w) where
  unit : Projection
  source : SecretSource ε σ
  state : τ

/-- A reconciliation with what it worked with and the state that it reached. -/
structure Reconciliation (ε : Type u) (σ : Type v) where
  unit : Projection
  source : SecretSource ε σ
  time : Instant
  state : State

inductive Happening (ε : Type u) (σ : Type v) where
  | recorded (done : Reconciliation ε σ)
  /-- A reconciliation whose status was lost. -/
  | unrecorded (done : Reconciliation ε σ)
  | edited (generation : Option Int64)
  /-- The projection was written and read back. -/
  | rewritten
  /-- Something else than the projection has changed. -/
  | disturbed

/-- A projection with the status of an outcome, if there is one. -/
def withRecord (unit : Projection) (status : Option Status) : Projection :=
  { unit with status := status.or unit.status }

/-- A projection with another spec of another generation. -/
def edit (unit : Projection) (spec : Spec) (generation : Option Int64) : Projection :=
  { unit with spec, metadata := { unit.metadata with generation } }

section Runs

variable {ε : Type u} {σ : Type v} {φ : Type w} {τ : Type x}
variable (store : Output.Store φ τ) (settings : Settings)

def World.reconcile (world : World ε σ τ) (trigger : Trigger) (now : Instant) : Outcome ε φ τ :=
  Sync.reconcile world.source store world.state settings world.unit trigger now

inductive Step : World ε σ τ -> Happening ε σ -> World ε σ τ -> Prop where
  | recorded {world : World ε σ τ} {trigger : Trigger} {now : Instant} {outcome : Outcome ε φ τ} :
      world.reconcile store settings trigger now = outcome ->
      Step world (.recorded ⟨world.unit, world.source, now, outcome.state⟩)
        ⟨withRecord world.unit outcome.status, world.source, outcome.store⟩
  | unrecorded {world : World ε σ τ} {trigger : Trigger} {now : Instant}
      {outcome : Outcome ε φ τ} :
      world.reconcile store settings trigger now = outcome ->
      Step world (.unrecorded ⟨world.unit, world.source, now, outcome.state⟩)
        ⟨world.unit, world.source, outcome.store⟩
  | edited (world : World ε σ τ) (spec : Spec) (generation : Option Int64) :
      Step world (.edited generation)
        ⟨edit world.unit spec generation, world.source, world.state⟩
  | rewritten (world : World ε σ τ) {unit : Projection} :
      Projection.ofJson? world.unit.toJson = some unit ->
      Step world .rewritten ⟨unit, world.source, world.state⟩
  | disturbed (world : World ε σ τ) (source : SecretSource ε σ) (state : τ) :
      Step world .disturbed ⟨world.unit, source, state⟩

/-- The worlds that are reached from a first one, with what has happened on the way. -/
inductive Run (start : World ε σ τ) : List (Happening ε σ) -> World ε σ τ -> Prop where
  | start : Run start [] start
  | step {past : List (Happening ε σ)} {happening : Happening ε σ} {world next : World ε σ τ} :
      Run start past world -> Step store settings world happening next ->
      Run start (happening :: past) next

end Runs

/-!
## What was recorded last
-/

namespace State

def isSynced : State -> Bool
  | .synced _ => true
  | _ => false

def isAttempt : State -> Bool
  | .notDue => false
  | _ => true

end State

section Past

variable {ε : Type u} {σ : Type v}

/-- The latest recorded reconciliation that reached one of some states, and whether the projection
was rewritten since. -/
def latest (counts : State -> Bool) :
    List (Happening ε σ) -> Option (Reconciliation ε σ × Bool)
  | [] => none
  | .recorded done :: past => if counts done.state then some (done, false) else latest counts past
  | .rewritten :: past => (latest counts past).map fun found => (found.1, true)
  | _ :: past => latest counts past

theorem of_latest {counts : State -> Bool} {past : List (Happening ε σ)}
    {done : Reconciliation ε σ} {rewritten : Bool}
    (h : latest counts past = some (done, rewritten)) :
    .recorded done ∈ past ∧ counts done.state = true := by
  induction past generalizing rewritten with
  | nil => cases h
  | cons happening past ih =>
      cases happening with
      | recorded first =>
          unfold latest at h
          by_cases hcounts : counts first.state = true
          · rw [if_pos hcounts] at h
            cases h
            exact ⟨List.mem_cons_self, hcounts⟩
          · rw [if_neg hcounts] at h
            rcases ih h with ⟨hmem, hstate⟩
            exact ⟨List.mem_cons_of_mem _ hmem, hstate⟩
      | rewritten =>
          unfold latest at h
          rcases Option.map_eq_some_iff.mp h with ⟨⟨other, before⟩, hfound, heq⟩
          cases heq
          rcases ih hfound with ⟨hmem, hstate⟩
          exact ⟨List.mem_cons_of_mem _ hmem, hstate⟩
      | unrecorded _ | edited _ | disturbed =>
          rcases ih h with ⟨hmem, hstate⟩
          exact ⟨List.mem_cons_of_mem _ hmem, hstate⟩

/-- A time as it is seen after a projection was rewritten, or else as it is. -/
def seen (rewritten : Bool) (t : Instant) : Instant := if rewritten then t.wholeSecond else t

theorem wholeSecond_seen (rewritten : Bool) (t : Instant) :
    (seen rewritten t).wholeSecond = seen true t := by
  cases rewritten with
  | false => rfl
  | true => exact t.wholeSecond_wholeSecond

/-- The condition of an attempt. -/
def Reconciliation.condition (done : Reconciliation ε σ) (time : Instant) : Condition :=
  match done.state with
  | .failed fault =>
      { type := "ReconcileFailed", status := "False", reason := fault.reason,
        message := fault.message, observedGeneration := done.unit.metadata.generation,
        lastTransitionTime := time }
  | _ =>
      { type := "ReconcileSuccessful", status := "True", reason := successReason, message := "",
        observedGeneration := done.unit.metadata.generation, lastTransitionTime := time }

theorem Reconciliation.stored_condition (done : Reconciliation ε σ) (time : Instant) :
    (done.condition time).stored = done.condition time.wholeSecond := by
  unfold Reconciliation.condition
  cases done.state <;> rfl

/-!
## Successes
-/

/-- Times and leases of a projection are those of a success. -/
structure SuccessShown (done : Reconciliation ε σ) (rewritten : Bool) (unit : Projection) :
    Prop where
  lastSync : unit.lastSync = some (seen rewritten done.time)
  nextSync : exists interval,
    Schedule.interval done.unit.spec unit.leases = .ok interval ∧
      unit.nextSync = (Schedule.next interval (some done.time)).map (seen rewritten)
  leases : done.source.Grants done.unit.metadata.namespaceText done.unit.spec.definitions
    unit.leases

/-- A projection without times and leases. -/
structure NoSuccessShown (unit : Projection) : Prop where
  lastSync : unit.lastSync = none
  nextSync : unit.nextSync = none
  leases : unit.leases = []

/-- Times and leases are those of the latest recorded success. -/
def ShowsSuccess (past : List (Happening ε σ)) (unit : Projection) : Prop :=
  match latest State.isSynced past with
  | none => NoSuccessShown unit
  | some (done, rewritten) => SuccessShown done rewritten unit

theorem NoSuccessShown.of_eq {unit next : Projection} (h : NoSuccessShown unit)
    (hlast : next.lastSync = unit.lastSync) (hnext : next.nextSync = unit.nextSync)
    (hleases : next.leases = unit.leases) : NoSuccessShown next where
  lastSync := hlast.trans h.lastSync
  nextSync := hnext.trans h.nextSync
  leases := hleases.trans h.leases

theorem SuccessShown.of_eq {done : Reconciliation ε σ} {rewritten : Bool}
    {unit next : Projection} (h : SuccessShown done rewritten unit)
    (hlast : next.lastSync = unit.lastSync) (hnext : next.nextSync = unit.nextSync)
    (hleases : next.leases = unit.leases) : SuccessShown done rewritten next where
  lastSync := hlast.trans h.lastSync
  nextSync := by
    rw [hnext, hleases]
    exact h.nextSync
  leases := hleases ▸ h.leases

theorem SuccessShown.stored {done : Reconciliation ε σ} {rewritten : Bool} {unit : Projection}
    (h : SuccessShown done rewritten unit) : SuccessShown done true unit.stored where
  lastSync := by rw [lastSync_stored, h.lastSync, Option.map_some, wholeSecond_seen]
  nextSync := by
    rcases h.nextSync with ⟨interval, hinterval, hnext⟩
    refine ⟨interval, by rwa [leases_stored], ?_⟩
    rw [nextSync_stored, hnext, Option.map_map]
    congr 1
    funext t
    exact wholeSecond_seen rewritten t
  leases := by
    rw [leases_stored]
    exact h.leases

theorem showsSuccess_of_eq {past : List (Happening ε σ)} {unit next : Projection}
    (h : ShowsSuccess past unit) (hlast : next.lastSync = unit.lastSync)
    (hnext : next.nextSync = unit.nextSync) (hleases : next.leases = unit.leases) :
    ShowsSuccess past next := by
  unfold ShowsSuccess at h ⊢
  cases hlatest : latest State.isSynced past with
  | none =>
      rw [hlatest] at h
      exact h.of_eq hlast hnext hleases
  | some found =>
      rw [hlatest] at h
      exact h.of_eq hlast hnext hleases

theorem showsSuccess_of_latest_eq {past later : List (Happening ε σ)} {unit : Projection}
    (h : ShowsSuccess past unit)
    (hlatest : latest State.isSynced later = latest State.isSynced past) :
    ShowsSuccess later unit := by
  unfold ShowsSuccess at h ⊢
  rwa [hlatest]

theorem showsSuccess_record {past : List (Happening ε σ)} {source : SecretSource ε σ}
    {settings : Settings} {unit : Projection} {now : Instant} {state : State}
    {status : Option Status} {requeue : Requeue} (h : ShowsSuccess past unit)
    (hreport : Reports source settings unit now state status requeue) :
    ShowsSuccess (.recorded ⟨unit, source, now, state⟩ :: past) (withRecord unit status) := by
  cases hreport with
  | notDue => exact showsSuccess_of_latest_eq h rfl
  | failed fault =>
      have hrecord := recordsFailure_failureStatus unit fault now
      have hskip : ShowsSuccess (.recorded ⟨unit, source, now, .failed fault⟩ :: past) unit :=
        showsSuccess_of_latest_eq h rfl
      exact showsSuccess_of_eq hskip hrecord.lastUpdate hrecord.nextUpdate hrecord.leases
  | synced written _ hgrants hinterval =>
      exact {
        lastSync := rfl
        nextSync := ⟨_, hinterval, by rw [show seen false = id from rfl, Option.map_id]; rfl⟩
        leases := hgrants }

theorem showsSuccess_rewritten {past : List (Happening ε σ)} {unit : Projection}
    (h : ShowsSuccess past unit) : ShowsSuccess (.rewritten :: past) unit.stored := by
  unfold ShowsSuccess at h ⊢
  unfold latest
  cases hlatest : latest State.isSynced past with
  | none =>
      rw [hlatest] at h
      exact {
        lastSync := by rw [lastSync_stored, h.lastSync, Option.map_none]
        nextSync := by rw [nextSync_stored, h.nextSync, Option.map_none]
        leases := by rw [leases_stored, h.leases] }
  | some found =>
      rw [hlatest] at h
      exact h.stored

/-!
## Attempts
-/

/-- The condition is that of the latest recorded attempt. -/
def ShowsAttempt (past : List (Happening ε σ)) (unit : Projection) : Prop :=
  match latest State.isAttempt past with
  | none => unit.status = none
  | some (done, rewritten) =>
      exists status, unit.status = some status ∧
        status.conditions = [done.condition (seen rewritten done.time)]

theorem showsAttempt_of_latest_eq {past later : List (Happening ε σ)} {unit : Projection}
    (h : ShowsAttempt past unit)
    (hlatest : latest State.isAttempt later = latest State.isAttempt past) :
    ShowsAttempt later unit := by
  unfold ShowsAttempt at h ⊢
  rwa [hlatest]

theorem showsAttempt_record {past : List (Happening ε σ)} {source : SecretSource ε σ}
    {settings : Settings} {unit : Projection} {now : Instant} {state : State}
    {status : Option Status} {requeue : Requeue} (h : ShowsAttempt past unit)
    (hreport : Reports source settings unit now state status requeue) :
    ShowsAttempt (.recorded ⟨unit, source, now, state⟩ :: past) (withRecord unit status) := by
  cases hreport with
  | notDue => exact showsAttempt_of_latest_eq h rfl
  | failed fault => exact ⟨_, rfl, (recordsFailure_failureStatus unit fault now).conditions⟩
  | synced written _ _ _ => exact ⟨_, rfl, rfl⟩

theorem showsAttempt_rewritten {past : List (Happening ε σ)} {unit : Projection}
    (h : ShowsAttempt past unit) : ShowsAttempt (.rewritten :: past) unit.stored := by
  unfold ShowsAttempt at h ⊢
  unfold latest
  cases hlatest : latest State.isAttempt past with
  | none =>
      rw [hlatest] at h
      simpa using h
  | some found =>
      rw [hlatest] at h
      rcases h with ⟨status, hstatus, hconditions⟩
      refine ⟨status.stored, by rw [status_stored, hstatus, Option.map_some], ?_⟩
      simp only [Status.stored, hconditions, List.map_cons, List.map_nil,
        Reconciliation.stored_condition, wholeSecond_seen]

end Past

/-!
## Steps and runs keep the record
-/

section Records

variable {ε : Type u} {σ : Type v} {φ : Type w} {τ : Type x}
variable {store : Output.Store φ τ} {settings : Settings}

theorem shows_step {past : List (Happening ε σ)} {happening : Happening ε σ}
    {world next : World ε σ τ} (hstep : Step store settings world happening next)
    (h : ShowsSuccess past world.unit ∧ ShowsAttempt past world.unit) :
    ShowsSuccess (happening :: past) next.unit ∧ ShowsAttempt (happening :: past) next.unit := by
  rcases h with ⟨hsuccess, hattempt⟩
  cases hstep with
  | recorded houtcome =>
      subst houtcome
      exact ⟨showsSuccess_record hsuccess reports_reconcile,
        showsAttempt_record hattempt reports_reconcile⟩
  | unrecorded _ =>
      exact ⟨showsSuccess_of_latest_eq hsuccess rfl, showsAttempt_of_latest_eq hattempt rfl⟩
  | edited spec generation =>
      exact ⟨showsSuccess_of_latest_eq (showsSuccess_of_eq hsuccess rfl rfl rfl) rfl,
        showsAttempt_of_latest_eq hattempt rfl⟩
  | rewritten hread =>
      rw [ofJson?_toJson] at hread
      cases hread
      exact ⟨showsSuccess_rewritten hsuccess, showsAttempt_rewritten hattempt⟩
  | disturbed source state =>
      exact ⟨showsSuccess_of_latest_eq hsuccess rfl, showsAttempt_of_latest_eq hattempt rfl⟩

theorem shows_of_run {start world : World ε σ τ} {past : List (Happening ε σ)}
    (h : Run store settings start past world) (hstart : start.unit.status = none) :
    ShowsSuccess past world.unit ∧ ShowsAttempt past world.unit := by
  induction h with
  | start =>
      refine ⟨⟨?_, ?_, ?_⟩, hstart⟩
      · rw [Projection.lastSync, hstart, Option.bind_none]
      · rw [Projection.nextSync, hstart, Option.bind_none]
      · rw [Projection.leases, hstart]
        rfl
  | step _ hstep ih => exact shows_step hstep ih

/-- After any run that starts without a status, times and leases are those of the latest success
that was recorded, and the only condition is that of the latest attempt that was recorded.  Times
are cut to whole seconds exactly when the projection was rewritten since. -/
theorem run_shows_latest {start world : World ε σ τ} {past : List (Happening ε σ)}
    (h : Run store settings start past world) (hstart : start.unit.status = none) :
    (latest State.isSynced past = none -> NoSuccessShown world.unit) ∧
      (forall done rewritten, latest State.isSynced past = some (done, rewritten) ->
        SuccessShown done rewritten world.unit) ∧
      (forall done rewritten, latest State.isAttempt past = some (done, rewritten) ->
        exists status, world.unit.status = some status ∧
          status.conditions = [done.condition (seen rewritten done.time)]) := by
  rcases shows_of_run h hstart with ⟨hsuccess, hattempt⟩
  unfold ShowsSuccess at hsuccess
  unfold ShowsAttempt at hattempt
  refine ⟨?_, ?_, ?_⟩
  · intro hnone
    rwa [hnone] at hsuccess
  · intro done rewritten hsome
    rwa [hsome] at hsuccess
  · intro done rewritten hsome
    rwa [hsome] at hattempt

end Records

/-!
## A sample run

A success, a rewriting of the projection, and a failure under another spec.
-/

namespace Sample

def early : Instant := ⟨1500000000, by decide, by decide⟩

def late : Instant := ⟨2250000000, by decide, by decide⟩

/-- The sample projection without a status, in front of an empty store. -/
def fresh : World String String Output.Memory where
  unit := projection "{{ .db.password }}" none
  source := (script "p").toSource
  state := .empty

def firstSync : Outcome String String Output.Memory :=
  fresh.reconcile Output.Memory.toStore settings .scheduled early

def editedSpec : Spec := (projection "new" none).spec

/-- The rewritten projection under another spec, in front of a store that refuses all writes. -/
def obstructed : World String String Output.Memory where
  unit := edit (withRecord fresh.unit firstSync.status).stored editedSpec (some 2)
  source := fresh.source
  state := refusing

def secondSync : Outcome String String Output.Memory :=
  obstructed.reconcile Output.Memory.toStore settings (.forced .specChanged) late

def success : Reconciliation String String := ⟨fresh.unit, fresh.source, early, .synced true⟩

def refusal : Reconciliation String String :=
  ⟨obstructed.unit, obstructed.source, late, .failed ⟨.outputWrite, "refused"⟩⟩

theorem state_firstSync : firstSync.state = .synced true := by decide +kernel

theorem state_secondSync : secondSync.state = .failed ⟨.outputWrite, "refused"⟩ := by
  decide +kernel

theorem step_firstSync :
    Step Output.Memory.toStore settings fresh (.recorded success)
      ⟨withRecord fresh.unit firstSync.status, fresh.source, firstSync.store⟩ := by
  have hstep : Step Output.Memory.toStore settings fresh
      (.recorded ⟨fresh.unit, fresh.source, early, firstSync.state⟩) _ := .recorded rfl
  rwa [state_firstSync] at hstep

theorem step_secondSync :
    Step Output.Memory.toStore settings obstructed (.recorded refusal)
      ⟨withRecord obstructed.unit secondSync.status, obstructed.source, secondSync.store⟩ := by
  have hstep : Step Output.Memory.toStore settings obstructed
      (.recorded ⟨obstructed.unit, obstructed.source, late, secondSync.state⟩) _ := .recorded rfl
  rwa [state_secondSync] at hstep

theorem run_refused :
    Run Output.Memory.toStore settings fresh
      [.recorded refusal, .edited (some 2), .disturbed, .rewritten, .recorded success]
      ⟨withRecord obstructed.unit secondSync.status, obstructed.source, secondSync.store⟩ :=
  ((((Run.start.step step_firstSync).step (.rewritten _ (ofJson?_toJson _))).step
    (.disturbed _ fresh.source refusing)).step (.edited _ editedSpec (some 2))).step
    step_secondSync

end Sample

theorem refused_run_shows_success :
    let unit := withRecord Sample.obstructed.unit Sample.secondSync.status
    SuccessShown Sample.success true unit ∧
      exists status, unit.status = some status ∧
        status.conditions = [Sample.refusal.condition Sample.late] := by
  rcases run_shows_latest Sample.run_refused rfl with ⟨_, hsuccess, hattempt⟩
  exact ⟨hsuccess _ _ rfl, hattempt _ _ rfl⟩

end Sync

end SecretProjection
