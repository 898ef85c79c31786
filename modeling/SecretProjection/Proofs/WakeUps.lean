import SecretProjection.Proofs.Runs

/-!
# Wake-ups

A success at an instant plans the next synchronisation one interval later, and both times are cut
to whole seconds when the status is stored.  Whether a projection is due is decided by the cut time
of the success and the exact interval; when to come back is read off the cut time of the plan.
The two differ by less than a second in either direction.

Delays are never shorter than a second.  A wake-up at the cut time of the plan may therefore come
too early, but then by less than a second, and the next one comes a second later.
-/

namespace SecretProjection

universe u v w x

namespace Instant

/-- The nanoseconds of a second. -/
def perSecond : Int := 1000000000

theorem wholeSecond_le (t : Instant) : t.wholeSecond.nanoseconds ≤ t.nanoseconds := by
  simp only [wholeSecond, seconds]
  omega

theorem lt_wholeSecond_add (t : Instant) :
    t.nanoseconds < t.wholeSecond.nanoseconds + perSecond := by
  simp only [wholeSecond, seconds, perSecond]
  omega

end Instant

namespace Sync

open Projection

/-!
## Times of a stored success
-/

/-- A projection that shows a success and the instant planned for the next one, as they are read
back from the stored form. -/
structure Planned (sync planned : Instant) (length : Duration) (unit : Projection) : Prop where
  interval : Schedule.interval unit.spec unit.leases = .ok (some length)
  lastSync : unit.lastSync = some sync.wholeSecond
  nextSync : unit.nextSync = some planned.wholeSecond
  distance : planned.nanoseconds = sync.nanoseconds + length.nanoseconds

/-- The time from which a projection is due. -/
def dueTime (sync : Instant) (length : Duration) : Int :=
  sync.wholeSecond.nanoseconds + length.nanoseconds

section Times

variable {sync planned : Instant} {length : Duration} {unit : Projection}

/-- The planned instant is in the same second as the due time, or in the one before or after. -/
theorem planned_bounds (h : Planned sync planned length unit) :
    dueTime sync length - Instant.perSecond < planned.wholeSecond.nanoseconds ∧
      planned.wholeSecond.nanoseconds < dueTime sync length + Instant.perSecond := by
  have hdistance := h.distance
  have hsync := sync.wholeSecond_le
  have hsync' := sync.lt_wholeSecond_add
  have hplanned := planned.wholeSecond_le
  have hplanned' := planned.lt_wholeSecond_add
  unfold dueTime
  omega

theorem isDue_iff (h : Planned sync planned length unit) (t : Instant) :
    isDue unit .scheduled t = true <-> dueTime sync length ≤ t.nanoseconds := by
  have hdistance := h.distance
  have hlower := sync.wholeSecond.lower
  have hupper := planned.upper
  have hcut := sync.wholeSecond_le
  -- The due time lies between two instants, so that it is one itself.
  have hrange : Instant.firstSecond * 1000000000 ≤ dueTime sync length ∧
      dueTime sync length < (Instant.lastSecond + 1) * 1000000000 := by
    unfold dueTime
    omega
  have hafter : sync.wholeSecond.after? length = some ⟨dueTime sync length, hrange.1, hrange.2⟩ :=
    Instant.nanoseconds_after?.mpr rfl
  simp only [isDue, h.interval, Schedule.isDue, Schedule.next, h.lastSync, hafter,
    decide_eq_true_eq, Instant.le_iff]

theorem rearm_eq (h : Planned sync planned length unit) (t : Instant) :
    rearm unit t = .after (Schedule.wait planned.wholeSecond t) := by
  unfold rearm
  rw [h.nextSync]
  rfl

/-- When a wake-up comes that is asked for at a time. -/
def wakeTime (planned : Instant) (time : Int) : Int :=
  max planned.nanoseconds (time + Instant.perSecond)

theorem nanoseconds_wait (planned t : Instant) :
    (Schedule.wait planned t).nanoseconds = wakeTime planned t.nanoseconds - t.nanoseconds := by
  have hshortest : Schedule.shortestWait.nanoseconds = 1000000000 := rfl
  simp only [Schedule.wait, Duration.longer, Instant.nanoseconds_timeTo, hshortest, wakeTime,
    Instant.perSecond]
  omega

theorem shortestWait_le_wait (planned t : Instant) :
    Schedule.shortestWait ≤ Schedule.wait planned t := by
  simp only [Duration.le_iff, Schedule.wait, Duration.longer]
  omega

/-!
## Following the wake-ups
-/

/-- From a time on, a due trigger is reached by at most some number of wake-ups and before a
limit.  Each of them comes after the delay that the one before has asked for. -/
inductive ReachesDue (unit : Projection) (limit : Int) : Nat -> Int -> Prop where
  | due {count : Nat} {time : Int} :
      time < limit ->
      (forall t : Instant, t.nanoseconds = time -> isDue unit .scheduled t = true) ->
      ReachesDue unit limit count time
  | wake {count : Nat} {time : Int} {delay : Duration} :
      (forall t : Instant, t.nanoseconds = time ->
        isDue unit .scheduled t = false ∧ rearm unit t = .after delay) ->
      ReachesDue unit limit count (time + delay.nanoseconds) ->
      ReachesDue unit limit (count + 1) time

theorem reachesDue_of_le (h : Planned sync planned length unit) {time : Int} (count : Nat)
    (hlow : dueTime sync length ≤ time) (hhigh : time < dueTime sync length + Instant.perSecond) :
    ReachesDue unit (dueTime sync length + Instant.perSecond) count time := by
  apply ReachesDue.due hhigh
  intro t ht
  apply (isDue_iff h t).mpr
  rwa [ht]

theorem reachesDue_of_lt (h : Planned sync planned length unit) {time : Int} {count : Nat}
    (htime : time < dueTime sync length)
    (hnext : ReachesDue unit (dueTime sync length + Instant.perSecond) count
      (wakeTime planned.wholeSecond time)) :
    ReachesDue unit (dueTime sync length + Instant.perSecond) (count + 1) time := by
  have hlater : time ≤ wakeTime planned.wholeSecond time := by
    simp only [wakeTime, Instant.perSecond]
    omega
  have hdelay : time + (wakeTime planned.wholeSecond time - time).toNat =
      wakeTime planned.wholeSecond time := by omega
  rw [← hdelay] at hnext
  refine @ReachesDue.wake _ _ _ _ ⟨(wakeTime planned.wholeSecond time - time).toNat⟩ ?_ hnext
  intro t ht
  subst ht
  constructor
  · apply Bool.eq_false_iff.mpr
    rw [Ne, isDue_iff h]
    omega
  · rw [rearm_eq h]
    congr 1
    apply Duration.ext
    show (Schedule.wait planned.wholeSecond t).nanoseconds =
      (wakeTime planned.wholeSecond t.nanoseconds - t.nanoseconds).toNat
    rw [← nanoseconds_wait, Int.toNat_natCast]

/-- Before the due time, it is reached by two wake-ups: the first one comes at the planned second
if not later, and if that is too early the next one comes a second after it. -/
theorem reachesDue (h : Planned sync planned length unit) {time : Int}
    (htime : time < dueTime sync length) :
    ReachesDue unit (dueTime sync length + Instant.perSecond) 2 time := by
  rcases planned_bounds h with ⟨hlow, hhigh⟩
  apply reachesDue_of_lt h htime
  by_cases hdue : dueTime sync length ≤ wakeTime planned.wholeSecond time
  · apply reachesDue_of_le h 1 hdue
    simp only [wakeTime]
    omega
  · apply reachesDue_of_lt h (by omega)
    apply reachesDue_of_le h 0
    · simp only [wakeTime]
      omega
    · simp only [wakeTime] at hdue ⊢
      omega

end Times

/-!
## Successes that are stored
-/

section Stored

variable {ε : Type u} {σ : Type v} {φ : Type w} {τ : Type x}
variable {source : SecretSource ε σ} {store : Output.Store φ τ} {state : τ}
variable {settings : Settings} {unit later : Projection} {trigger : Trigger} {now : Instant}

/-- A stored success with a planned instant is one of a valid spec, which gave the interval. -/
theorem planned_of_stored {written : Bool} {status : Status} {requeue : Requeue}
    {planned : Instant}
    (hreport : Reports source settings unit now (.synced written) (some status) requeue)
    (hplanned : status.nextUpdate = some planned) (hspec : later.spec = unit.spec)
    (hstatus : later.status = some status.stored) :
    exists length, Schedule.interval unit.spec status.leases = .ok (some length) ∧
      0 < length.nanoseconds ∧ requeue = .after (Schedule.wait planned now) ∧
      Planned now planned length later := by
  cases hreport with
  | @synced leases interval _ hvalid _ hinterval =>
      cases interval with
      | none => cases hplanned
      | some length =>
          have hafter : now.after? length = some planned := hplanned
          refine ⟨length, hinterval, Schedule.interval_pos hvalid hinterval, ?_, ?_⟩
          · simp only [Schedule.next, hafter, requeueFor]
          · exact {
              interval := by
                rw [hspec, Projection.leases, hstatus]
                exact hinterval
              lastSync := by
                rw [Projection.lastSync, hstatus]
                rfl
              nextSync := by
                rw [Projection.nextSync, hstatus, Option.bind_some, Status.stored, hplanned,
                  Option.map_some]
              distance := Instant.nanoseconds_after?.mp hafter }

/-- A success with a planned next one is stored and read back, and the spec stays what it was.
Then the wake-up that the success asks for finds the projection due.  Before the due time every
trigger of the schedule changes nothing and asks for a wake-up after at least one second, and two
such wake-ups lead to a due trigger within the second behind the due time. -/
theorem wake_ups_reach_due_time {written : Bool} {status recorded : Status} {planned : Instant}
    (h : (reconcile source store state settings unit trigger now).state = .synced written)
    (hstatus : (reconcile source store state settings unit trigger now).status = some status)
    (hplanned : status.nextUpdate = some planned)
    (hread : Status.ofJson? status.toJson = some recorded)
    (hspec : later.spec = unit.spec) (hlater : later.status = some recorded) :
    exists length,
      Schedule.interval unit.spec status.leases = .ok (some length) ∧ 0 < length.nanoseconds ∧
      (forall t : Instant,
        isDue later .scheduled t = true <->
          now.wholeSecond.nanoseconds + length.nanoseconds ≤ t.nanoseconds) ∧
      (exists delay,
        (reconcile source store state settings unit trigger now).requeue = .after delay ∧
        forall t : Instant, t.nanoseconds = now.nanoseconds + delay.nanoseconds ->
          isDue later .scheduled t = true) ∧
      (forall t : Instant, t.nanoseconds < now.wholeSecond.nanoseconds + length.nanoseconds ->
        (forall (source : SecretSource ε σ) (store : Output.Store φ τ) (state : τ),
          reconcile source store state settings later .scheduled t =
            { state := .notDue, status := none, requeue := rearm later t, reads := [],
              accesses := [], store := state }) ∧
        (exists delay, rearm later t = .after delay ∧ .ofSeconds 1 ≤ delay) ∧
        ReachesDue later
          (now.wholeSecond.nanoseconds + length.nanoseconds + Instant.perSecond) 2
          t.nanoseconds) := by
  rw [Status.readsBack.read] at hread
  cases hread
  have hreport : Reports source settings unit now
      (reconcile source store state settings unit trigger now).state
      (reconcile source store state settings unit trigger now).status
      (reconcile source store state settings unit trigger now).requeue := reports_reconcile
  rw [h, hstatus] at hreport
  rcases planned_of_stored hreport hplanned hspec hlater with
    ⟨length, hinterval, hpositive, hrequeue, hplan⟩
  refine ⟨length, hinterval, hpositive, isDue_iff hplan, ⟨_, hrequeue, ?_⟩, ?_⟩
  · intro t ht
    apply (isDue_iff hplan t).mpr
    have hwait := nanoseconds_wait planned now
    have hcut := now.wholeSecond_le
    have hdistance := hplan.distance
    simp only [wakeTime] at hwait
    unfold dueTime
    omega
  · intro t ht
    have hnot : isDue later .scheduled t = false := by
      apply Bool.eq_false_iff.mpr
      rw [Ne, isDue_iff hplan]
      exact Int.not_le.mpr ht
    exact ⟨fun _ _ _ => reconcile_of_not_due hnot,
      ⟨_, rearm_eq hplan t, shortestWait_le_wait planned.wholeSecond t⟩, reachesDue hplan ht⟩

end Stored

namespace Sample

/-- The sample projection with a period of ninety seconds. -/
def periodic : Projection :=
  { projection "{{ .db.password }}" none with
    spec := { (projection "{{ .db.password }}" none).spec with refreshPeriod := some "90s" } }

def periodicSync : Outcome String String Output.Memory :=
  reconcile (script "p").toSource Output.Memory.toStore .empty settings periodic .scheduled early

def periodicStatus : Status :=
  ⟨[successCondition periodic early], some early,
    some ⟨91500000000, by decide, by decide⟩, [⟨"db", "", 0, false⟩]⟩

def periodicLater : Projection := { periodic with status := some periodicStatus.stored }

end Sample

theorem periodic_wake_ups :
    (forall t : Instant,
      isDue Sample.periodicLater .scheduled t = true <-> 91000000000 ≤ t.nanoseconds) ∧
    ReachesDue Sample.periodicLater 92000000000 2 Sample.early.nanoseconds := by
  have hstate : Sample.periodicSync.state = .synced true := by decide +kernel
  have hstatus : Sample.periodicSync.status = some Sample.periodicStatus := by decide +kernel
  have hspec : Sample.periodicLater.spec = Sample.periodic.spec := rfl
  rcases wake_ups_reach_due_time hstate hstatus rfl (Status.readsBack.read _) hspec rfl with
    ⟨length, hinterval, _, hdue, _, hwait⟩
  have hperiod : Schedule.interval Sample.periodic.spec Sample.periodicStatus.leases =
      .ok (some (.ofSeconds 90)) := by decide +kernel
  rw [hperiod] at hinterval
  cases hinterval
  exact ⟨hdue, (hwait Sample.early (by decide)).2.2⟩

end Sync

end SecretProjection
