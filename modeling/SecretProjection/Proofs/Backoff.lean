import SecretProjection.Proofs.Quiescence

/-!
# Backoff after failures

A projection whose latest attempt failed at its generation is left alone until the retry interval
has passed since the failure, whatever has become of the output secret; then the attempt is
repeated.  A failure that lies ahead of the clock counts as one of this moment.

Over a row of triggers this keeps the source and the store unasked for the whole of the interval.
The interval runs from the recorded time of the failure, which is cut to a whole second as soon as
the projection is written and read back.
-/

namespace SecretProjection

universe u v w x

namespace Sync

open Cluster Projection Trigger

/-!
## Failures on record
-/

/-- The latest condition of a projection is a failure at its generation, with a time. -/
structure ShowsFailure (unit : Projection) (failed : Instant) : Prop where
  condition : exists condition, unit.lastCondition = some condition ∧
    condition.type = "ReconcileFailed" ∧
    condition.observedGeneration = unit.metadata.generation ∧
    condition.lastTransitionTime = failed

/-- The nanoseconds that have passed since a failure; none if it lies ahead. -/
def passed (failed now : Instant) : Int := max 0 (now.nanoseconds - failed.nanoseconds)

section Decisions

variable {unit next : Projection} {failed now : Instant} {existing : Option Secret}
variable {retryInterval : Duration}

theorem ShowsFailure.of_eq (h : ShowsFailure unit failed) (hstatus : next.status = unit.status)
    (hgeneration : next.metadata.generation = unit.metadata.generation) :
    ShowsFailure next failed where
  condition := by
    rw [Projection.lastCondition, hstatus, hgeneration]
    exact h.condition

theorem ShowsFailure.stored (h : ShowsFailure unit failed) :
    ShowsFailure unit.stored failed.wholeSecond where
  condition := by
    rcases h.condition with ⟨condition, hlast, htype, hgeneration, htime⟩
    refine ⟨condition.stored, ?_, htype, hgeneration, by rw [← htime]; rfl⟩
    rcases Option.bind_eq_some_iff.mp hlast with ⟨status, hstatus, hcondition⟩
    rw [Projection.lastCondition, status_stored, hstatus, Option.map_some, Option.bind_some,
      Status.stored, List.getLast?_map, hcondition, Option.map_some]

theorem ShowsFailure.specChanged_eq_false (h : ShowsFailure unit failed) :
    specChanged unit = false := by
  rcases h.condition with ⟨condition, hlast, _, hgeneration, _⟩
  simp [specChanged, hlast, hgeneration]

theorem ShowsFailure.lastFailure_eq (h : ShowsFailure unit failed) :
    exists condition, lastFailure unit = some condition ∧
      condition.lastTransitionTime = failed := by
  rcases h.condition with ⟨condition, hlast, htype, _, htime⟩
  refine ⟨condition, ?_, htime⟩
  simp [lastFailure, hlast, htype, failureType]

theorem nanoseconds_timeTo_eq_passed :
    ((failed.timeTo now).nanoseconds : Int) = passed failed now := by
  simp only [Instant.nanoseconds_timeTo, passed]
  omega

theorem ShowsFailure.backoff_eq (h : ShowsFailure unit failed) :
    backoff unit now retryInterval =
      if passed failed now < retryInterval.nanoseconds then
        some ⟨(retryInterval.nanoseconds - passed failed now).toNat⟩
      else none := by
  rcases h.lastFailure_eq with ⟨condition, hlast, htime⟩
  have hpassed : ((failed.timeTo now).nanoseconds : Int) = passed failed now :=
    nanoseconds_timeTo_eq_passed
  simp only [backoff, hlast, htime, Duration.lt_iff]
  by_cases hlt : passed failed now < retryInterval.nanoseconds
  · rw [if_pos hlt, if_pos (by omega)]
    congr 2
    omega
  · rw [if_neg hlt, if_neg (by omega)]

/-- The decision about a failure on record depends on nothing but time. -/
theorem ShowsFailure.classify_eq (h : ShowsFailure unit failed) :
    classify unit existing now retryInterval =
      if passed failed now < retryInterval.nanoseconds then
        .wait ⟨(retryInterval.nanoseconds - passed failed now).toNat⟩
      else .sync (.forced .retryAfterFailure) := by
  have hfailed : lastAttemptFailed unit = true := by
    rcases h.lastFailure_eq with ⟨condition, hlast, _⟩
    simp [lastAttemptFailed, hlast]
  unfold classify
  rw [h.specChanged_eq_false, hfailed, h.backoff_eq]
  by_cases hlt : passed failed now < retryInterval.nanoseconds
  · simp [hlt]
  · simp [hlt]

theorem ShowsFailure.classify_eq_wait (h : ShowsFailure unit failed) {remaining : Duration} :
    classify unit existing now retryInterval = .wait remaining <->
      passed failed now < retryInterval.nanoseconds ∧
        remaining.nanoseconds = retryInterval.nanoseconds - passed failed now := by
  rw [h.classify_eq]
  by_cases hlt : passed failed now < retryInterval.nanoseconds
  · rw [if_pos hlt]
    constructor
    · intro hwait
      cases hwait
      refine ⟨hlt, ?_⟩
      show (((retryInterval.nanoseconds - passed failed now).toNat : Nat) : Int) = _
      omega
    · intro hwait
      congr 1
      apply Duration.ext
      show (retryInterval.nanoseconds - passed failed now).toNat = remaining.nanoseconds
      omega
  · rw [if_neg hlt]
    constructor
    · intro hwait
      cases hwait
    · intro hwait
      exact absurd hwait.1 hlt

theorem ShowsFailure.classify_eq_retry (h : ShowsFailure unit failed)
    (hpassed : retryInterval.nanoseconds ≤ passed failed now) :
    classify unit existing now retryInterval = .sync (.forced .retryAfterFailure) := by
  rw [h.classify_eq, if_neg (Int.not_lt.mpr hpassed)]

/-- Whatever is synchronised, it is not before the end of the interval. -/
theorem ShowsFailure.le_of_sync (h : ShowsFailure unit failed)
    (hpos : 0 < retryInterval.nanoseconds) {trigger : Trigger}
    (hsync : classify unit existing now retryInterval = .sync trigger) :
    failed.nanoseconds + retryInterval.nanoseconds ≤ now.nanoseconds := by
  rw [h.classify_eq] at hsync
  by_cases hlt : passed failed now < retryInterval.nanoseconds
  · rw [if_pos hlt] at hsync
    cases hsync
  · unfold passed at hlt
    omega

end Decisions

/-!
## Rows of triggers
-/

/-- The time of a trigger, and what was asked of the source and of the store because of it. -/
structure Visit (ε : Type u) (φ : Type w) where
  time : Instant
  reads : List ε
  accesses : List φ

def Visit.Asks {ε : Type u} {φ : Type w} (visit : Visit ε φ) : Prop :=
  visit.reads ≠ [] ∨ visit.accesses ≠ []

section Rows

variable {ε : Type u} {σ : Type v} {φ : Type w} {τ : Type x}

/-- What becomes of a projection by triggers that are classified one after another, the newest
visit first, each with a source, a state of the store and an output secret of its own.  A status
that is returned is recorded or lost.  In between, everything may change but the status and the
generation, and the projection may be written and read back, which the flag tells. -/
inductive Triggered (σ : Type v) (store : Output.Store φ τ) (settings : Settings)
    (start : Projection) : Bool -> List (Visit ε φ) -> Projection -> Prop where
  | start : Triggered σ store settings start false [] start
  | changed {rewritten : Bool} {past : List (Visit ε φ)} {unit next : Projection} :
      Triggered σ store settings start rewritten past unit ->
      next.status = unit.status -> next.metadata.generation = unit.metadata.generation ->
      Triggered σ store settings start rewritten past next
  | rewritten {rewritten : Bool} {past : List (Visit ε φ)} {unit next : Projection} :
      Triggered σ store settings start rewritten past unit ->
      Projection.ofJson? unit.toJson = some next ->
      Triggered σ store settings start true past next
  | waited {rewritten : Bool} {past : List (Visit ε φ)} {unit : Projection}
      {existing : Option Secret} {now : Instant} {remaining : Duration} :
      Triggered σ store settings start rewritten past unit ->
      classify unit existing now settings.retryInterval = .wait remaining ->
      Triggered σ store settings start rewritten (⟨now, [], []⟩ :: past) unit
  | handled {rewritten : Bool} {past : List (Visit ε φ)} {unit next : Projection}
      {existing : Option Secret} {now : Instant} {trigger : Trigger}
      {source : SecretSource ε σ} {state : τ} {outcome : Outcome ε φ τ} :
      Triggered σ store settings start rewritten past unit ->
      classify unit existing now settings.retryInterval = .sync trigger ->
      reconcile source store state settings unit trigger now = outcome ->
      next = withRecord unit outcome.status ∨ next = unit ->
      Triggered σ store settings start rewritten
        (⟨now, outcome.reads, outcome.accesses⟩ :: past) next

/-- The end of the interval behind a failure. -/
def retryTime (failed : Instant) (retryInterval : Duration) : Int :=
  failed.nanoseconds + retryInterval.nanoseconds

theorem retryTime_seen_true_le (rewritten : Bool) (failed : Instant) (retryInterval : Duration) :
    retryTime (seen true failed) retryInterval ≤
      retryTime (seen rewritten failed) retryInterval := by
  have hcut := failed.wholeSecond_le
  unfold retryTime
  cases rewritten with
  | false =>
      show failed.wholeSecond.nanoseconds + _ ≤ failed.nanoseconds + _
      omega
  | true => exact Int.le_refl _

variable {store : Output.Store φ τ} {settings : Settings} {start unit : Projection}
variable {failed : Instant} {rewritten : Bool} {past : List (Visit ε φ)}

/-- Until a visit comes after the interval, the failure stays on record and nothing is asked. -/
theorem held_back (hpos : 0 < settings.retryInterval.nanoseconds)
    (hstart : ShowsFailure start failed)
    (h : Triggered σ store settings start rewritten past unit) :
    (ShowsFailure unit (seen rewritten failed) ∧ forall visit, visit ∈ past -> ¬ visit.Asks) ∨
      exists visit, visit ∈ past ∧
        retryTime (seen rewritten failed) settings.retryInterval ≤ visit.time.nanoseconds := by
  induction h with
  | start => exact .inl ⟨hstart, fun _ => nofun⟩
  | changed _ hstatus hgeneration ih =>
      rcases ih with ⟨hfailure, hquiet⟩ | hafter
      · exact .inl ⟨hfailure.of_eq hstatus hgeneration, hquiet⟩
      · exact .inr hafter
  | rewritten _ hread ih =>
      rw [ofJson?_toJson] at hread
      cases hread
      rcases ih with ⟨hfailure, hquiet⟩ | ⟨visit, hmem, hafter⟩
      · refine .inl ⟨?_, hquiet⟩
        rw [← wholeSecond_seen]
        exact hfailure.stored
      · exact .inr ⟨visit, hmem, Int.le_trans (retryTime_seen_true_le _ _ _) hafter⟩
  | waited _ _ ih =>
      rcases ih with ⟨hfailure, hquiet⟩ | ⟨visit, hmem, hafter⟩
      · refine .inl ⟨hfailure, ?_⟩
        intro visit hmem
        rcases List.mem_cons.mp hmem with rfl | hpast
        · simp [Visit.Asks]
        · exact hquiet visit hpast
      · exact .inr ⟨visit, List.mem_cons_of_mem _ hmem, hafter⟩
  | handled _ hclassify _ _ ih =>
      rcases ih with ⟨hfailure, _⟩ | ⟨visit, hmem, hafter⟩
      · exact .inr ⟨_, List.mem_cons_self, hfailure.le_of_sync hpos hclassify⟩
      · exact .inr ⟨visit, List.mem_cons_of_mem _ hmem, hafter⟩

/-- In the order of time, whatever asks for something comes after the interval. -/
theorem retryTime_le_of_asks (hpos : 0 < settings.retryInterval.nanoseconds)
    (hstart : ShowsFailure start failed)
    (h : Triggered σ store settings start rewritten past unit)
    (hordered : past.Pairwise fun visit earlier => earlier.time ≤ visit.time)
    {visit : Visit ε φ} (hmem : visit ∈ past) (hasks : visit.Asks) :
    retryTime (seen rewritten failed) settings.retryInterval ≤ visit.time.nanoseconds := by
  induction h with
  | start => cases hmem
  | changed _ _ _ ih => exact ih hordered hmem
  | rewritten _ _ ih => exact Int.le_trans (retryTime_seen_true_le _ _ _) (ih hordered hmem)
  | waited _ _ ih =>
      rcases List.mem_cons.mp hmem with rfl | hpast
      · simp [Visit.Asks] at hasks
      · exact ih (List.pairwise_cons.mp hordered).2 hpast
  | handled hrun hclassify _ _ ih =>
      rcases List.pairwise_cons.mp hordered with ⟨hbefore, hrest⟩
      rcases List.mem_cons.mp hmem with rfl | hpast
      · rcases held_back hpos hstart hrun with ⟨hfailure, _⟩ | ⟨earlier, hearlier, hafter⟩
        · exact hfailure.le_of_sync hpos hclassify
        · exact Int.le_trans hafter (hbefore earlier hearlier)
      · exact ih hrest hpast

end Rows

/-!
## Failing reconciliations
-/

section Failures

variable {ε : Type u} {σ : Type v} {φ : Type w} {τ : Type x}
variable {source : SecretSource ε σ} {store : Output.Store φ τ} {state : τ}
variable {settings : Settings} {unit later : Projection} {trigger : Trigger} {now : Instant}

theorem showsFailure_of_kept {fault : Fault} {found : Status}
    (hkept : (failureStatus unit fault now).Kept found) (hstatus : later.status = some found)
    (hgeneration : later.metadata.generation = unit.metadata.generation) :
    exists rewritten, ShowsFailure later (seen rewritten now) := by
  rcases hkept.eq_or with rfl | rfl
  · have hlast : later.lastCondition = some (failureCondition unit fault now) :=
      lastCondition_eq hstatus rfl
    exact ⟨false, ⟨_, hlast, rfl, hgeneration.symm, rfl⟩⟩
  · have hlast : later.lastCondition = some (failureCondition unit fault now).stored :=
      lastCondition_eq hstatus rfl
    exact ⟨true, ⟨_, hlast, rfl, hgeneration.symm, rfl⟩⟩

/-- What comes after the delay that a failing reconciliation asks for is a retry, also if the time
of the failure was cut to a whole second. -/
theorem retry_after_requeue {fault : Fault}
    (h : (reconcile source store state settings unit trigger now).state = .failed fault) :
    exists status,
      (reconcile source store state settings unit trigger now).status = some status ∧
      (reconcile source store state settings unit trigger now).requeue =
        .after settings.retryInterval ∧
      forall (found : Status) (later : Projection) (existing : Option Secret) (t : Instant),
        status.Kept found -> later.status = some found ->
        later.metadata.generation = unit.metadata.generation ->
        now.nanoseconds + settings.retryInterval.nanoseconds ≤ t.nanoseconds ->
        classify later existing t settings.retryInterval =
          .sync (.forced .retryAfterFailure) := by
  rcases reconcile_of_failed h with ⟨hresult, hreconcile⟩
  rw [hreconcile, conclude_of_error hresult]
  refine ⟨_, rfl, rfl, ?_⟩
  intro found later existing t hkept hstatus hgeneration htime
  rcases showsFailure_of_kept hkept hstatus hgeneration with ⟨rewritten, hfailure⟩
  apply hfailure.classify_eq_retry
  have hcut : (seen rewritten now).nanoseconds ≤ now.nanoseconds := by
    cases rewritten with
    | false => exact Int.le_refl _
    | true => exact now.wholeSecond_le
  unfold passed
  omega

end Failures

/-- A projection shows a failure at its generation.  Whatever has become of the output, a trigger
has to wait as long as less than the retry interval has passed since the failure, for what is left
of it, and otherwise leads to a retry.  Who waits as told is not made to wait again.  In a row of
triggers nothing is asked of source or store from the failure to the end of the interval.  And the
delay that a failing reconciliation asks for leads to a retry. -/
theorem retries_are_spaced (ε : Type u) (σ : Type v) {φ : Type w} {τ : Type x}
    (store : Output.Store φ τ) (settings : Settings) {unit : Projection} {failed : Instant}
    (h : ShowsFailure unit failed) :
    (forall (retryInterval : Duration) (t : Instant) (existing : Option Secret),
      (forall remaining, classify unit existing t retryInterval = .wait remaining <->
        max 0 (t.nanoseconds - failed.nanoseconds) < retryInterval.nanoseconds ∧
          remaining.nanoseconds =
            retryInterval.nanoseconds - max 0 (t.nanoseconds - failed.nanoseconds)) ∧
      (forall remaining, classify unit existing t retryInterval = .wait remaining ->
        0 < remaining.nanoseconds ∧ remaining ≤ retryInterval) ∧
      (retryInterval.nanoseconds ≤ max 0 (t.nanoseconds - failed.nanoseconds) ->
        classify unit existing t retryInterval = .sync (.forced .retryAfterFailure)) ∧
      (forall remaining (later : Instant) (other : Option Secret), failed ≤ t ->
        classify unit existing t retryInterval = .wait remaining ->
        t.nanoseconds + remaining.nanoseconds ≤ later.nanoseconds ->
        classify unit other later retryInterval = .sync (.forced .retryAfterFailure))) ∧
    (forall (rewritten : Bool) (past : List (Visit ε φ)) (next : Projection),
      Triggered σ store settings unit rewritten past next ->
      past.Pairwise (fun visit earlier => earlier.time ≤ visit.time) ->
      forall visit, visit ∈ past -> (seen rewritten failed) ≤ visit.time ->
        visit.time.nanoseconds <
          (seen rewritten failed).nanoseconds + settings.retryInterval.nanoseconds ->
        visit.reads = [] ∧ visit.accesses = []) ∧
    (forall (source : SecretSource ε σ) (state : τ) (before : Projection) (trigger : Trigger)
        (now : Instant) (fault : Fault),
      (reconcile source store state settings before trigger now).state = .failed fault ->
      exists status,
        (reconcile source store state settings before trigger now).status = some status ∧
        (reconcile source store state settings before trigger now).requeue =
          .after settings.retryInterval ∧
        forall (found : Status) (later : Projection) (existing : Option Secret) (t : Instant),
          status.Kept found -> later.status = some found ->
          later.metadata.generation = before.metadata.generation ->
          now.nanoseconds + settings.retryInterval.nanoseconds ≤ t.nanoseconds ->
          classify later existing t settings.retryInterval =
            .sync (.forced .retryAfterFailure)) := by
  refine ⟨?_, ?_, fun _ _ _ _ _ _ hfailed => retry_after_requeue hfailed⟩
  · intro retryInterval t existing
    refine ⟨fun _ => h.classify_eq_wait, ?_, h.classify_eq_retry, ?_⟩
    · intro remaining hwait
      rcases h.classify_eq_wait.mp hwait with ⟨hlt, hremaining⟩
      unfold passed at hlt hremaining
      rw [Duration.le_iff]
      omega
    · intro remaining later other hafter hwait hlater
      rcases h.classify_eq_wait.mp hwait with ⟨hlt, hremaining⟩
      apply h.classify_eq_retry
      rw [Instant.le_iff] at hafter
      unfold passed at hremaining ⊢
      omega
  · intro rewritten past next hrun hordered visit hmem hafter hbefore
    have hpos : 0 < settings.retryInterval.nanoseconds := by
      rw [Instant.le_iff] at hafter
      omega
    have hquiet : ¬ visit.Asks := by
      intro hasks
      have hle := retryTime_le_of_asks hpos h hrun hordered hmem hasks
      unfold retryTime at hle
      omega
    unfold Visit.Asks at hquiet
    exact ⟨Classical.byContradiction fun hreads => hquiet (.inl hreads),
      Classical.byContradiction fun haccesses => hquiet (.inr haccesses)⟩

/-!
## A refused write

The write of the sample run is refused two and a quarter seconds after the start of time.
-/

namespace Sample

def refused : Projection := withRecord obstructed.unit secondSync.status

theorem refused_showsFailure : ShowsFailure refused late where
  condition := by
    have hlast : refused.lastCondition =
        some (failureCondition obstructed.unit ⟨.outputWrite, "refused"⟩ late) := by
      decide +kernel
    exact ⟨_, hlast, rfl, rfl, rfl⟩

/-- Ten seconds after the refusal. -/
def tenLater : Instant := ⟨12250000000, by decide, by decide⟩

/-- Half a minute after the refusal. -/
def halfMinuteLater : Instant := ⟨32250000000, by decide, by decide⟩

end Sample

theorem refused_write_waits_thirty_seconds :
    ShowsFailure Sample.refused Sample.late ∧
      classify Sample.refused none Sample.tenLater Sample.settings.retryInterval =
        .wait (.ofSeconds 20) ∧
      classify Sample.refused none Sample.halfMinuteLater Sample.settings.retryInterval =
        .sync (.forced .retryAfterFailure) := by
  have hfailure := Sample.refused_showsFailure
  rcases retries_are_spaced String String Output.Memory.toStore Sample.settings hfailure with
    ⟨hdecisions, _⟩
  have hwait : classify Sample.refused none Sample.tenLater Sample.settings.retryInterval =
      .wait (.ofSeconds 20) :=
    ((hdecisions Sample.settings.retryInterval Sample.tenLater none).1 _).mpr
      ⟨by decide, by decide⟩
  refine ⟨hfailure, hwait, ?_⟩
  exact (hdecisions Sample.settings.retryInterval Sample.tenLater none).2.2.2 _
    Sample.halfMinuteLater none (by decide) hwait (by decide)

end Sync

end SecretProjection
