import SecretProjection.Proofs.Runs

/-!
# Edits of the spec

An edit gives the spec a generation that it never had before.  The condition of the latest
attempt tells the generation that was tried, and since failures record it as well, it is its type
that tells whether the spec of that generation was synchronised.

No generation comes back, so two reconciliations at the same generation worked with the same spec.
-/

namespace SecretProjection

universe u v w x

namespace Sync

open Cluster Projection

section Generations

variable {ε : Type u} {σ : Type v}

/-!
## Generations
-/

/-- The generations that a projection went through, the newest first. -/
def generations (first : Option Int64) : List (Happening ε σ) -> List (Option Int64)
  | [] => [first]
  | .edited generation :: past => generation :: generations first past
  | _ :: past => generations first past

/-- The recorded reconciliations belong to generations of the past, and one at the generation of
a projection worked with the spec of that projection. -/
structure Follows (first : Option Int64) (past : List (Happening ε σ)) (unit : Projection) :
    Prop where
  current : unit.metadata.generation ∈ generations first past
  recorded : forall done, .recorded done ∈ past ->
    done.unit.metadata.generation ∈ generations first past
  spec : forall done, .recorded done ∈ past ->
    done.unit.metadata.generation = unit.metadata.generation -> done.unit.spec = unit.spec

variable {first : Option Int64} {past : List (Happening ε σ)} {unit : Projection}

theorem follows_start (h : unit.metadata.generation = first) :
    Follows first ([] : List (Happening ε σ)) unit where
  current := by simp [generations, h]
  recorded := by
    intro done hmem
    cases hmem
  spec := by
    intro done hmem
    cases hmem

/-- What neither records nor edits does not matter. -/
theorem Follows.skip {happening : Happening ε σ} {next : Projection} (h : Follows first past unit)
    (hgenerations : generations first (happening :: past) = generations first past)
    (hother : forall done, .recorded done ≠ happening) (hspec : next.spec = unit.spec)
    (hgeneration : next.metadata.generation = unit.metadata.generation) :
    Follows first (happening :: past) next where
  current := by
    rw [hgenerations, hgeneration]
    exact h.current
  recorded := by
    intro done hmem
    rw [hgenerations]
    rcases List.mem_cons.mp hmem with heq | hpast
    · exact absurd heq (hother done)
    · exact h.recorded done hpast
  spec := by
    intro done hmem hsame
    rcases List.mem_cons.mp hmem with heq | hpast
    · exact absurd heq (hother done)
    · rw [hspec]
      exact h.spec done hpast (hsame.trans hgeneration)

theorem Follows.record {source : SecretSource ε σ} {now : Instant} {state : State}
    (h : Follows first past unit) (status : Option Status) :
    Follows first (.recorded ⟨unit, source, now, state⟩ :: past) (withRecord unit status) where
  current := h.current
  recorded := by
    intro done hmem
    rcases List.mem_cons.mp hmem with heq | hpast
    · cases heq
      exact h.current
    · exact h.recorded done hpast
  spec := by
    intro done hmem hsame
    rcases List.mem_cons.mp hmem with heq | hpast
    · cases heq
      rfl
    · exact h.spec done hpast hsame

theorem Follows.edit {spec : Spec} {generation : Option Int64} (h : Follows first past unit)
    (hfresh : generation ∉ generations first past) :
    Follows first (.edited generation :: past) (edit unit spec generation) where
  current := List.mem_cons_self
  recorded := by
    intro done hmem
    rcases List.mem_cons.mp hmem with heq | hpast
    · cases heq
    · exact List.mem_cons_of_mem _ (h.recorded done hpast)
  spec := by
    intro done hmem hsame
    rcases List.mem_cons.mp hmem with heq | hpast
    · cases heq
    · have hknown := h.recorded done hpast
      rw [hsame] at hknown
      exact absurd hknown hfresh

end Generations

section Steps

variable {ε : Type u} {σ : Type v} {φ : Type w} {τ : Type x}
variable {store : Output.Store φ τ} {settings : Settings}
variable {past : List (Happening ε σ)} {start world next : World ε σ τ}

theorem follows_step {happening : Happening ε σ} {first : Option Int64}
    (hstep : Step store settings world happening next)
    (hfresh : (generations first (happening :: past)).Nodup)
    (h : Follows first past world.unit) : Follows first (happening :: past) next.unit := by
  cases hstep with
  | recorded houtcome => exact h.record _
  | unrecorded _ => exact h.skip rfl (fun _ => nofun) rfl rfl
  | edited spec generation => exact h.edit (List.nodup_cons.mp hfresh).1
  | rewritten hread =>
      rw [ofJson?_toJson] at hread
      cases hread
      exact h.skip rfl (fun _ => nofun) rfl rfl
  | disturbed source state => exact h.skip rfl (fun _ => nofun) rfl rfl

theorem nodup_generations_of_cons {happening : Happening ε σ} {first : Option Int64}
    (h : (generations first (happening :: past)).Nodup) : (generations first past).Nodup := by
  cases happening with
  | edited generation => exact (List.nodup_cons.mp h).2
  | _ => exact h

theorem follows_of_run (h : Run store settings start past world)
    (hfresh : (generations start.unit.metadata.generation past).Nodup) :
    Follows start.unit.metadata.generation past world.unit := by
  induction h with
  | start => exact follows_start rfl
  | step _ hstep ih => exact follows_step hstep hfresh (ih (nodup_generations_of_cons hfresh))

end Steps

/-!
## Decisions
-/

section Decisions

open Trigger

variable {unit : Projection} {existing : Option Secret} {now : Instant} {retryInterval : Duration}

theorem of_classify_settled
    (h : classify unit existing now retryInterval = .sync .scheduled ∨
      classify unit existing now retryInterval = .sync (.forced .outputDrift)) :
    specChanged unit = false ∧ lastAttemptFailed unit = false := by
  unfold classify at h
  cases hchanged : specChanged unit with
  | true => simp [hchanged] at h
  | false =>
      cases hfailed : lastAttemptFailed unit with
      | false => exact ⟨rfl, rfl⟩
      | true =>
          cases hwait : backoff unit now retryInterval <;>
            simp [hchanged, hfailed, hwait] at h

theorem classify_of_specChanged (h : specChanged unit = true) :
    classify unit existing now retryInterval = .sync (.forced .specChanged) := by
  unfold classify
  rw [if_pos h]

theorem specChanged_of_status_none (h : unit.status = none) : specChanged unit = true := by
  simp [specChanged, Projection.lastCondition, h]

section Recorded

variable {status : Status} {condition : Condition}
variable (hstatus : unit.status = some status) (hconditions : status.conditions = [condition])

include hstatus hconditions

theorem lastCondition_eq : unit.lastCondition = some condition := by
  simp [Projection.lastCondition, hstatus, hconditions]

theorem specChanged_eq :
    specChanged unit = decide (condition.observedGeneration ≠ unit.metadata.generation) := by
  simp only [specChanged, lastCondition_eq hstatus hconditions]

theorem lastAttemptFailed_eq :
    lastAttemptFailed unit = (condition.type == failureType) := by
  unfold lastAttemptFailed lastFailure
  rw [lastCondition_eq hstatus hconditions]
  cases h : condition.type == failureType <;> simp [h]

end Recorded

end Decisions

section Attempts

variable {ε : Type u} {σ : Type v}

theorem Reconciliation.observedGeneration_condition (done : Reconciliation ε σ)
    (time : Instant) :
    (done.condition time).observedGeneration = done.unit.metadata.generation := by
  unfold Reconciliation.condition
  cases done.state <;> rfl

theorem Reconciliation.synced_of_condition {done : Reconciliation ε σ} {time : Instant}
    (hattempt : done.state.isAttempt = true)
    (h : ((done.condition time).type == Trigger.failureType) = false) :
    exists written, done.state = .synced written := by
  unfold Reconciliation.condition at h
  cases hstate : done.state with
  | notDue =>
      rw [hstate] at hattempt
      cases hattempt
  | synced written => exact ⟨written, rfl⟩
  | failed fault =>
      simp [hstate, Trigger.failureType] at h

end Attempts

section Runs

open Trigger

variable {ε : Type u} {σ : Type v} {φ : Type w} {τ : Type x}
variable {store : Output.Store φ τ} {settings : Settings}
variable {past : List (Happening ε σ)} {start world : World ε σ τ}

/-- Over any run that starts without a status and gives each edit a new generation, a decision
that takes the spec for synchronised is right: a synchronisation with this very spec was recorded.
As long as no attempt at the current generation was recorded, the decision is to synchronise at
once because of the spec, whatever has failed or was lost before. -/
theorem edit_never_lost (h : Run store settings start past world)
    (hstart : start.unit.status = none)
    (hfresh : (generations start.unit.metadata.generation past).Nodup)
    (existing : Option Secret) (now : Instant) (retryInterval : Duration) :
    (classify world.unit existing now retryInterval = .sync .scheduled ∨
        classify world.unit existing now retryInterval = .sync (.forced .outputDrift) ->
      exists done written, .recorded done ∈ past ∧ done.state = .synced written ∧
        done.unit.spec = world.unit.spec) ∧
      ((forall done, .recorded done ∈ past -> done.state ≠ .notDue ->
          done.unit.metadata.generation ≠ world.unit.metadata.generation) ->
        classify world.unit existing now retryInterval = .sync (.forced .specChanged)) := by
  have hfollows := follows_of_run h hfresh
  have hattempt := (shows_of_run h hstart).2
  unfold ShowsAttempt at hattempt
  cases hlatest : latest State.isAttempt past with
  | none =>
      rw [hlatest] at hattempt
      have hchanged := specChanged_of_status_none hattempt
      constructor
      · intro hsettled
        rw [(of_classify_settled hsettled).1] at hchanged
        cases hchanged
      · intro _
        exact classify_of_specChanged hchanged
  | some found =>
      rcases found with ⟨done, rewritten⟩
      rcases of_latest hlatest with ⟨hmem, hstate⟩
      rw [hlatest] at hattempt
      rcases hattempt with ⟨status, hstatus, hconditions⟩
      have hchanged := specChanged_eq hstatus hconditions
      rw [done.observedGeneration_condition] at hchanged
      constructor
      · intro hsettled
        rcases of_classify_settled hsettled with ⟨hunchanged, hsucceeded⟩
        rw [lastAttemptFailed_eq hstatus hconditions] at hsucceeded
        rcases Reconciliation.synced_of_condition hstate hsucceeded with ⟨written, hsynced⟩
        have hsame : done.unit.metadata.generation = world.unit.metadata.generation := by
          simpa [hunchanged] using hchanged
        exact ⟨done, written, hmem, hsynced, hfollows.spec done hmem hsame⟩
      · intro hnone
        apply classify_of_specChanged
        have hne : done.state ≠ .notDue := by
          intro heq
          rw [heq] at hstate
          cases hstate
        rw [hchanged]
        exact decide_eq_true (hnone done hmem hne)

end Runs

/-!
## A lost status

The sample projection is edited after its first synchronisation.  The status of the second one is
lost, so that the spec is tried once more.
-/

namespace Sample

def edited : World String String Output.Memory where
  unit := edit (withRecord fresh.unit firstSync.status) editedSpec (some 2)
  source := fresh.source
  state := firstSync.store

def lostSync : Outcome String String Output.Memory :=
  edited.reconcile Output.Memory.toStore settings (.forced .specChanged) late

def repeated : World String String Output.Memory := ⟨edited.unit, edited.source, lostSync.store⟩

def repeatedSync : Outcome String String Output.Memory :=
  repeated.reconcile Output.Memory.toStore settings (.forced .specChanged) late

def settled : World String String Output.Memory :=
  ⟨withRecord repeated.unit repeatedSync.status, repeated.source, repeatedSync.store⟩

theorem state_lostSync : lostSync.state = .synced true := by decide +kernel

theorem state_repeatedSync : repeatedSync.state = .synced false := by decide +kernel

theorem run_lost :
    Run Output.Memory.toStore settings fresh
      [.unrecorded ⟨edited.unit, edited.source, late, .synced true⟩, .edited (some 2),
        .recorded success] repeated := by
  have hlost : Step Output.Memory.toStore settings edited
      (.unrecorded ⟨edited.unit, edited.source, late, lostSync.state⟩) repeated :=
    .unrecorded rfl
  rw [state_lostSync] at hlost
  exact ((Run.start.step step_firstSync).step (.edited _ editedSpec (some 2))).step hlost

theorem run_settled :
    Run Output.Memory.toStore settings fresh
      [.recorded ⟨repeated.unit, repeated.source, late, .synced false⟩,
        .unrecorded ⟨edited.unit, edited.source, late, .synced true⟩, .edited (some 2),
        .recorded success] settled := by
  have hrepeated : Step Output.Memory.toStore settings repeated
      (.recorded ⟨repeated.unit, repeated.source, late, repeatedSync.state⟩) settled :=
    .recorded rfl
  rw [state_repeatedSync] at hrepeated
  exact run_lost.step hrepeated

end Sample

theorem lost_edit_repeated :
    Trigger.classify Sample.repeated.unit none Sample.late (.ofSeconds 30) =
        .sync (.forced .specChanged) ∧
      exists done written,
        done.state = .synced written ∧ done.unit.spec = Sample.settled.unit.spec ∧
          (.recorded done : Happening String String) ∈
            [.recorded ⟨Sample.repeated.unit, Sample.repeated.source, Sample.late, .synced false⟩,
              .unrecorded ⟨Sample.edited.unit, Sample.edited.source, Sample.late, .synced true⟩,
              .edited (some 2), .recorded Sample.success] := by
  constructor
  · apply (edit_never_lost Sample.run_lost rfl (by decide +kernel) none Sample.late
      (.ofSeconds 30)).2
    intro done hmem _
    have hdone : done = Sample.success := by simpa using hmem
    rw [hdone]
    decide +kernel
  · have hscheduled : Trigger.classify Sample.settled.unit none Sample.late (.ofSeconds 30) =
        .sync (.forced .outputDrift) := by decide +kernel
    rcases (edit_never_lost Sample.run_settled rfl (by decide +kernel) none Sample.late
      (.ofSeconds 30)).1 (.inr hscheduled) with ⟨done, written, hmem, hstate, hspec⟩
    exact ⟨done, written, hstate, hspec, hmem⟩

end Sync

end SecretProjection
