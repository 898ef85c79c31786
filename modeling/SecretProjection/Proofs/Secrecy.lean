import SecretProjection.Proofs.Disclosure
import SecretProjection.Proofs.Output

/-!
# Secrets and the status

The status of a projection can be read by many who must not read the payloads.  Two runs with
sources that differ in the characters of secret strings only are compared by the statuses that
they return.

A success records leases and times, which the two runs have in common.  A failure records the
wording of its fault.  The faults of reading and of committing are the same in both runs, and so
are those of a template that stops both runs at the same place, unless one of the functions that
disclose is called there.  For these the statuses are the same only if the wording happens to be.
-/

namespace SecretProjection

universe u v w x

/-!
# Faults of a commit to memory
-/

namespace Output

namespace Memory

open Cluster

variable {memory : Memory} {desired : Secret} {existing : Option Secret}

theorem elapsed_settle_le :
    (settle Memory.toStore memory desired existing).elapsed ≤ memory.onWrite.delay := by
  unfold settle
  cases plan desired existing with
  | none => exact Nat.zero_le _
  | some secret => exact Nat.le_refl _

theorem settle_eq_error {fault : Fault}
    (h : (settle Memory.toStore memory desired existing).result = .error fault) :
    memory.onWrite.fault = some fault ∧
      (settle Memory.toStore memory desired existing).elapsed = memory.onWrite.delay := by
  unfold settle at h ⊢
  cases hplan : plan desired existing with
  | none =>
      rw [hplan] at h
      cases h
  | some secret =>
      rw [hplan] at h
      refine ⟨?_, rfl⟩
      cases hwrite : memory.onWrite.fault with
      | none =>
          simp [toStore, write, Timed.event, Timed.map, resultOf, hwrite, Except.map] at h
      | some reason =>
          simp [toStore, write, Timed.event, Timed.map, resultOf, hwrite, Except.map] at h
          rw [h]

theorem commit_of_unread {owner : Projection} {document : Document} {fault : Fault}
    (hbuild : build owner document = .ok desired) (hget : memory.onGet.fault = some fault) :
    (commit Memory.toStore memory owner document).elapsed = memory.onGet.delay ∧
      (commit Memory.toStore memory owner document).result = .error fault := by
  have hresult : (memory.get owner.metadata.namespaceText document.name).result =
      .error fault := by
    simp [get, Timed.event, resultOf, hget]
  rw [commit_of_built hbuild]
  exact ⟨Timed.elapsed_bind_of_error hresult, Timed.result_bind_of_error hresult⟩

theorem commit_of_read {owner : Projection} {document : Document}
    (hbuild : build owner document = .ok desired) (hget : memory.onGet.fault = none) :
    exists existing,
      (commit Memory.toStore memory owner document).elapsed =
        memory.onGet.delay + (settle Memory.toStore memory desired existing).elapsed ∧
      (commit Memory.toStore memory owner document).result =
        (settle Memory.toStore memory desired existing).result := by
  have hresult : (memory.get owner.metadata.namespaceText document.name).result =
      .ok (memory.secrets.get? (keyOf owner.metadata.namespaceText document.name)) := by
    simp [get, Timed.event, resultOf, hget]
  rw [commit_of_built hbuild]
  exact ⟨_, Timed.elapsed_bind_of_ok hresult, Timed.result_bind_of_ok hresult⟩

end Memory

end Output

namespace Sync

open Output

/-- The only fault that a commit to memory can end in.  The document plays no part in it. -/
def commitFault (memory : Memory) (settings : Settings) (elapsed : Duration)
    (unit : Projection) : Fault :=
  let late := lateFault settings.timeout "writing output Secret"
  match ownerReference? unit, memory.onGet.fault, memory.onWrite.fault with
  | none, _, _ => ownerFault unit
  | some _, some fault, _ =>
      if memory.onGet.delay ≤ remaining settings elapsed then fault else late
  | some _, none, some fault =>
      if memory.onGet.delay + memory.onWrite.delay ≤ remaining settings elapsed then fault
      else late
  | some _, none, none => late

theorem commit_eq_error {memory : Memory} {settings : Settings} {elapsed : Duration}
    {unit : Projection} {document : Document} {fault : Fault}
    (h : (commit Memory.toStore memory settings elapsed unit document).result = .error fault) :
    fault = commitFault memory settings elapsed unit := by
  unfold commit at h
  unfold commitFault
  cases hreference : ownerReference? unit with
  | none =>
      have hbuild : build unit document = .error (ownerFault unit) := by
        simp only [build, hreference]
      rw [commit_of_unbuilt hbuild, Timed.result_within_of_le (Nat.zero_le _)] at h
      cases h
      rfl
  | some reference =>
      have hbuild : exists desired, build unit document = .ok desired := by
        simp only [build, hreference]
        exact ⟨_, rfl⟩
      rcases hbuild with ⟨desired, hbuild⟩
      cases hget : memory.onGet.fault with
      | some reason =>
          rcases Memory.commit_of_unread hbuild hget with ⟨helapsed, hresult⟩
          by_cases htime : memory.onGet.delay ≤ remaining settings elapsed
          · rw [Timed.result_within_of_le (helapsed ▸ htime), hresult] at h
            cases h
            exact (if_pos htime).symm
          · rw [Timed.result_within_of_not_le (helapsed ▸ htime)] at h
            cases h
            exact (if_neg htime).symm
      | none =>
          rcases Memory.commit_of_read hbuild hget with ⟨existing, helapsed, hresult⟩
          by_cases htime : (Output.commit Memory.toStore memory unit document).elapsed ≤
              remaining settings elapsed
          · rw [Timed.result_within_of_le htime, hresult] at h
            rcases Memory.settle_eq_error h with ⟨hwrite, hsettle⟩
            rw [helapsed, hsettle] at htime
            rw [hwrite]
            exact (if_pos htime).symm
          · rw [Timed.result_within_of_not_le htime] at h
            cases h
            cases hwrite : memory.onWrite.fault with
            | none => rfl
            | some reason =>
                -- What is late already without a write is late with it.
                have hlate : ¬ memory.onGet.delay + memory.onWrite.delay ≤
                    remaining settings elapsed := by
                  intro hle
                  apply htime
                  rw [helapsed]
                  exact Nat.le_trans (Nat.add_le_add_left Memory.elapsed_settle_le _) hle
                exact (if_neg hlate).symm

/-!
# Where a reconciliation fails
-/

section Failures

variable {ε : Type u} {σ : Type v} {φ : Type w} {τ : Type x}
variable (source : SecretSource ε σ) (store : Output.Store φ τ) (state : τ)
variable (settings : Settings) (unit : Projection)

/-- A failed attempt has stopped in the template of a field, at a place of it, or outside of the
templates. -/
inductive FailsAt : Option (String × Template.Place) -> Fault -> Prop where
  | unread {fault : Fault} :
      (gather source settings unit).result = .error fault ->
      FailsAt none fault
  | unrendered {aggregate : Aggregate} {key : String} {place : Template.Place} {fault : Fault} :
      (gather source settings unit).result = .ok aggregate ->
      Document.FieldStops (.object aggregate.merged.entries) unit.spec.output.stringData.entries
        key place fault ->
      FailsAt (some (key, place)) fault
  | uncommitted {aggregate : Aggregate} {document : Document} {fault : Fault} :
      (gather source settings unit).result = .ok aggregate ->
      Document.render unit.spec.output aggregate.merged = .ok document ->
      (commit store state settings (gather source settings unit).elapsed unit document).result =
        .error fault ->
      FailsAt none fault

end Failures

section Runs

variable {ε : Type u} {σ : Type v} {φ : Type w} {τ : Type x}
variable {source : SecretSource ε σ} {store : Output.Store φ τ} {state : τ}
variable {settings : Settings} {unit : Projection}

theorem result_attempt_eq_error_iff_failsAt {fault : Fault} :
    (attempt source store state settings unit).result = .error fault <->
      exists spot, FailsAt source store state settings unit spot fault := by
  constructor
  · intro h
    have hending : Ending source store state settings unit _ := ending_attempt
    generalize attempt source store state settings unit = done at h hending
    cases hending with
    | unread hread =>
        cases h
        exact ⟨none, .unread hread⟩
    | unrendered hread hrender =>
        cases h
        rcases Document.render_eq_error.mp hrender with ⟨key, place, hstops⟩
        exact ⟨some (key, place), .unrendered hread hstops⟩
    | uncommitted hread hrender hcommit =>
        cases h
        exact ⟨none, .uncommitted hread hrender hcommit⟩
    | committed _ _ _ => cases h
  · intro h
    rcases h with ⟨spot, hfails⟩
    cases hfails with
    | unread hread => rw [attempt_of_unread hread]
    | unrendered hread hstops =>
        have hrender := Document.render_eq_error.mpr ⟨_, _, hstops⟩
        rw [attempt_of_unrendered hread hrender]
    | uncommitted hread hrender hcommit => rw [attempt_of_uncommitted hread hrender hcommit]

/-- A template fault has the kind of its own. -/
theorem FailsAt.kind_eq {key : String} {place : Template.Place} {fault : Fault}
    (h : FailsAt source store state settings unit (some (key, place)) fault) :
    fault.kind = .template := by
  cases h with
  | unrendered _ hstops => exact hstops.kind_eq

theorem failureStatus_eq_iff {fault reason : Fault} {now : Instant} :
    failureStatus unit fault now = failureStatus unit reason now <->
      fault.reason = reason.reason ∧ fault.message = reason.message := by
  constructor
  · intro h
    have hconditions := congrArg Projection.Status.conditions h
    simp only [failureStatus, failureCondition, List.cons.injEq, Cluster.Condition.mk.injEq,
      and_true, true_and] at hconditions
    rcases hconditions with ⟨hmessage, hreason⟩
    exact ⟨hreason, hmessage⟩
  · intro h
    rcases h with ⟨hreason, hmessage⟩
    unfold failureStatus failureCondition
    rw [hreason, hmessage]

end Runs

/-!
# Two runs
-/

section Pairs

variable {ε : Type u} {σ : Type v} {first second : SecretSource ε σ} {memory : Memory}
variable {settings : Settings} {unit : Projection}

/-- Sources that agree are read in the same time. -/
theorem elapsed_gather_eq (h : SecretSource.Agree first second) :
    (gather first settings unit).elapsed = (gather second settings unit).elapsed := by
  have helapsed := congrArg Timed.elapsed (map_mask_gather h settings unit)
  exact helapsed

theorem result_gather_eq (h : SecretSource.Agree first second) :
    (gather first settings unit).result.map Aggregate.mask =
      (gather second settings unit).result.map Aggregate.mask := by
  have hresult := congrArg Timed.result (map_mask_gather h settings unit)
  exact hresult

/-- Whether a run that fails at a spot calls a function that discloses there. -/
def discloses (spot : Option (String × Template.Place)) : Bool :=
  spot.any fun field => field.2.discloses

/-- Two runs that fail at the same spot, where nothing is disclosed, fail with the same fault. -/
theorem FailsAt.fault_eq {spot : Option (String × Template.Place)} {fault reason : Fault}
    (h : SecretSource.Agree first second) (hplain : discloses spot = false)
    (hfault : FailsAt first Memory.toStore memory settings unit spot fault)
    (hreason : FailsAt second Memory.toStore memory settings unit spot reason) :
    fault = reason := by
  cases hfault with
  | unread hread =>
      have hother := eq_error_of_map_eq (result_gather_eq h) hread
      cases hreason with
      | unread hsecond =>
          rw [hother] at hsecond
          cases hsecond
          rfl
      | uncommitted hsecond _ _ =>
          rw [hother] at hsecond
          cases hsecond
  | unrendered hread hstops =>
      rcases exists_ok_of_map_eq (result_gather_eq h) hread with ⟨other, hother, hmask⟩
      cases hreason with
      | unrendered hsecond hothers =>
          rw [hother] at hsecond
          cases hsecond
          have hroots := congrArg (fun aggregate => Json.object aggregate.merged.entries) hmask
          refine hstops.fault_eq ?_ unit.spec.output.stringData.nodup_keys hplain hothers
          rw [Table.mask_object, Table.mask_object]
          exact hroots
  | uncommitted hread _ hcommit =>
      rcases exists_ok_of_map_eq (result_gather_eq h) hread with ⟨other, hother, _⟩
      cases hreason with
      | unread hsecond =>
          rw [hother] at hsecond
          cases hsecond
      | uncommitted _ _ hcommits =>
          rw [commit_eq_error hcommit, commit_eq_error hcommits, elapsed_gather_eq h]

/-- Two runs that fail in the same field, or both outside of the templates, report the same kind
of fault. -/
theorem FailsAt.reason_eq {spot other : Option (String × Template.Place)} {fault reason : Fault}
    (h : SecretSource.Agree first second) (hfield : spot.map (·.1) = other.map (·.1))
    (hfault : FailsAt first Memory.toStore memory settings unit spot fault)
    (hreason : FailsAt second Memory.toStore memory settings unit other reason) :
    fault.reason = reason.reason := by
  cases spot with
  | none =>
      cases other with
      | none => rw [hfault.fault_eq h rfl hreason]
      | some place => cases hfield
  | some place =>
      cases other with
      | none => cases hfield
      | some place =>
          unfold Fault.reason
          rw [hfault.kind_eq, hreason.kind_eq]

theorem status_of_failed {φ : Type w} {τ : Type x} {source : SecretSource ε σ}
    {store : Output.Store φ τ} {state : τ} {trigger : Trigger} {now : Instant} {fault : Fault}
    (h : (reconcile source store state settings unit trigger now).state = .failed fault) :
    (reconcile source store state settings unit trigger now).status =
      some (failureStatus unit fault now) := by
  rcases reconcile_of_failed h with ⟨hresult, hreconcile⟩
  rw [hreconcile, conclude_of_error hresult]

/-- Sources that agree lead to the same leases. -/
theorem leases_eq_of_attempts {φ : Type w} {τ : Type x} {store : Output.Store φ τ} {state : τ}
    (h : SecretSource.Agree first second) {leases others : List Projection.Lease}
    {written rewritten : Bool}
    (hfirst : (attempt first store state settings unit).result = .ok (leases, written))
    (hsecond : (attempt second store state settings unit).result = .ok (others, rewritten)) :
    leases = others := by
  rcases stages_of_attempt hfirst with ⟨aggregate, _, _, hread, _, _, hleases, _, _⟩
  rcases stages_of_attempt hsecond with ⟨other, _, _, hother, _, _, hothers, _, _⟩
  rcases exists_ok_of_map_eq (result_gather_eq h) hread with ⟨found, hfound, hmask⟩
  rw [hother] at hfound
  cases hfound
  injection hmask with _ hmasked
  rw [hleases, hothers, hmasked]

/-- Two runs that differ in the characters of secret strings only return the same status when
both succeed.  When both fail outside of the templates, or in the same field, the statuses are the
same if the place is the same and calls no function that discloses, and otherwise exactly if the
faults are worded alike.  Every failure has such a spot. -/
theorem statuses_of_agreeing_sources (h : SecretSource.Agree first second) (trigger : Trigger)
    (now : Instant) :
    (forall written rewritten,
      (reconcile first Memory.toStore memory settings unit trigger now).state =
        .synced written ->
      (reconcile second Memory.toStore memory settings unit trigger now).state =
        .synced rewritten ->
      (reconcile first Memory.toStore memory settings unit trigger now).status =
        (reconcile second Memory.toStore memory settings unit trigger now).status) ∧
    (forall spot other fault reason,
      (reconcile first Memory.toStore memory settings unit trigger now).state =
        .failed fault ->
      (reconcile second Memory.toStore memory settings unit trigger now).state =
        .failed reason ->
      FailsAt first Memory.toStore memory settings unit spot fault ->
      FailsAt second Memory.toStore memory settings unit other reason ->
      spot.map (·.1) = other.map (·.1) ->
      ((reconcile first Memory.toStore memory settings unit trigger now).status =
          (reconcile second Memory.toStore memory settings unit trigger now).status <->
        spot = other ∧ discloses spot = false ∨ fault.message = reason.message)) ∧
    forall fault,
      (reconcile first Memory.toStore memory settings unit trigger now).state =
        .failed fault ->
      exists spot, FailsAt first Memory.toStore memory settings unit spot fault := by
  refine ⟨?_, ?_, ?_⟩
  · intro written rewritten hfirst hsecond
    rcases reconcile_of_synced hfirst with ⟨leases, hresult, hreconcile⟩
    rcases reconcile_of_synced hsecond with ⟨others, hother, hreconciles⟩
    rw [hreconcile, conclude_of_ok hresult, hreconciles, conclude_of_ok hother]
    rw [leases_eq_of_attempts h hresult hother]
  · intro spot other fault reason hfirst hsecond hfault hreason hfield
    rw [status_of_failed hfirst, status_of_failed hsecond, Option.some.injEq,
      failureStatus_eq_iff]
    constructor
    · intro heq
      exact Or.inr heq.2
    · intro hcases
      refine ⟨hfault.reason_eq h hfield hreason, ?_⟩
      rcases hcases with ⟨rfl, hplain⟩ | hmessage
      · rw [hfault.fault_eq h hplain hreason]
      · exact hmessage
  · intro fault hfirst
    exact result_attempt_eq_error_iff_failsAt.mp (reconcile_of_failed hfirst).1

end Pairs

namespace Sample

def run (template password : String) : Outcome String String Memory :=
  reconcile (script password).toSource Memory.toStore .empty settings (projection template none)
    .scheduled .epoch

def aggregate (password : String) : Aggregate where
  merged := .ofList [("db", .object [("password", .string password)])]
  leases := [⟨"db", "", 0, false⟩]

theorem agree (password other : String) :
    SecretSource.Agree (script password).toSource (script other).toSource :=
  Script.agree_toSource rfl rfl

theorem gather_eq_ok (template password : String) :
    (gather (script password).toSource settings (projection template none)).result =
      .ok (aggregate password) := rfl

/-- A template that takes the password for an integer. -/
def numeric : String := "\x7b\x7b printf \"%d\" .db.password \x7d\x7d"

/-- A template with a user that is missing. -/
def incomplete : String := "\x7b\x7b .db.password \x7d\x7d:\x7b\x7b .db.user | upper \x7d\x7d"

/-- The call where `numeric` stops. -/
def numericSpot : Option (String × Template.Place) :=
  some ("password", .piece 0 (.stage 0 (some .printf)))

/-- The call where `incomplete` stops. -/
def incompleteSpot : Option (String × Template.Place) :=
  some ("password", .piece 2 (.stage 1 (some .upper)))

theorem failsAt_numeric (password : String) :
    FailsAt (script password).toSource Memory.toStore .empty settings (projection numeric none)
      numericSpot (Document.fieldFault "password"
        (.execute (.notAnInteger (.string password)))) := by
  have hparse : (Template.parse numeric).toOption = some
      [.action [.call .printf [.literal (.string "%d"), .field ["db", "password"]]]] := by
    decide +kernel
  have hcall : Template.Command.eval (.object (aggregate password).merged.entries) []
      (.call .printf [.literal (.string "%d"), .field ["db", "password"]]) =
        .error (.notAnInteger (.string password)) := rfl
  refine .unrendered (gather_eq_ok numeric password) ?_
  exact .here (.piece (ok_of_toOption hparse) (.stage (.here hcall)))

theorem failsAt_incomplete (password : String) :
    FailsAt (script password).toSource Memory.toStore .empty settings (projection incomplete none)
      incompleteSpot (Document.fieldFault "password" (.execute .noValue)) := by
  have hparse : (Template.parse incomplete).toOption = some
      [.action [.operand (.field ["db", "password"])], .text ":",
        .action [.operand (.field ["db", "user"]), .call .upper []]] := by
    decide +kernel
  have hpassword : Template.Node.output (.object (aggregate password).merged.entries)
      (.action [.operand (.field ["db", "password"])]) = .ok password := rfl
  have huser : Template.Command.eval (.object (aggregate password).merged.entries) []
      (.operand (.field ["db", "user"])) = .ok .null := rfl
  have hcall : Template.Command.eval (.object (aggregate password).merged.entries) [.null]
      (.call .upper []) = .error .noValue := rfl
  refine .unrendered (gather_eq_ok incomplete password) ?_
  exact .here (.piece (ok_of_toOption hparse)
    (.next hpassword (.next rfl (.stage (.next huser (.here hcall))))))

end Sample

theorem passwords_kept_secret :
    (Sample.run "\x7b\x7b .db.password \x7d\x7d" "hunter2").status =
        (Sample.run "\x7b\x7b .db.password \x7d\x7d" "swordfish").status ∧
      (Sample.run Sample.incomplete "hunter2").status =
        (Sample.run Sample.incomplete "swordfish").status := by
  have hagree := Sample.agree "hunter2" "swordfish"
  constructor
  · have hfirst : (Sample.run "\x7b\x7b .db.password \x7d\x7d" "hunter2").state =
        .synced true := by
      decide +kernel
    have hsecond : (Sample.run "\x7b\x7b .db.password \x7d\x7d" "swordfish").state =
        .synced true := by
      decide +kernel
    exact (statuses_of_agreeing_sources hagree .scheduled .epoch).1 true true hfirst hsecond
  · have hfirst : (Sample.run Sample.incomplete "hunter2").state =
        .failed (Document.fieldFault "password" (.execute .noValue)) := by
      decide +kernel
    have hsecond : (Sample.run Sample.incomplete "swordfish").state =
        .failed (Document.fieldFault "password" (.execute .noValue)) := by
      decide +kernel
    apply ((statuses_of_agreeing_sources hagree .scheduled .epoch).2.1 _ _ _ _ hfirst hsecond
      (Sample.failsAt_incomplete "hunter2") (Sample.failsAt_incomplete "swordfish") rfl).mpr
    exact Or.inl ⟨rfl, rfl⟩

/-- A password that is printed as an integer shows in the status. -/
theorem password_shown :
    SecretSource.Agree (Sample.script "hunter2").toSource (Sample.script "swordfish").toSource ∧
      exists fault reason,
        (Sample.run Sample.numeric "hunter2").state = .failed fault ∧
        (Sample.run Sample.numeric "swordfish").state = .failed reason ∧
        FailsAt (Sample.script "hunter2").toSource Memory.toStore .empty Sample.settings
          (Sample.projection Sample.numeric none) Sample.numericSpot fault ∧
        FailsAt (Sample.script "swordfish").toSource Memory.toStore .empty Sample.settings
          (Sample.projection Sample.numeric none) Sample.numericSpot reason ∧
        fault.kind = reason.kind ∧
        (Sample.run Sample.numeric "hunter2").status ≠
          (Sample.run Sample.numeric "swordfish").status := by
  refine ⟨Sample.agree _ _, _, _, ?_, ?_, Sample.failsAt_numeric "hunter2",
    Sample.failsAt_numeric "swordfish", rfl, ?_⟩
  · decide +kernel
  · decide +kernel
  · decide +kernel

end Sync

end SecretProjection
