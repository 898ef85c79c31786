import Mathlib.Tactic.Ring
import SecretProjection.Proofs.Outcomes

/-!
# Exact schedules

The time until the next synchronisation is counted in words of 64 bits, and a product that does not
fit is cut down to the largest word.  Counting exactly would make no difference: as many
milliseconds as that lead out of the range of instants, so that nothing is planned either way.

Hence what a success plans is told by exact arithmetic: the period of the spec, or else the
percentage of the shortest lease that expires, which never lies behind the end of any lease.
-/

namespace SecretProjection

universe u v w x

open Projection

/-!
## Instants out of range
-/

namespace Instant

/-- The nanoseconds of the whole range of instants. -/
def span : Int := (lastSecond + 1 - firstSecond) * 1000000000

theorem after?_of_span_le {t : Instant} {d : Duration} (h : span ≤ d.nanoseconds) :
    t.after? d = none := by
  cases hafter : t.after? d with
  | none => rfl
  | some next =>
      have hnext := nanoseconds_after?.mp hafter
      have hlower := t.lower
      have hupper := next.upper
      simp only [span, firstSecond, lastSecond] at h hlower hupper
      omega

end Instant

namespace Schedule

/-!
## Products that do not fit
-/

/-- A percentage of a number of seconds, whatever its size. -/
def exactShare (seconds percent : Nat) : Duration := .ofMilliseconds (seconds * percent * 10)

theorem nanoseconds_exactShare (seconds percent : Nat) :
    100 * (exactShare seconds percent).nanoseconds = percent * (seconds * Duration.perSecond) := by
  simp only [exactShare, Duration.ofMilliseconds, Duration.perMillisecond, Duration.perSecond]
  ring

theorem share_eq (seconds percent : Nat) :
    share seconds percent = .ofMilliseconds (min maxMilliseconds (seconds * percent * 10)) := by
  have hmin : min maxMilliseconds (min maxMilliseconds (seconds * percent) * 10) =
      min maxMilliseconds (seconds * percent * 10) := by omega
  rw [share, hmin]

theorem span_le_of_lt {milliseconds : Nat} (h : maxMilliseconds ≤ milliseconds) :
    Instant.span ≤ (Duration.ofMilliseconds milliseconds).nanoseconds := by
  have hmax : Instant.span ≤ (maxMilliseconds * Duration.perMillisecond : Nat) := by decide
  have hle : maxMilliseconds * Duration.perMillisecond ≤
      milliseconds * Duration.perMillisecond := Nat.mul_le_mul_right _ h
  exact Int.le_trans hmax (Int.ofNat_le.mpr hle)

/-- A product that does not fit plans nothing, as the exact one does. -/
theorem after?_share (now : Instant) (seconds percent : Nat) :
    now.after? (share seconds percent) = now.after? (exactShare seconds percent) := by
  rw [share_eq]
  by_cases hfits : seconds * percent * 10 ≤ maxMilliseconds
  · rw [Nat.min_eq_right hfits]
    rfl
  · have hlarge : maxMilliseconds ≤ seconds * percent * 10 := Nat.le_of_not_le hfits
    rw [Nat.min_eq_left hlarge, Instant.after?_of_span_le (span_le_of_lt (Nat.le_refl _)),
      exactShare, Instant.after?_of_span_le (span_le_of_lt hlarge)]

/-!
## Shortest leases
-/

/-- A lease that expires, and none that expires is shorter. -/
structure IsShortest (leases : List Lease) (lease : Lease) : Prop where
  mem : lease ∈ leases
  expires : 0 < lease.leaseDuration.toNat
  least : forall other, other ∈ leases -> 0 < other.leaseDuration.toNat ->
    lease.leaseDuration.toNat ≤ other.leaseDuration.toNat

theorem least?_eq_none {numbers : List Nat} (h : least? numbers = none) : numbers = [] := by
  cases numbers with
  | nil => rfl
  | cons first rest =>
      unfold least? at h
      cases hrest : least? rest with
      | none =>
          rw [hrest] at h
          cases h
      | some m =>
          rw [hrest] at h
          cases h

theorem least?_le {numbers : List Nat} {n : Nat} (h : least? numbers = some n) :
    forall m, m ∈ numbers -> n ≤ m := by
  induction numbers generalizing n with
  | nil => cases h
  | cons first rest ih =>
      intro m hmem
      unfold least? at h
      cases hrest : least? rest with
      | none =>
          rw [hrest] at h
          cases h
          rw [least?_eq_none hrest] at hmem
          exact Nat.le_of_eq (List.mem_singleton.mp hmem).symm
      | some k =>
          rw [hrest] at h
          cases h
          rcases List.mem_cons.mp hmem with rfl | hold
          · exact Nat.min_le_left _ _
          · exact Nat.le_trans (Nat.min_le_right _ _) (ih hrest m hold)

theorem mem_expiring {leases : List Lease} {n : Nat} :
    n ∈ (leases.map (·.leaseDuration.toNat)).filter (0 < ·) <->
      exists lease, lease ∈ leases ∧ lease.leaseDuration.toNat = n ∧ 0 < n := by
  simp only [List.mem_filter, List.mem_map, decide_eq_true_eq]
  constructor
  · intro h
    rcases h with ⟨⟨lease, hmem, heq⟩, hpos⟩
    exact ⟨lease, hmem, heq, hpos⟩
  · intro h
    rcases h with ⟨lease, hmem, heq, hpos⟩
    exact ⟨⟨lease, hmem, heq⟩, hpos⟩

theorem exists_isShortest {leases : List Lease} {seconds : Nat}
    (h : shortestLease leases = some seconds) :
    exists lease, IsShortest leases lease ∧ lease.leaseDuration.toNat = seconds := by
  rcases mem_expiring.mp (least?_mem h) with ⟨lease, hmem, heq, hpos⟩
  refine ⟨lease, ⟨hmem, heq.symm ▸ hpos, ?_⟩, heq⟩
  intro other hother hexpires
  rw [heq]
  exact least?_le h _ (mem_expiring.mpr ⟨other, hother, rfl, hexpires⟩)

theorem not_expires_of_shortestLease {leases : List Lease} (h : shortestLease leases = none)
    {lease : Lease} (hmem : lease ∈ leases) : lease.leaseDuration.toNat = 0 := by
  apply Nat.eq_zero_of_not_pos
  intro hpos
  have hexpiring := mem_expiring.mpr ⟨lease, hmem, rfl, hpos⟩
  rw [least?_eq_none h] at hexpiring
  cases hexpiring

/-!
## Intervals
-/

/-- The time between two synchronisations by exact arithmetic: the period if there is one, else
the percentage of the shortest lease that expires, else none. -/
inductive ExactInterval (spec : Spec) (leases : List Lease) : Option Duration -> Prop where
  | period {text : String} {length : Duration} :
      spec.refreshPeriod = some text ->
      Duration.parse? text = some length ->
      ExactInterval spec leases (some length)
  | percentage {shortest : Lease} {length : Duration} :
      spec.refreshPeriod = none ->
      IsShortest leases shortest ->
      100 * length.nanoseconds =
        spec.refreshThreshold.toNat * (shortest.leaseDuration.toNat * Duration.perSecond) ->
      ExactInterval spec leases (some length)
  | unplanned :
      spec.refreshPeriod = none ->
      (forall lease, lease ∈ leases -> lease.leaseDuration.toNat = 0) ->
      ExactInterval spec leases none

theorem period_eq_ok {text : String} {length : Duration} (h : period text = .ok length) :
    Duration.parse? text = some length := by
  unfold period at h
  cases hparse : Duration.parse? text with
  | none =>
      rw [hparse] at h
      cases h
  | some found =>
      rw [hparse] at h
      cases h
      rfl

theorem percentage_toNat {threshold : UInt32} {percent : Nat}
    (h : percentage threshold = .ok percent) : percent = threshold.toNat := by
  unfold percentage at h
  by_cases hrange : 1 ≤ threshold.toNat ∧ threshold.toNat ≤ 100
  · rw [if_pos hrange] at h
    cases h
    rfl
  · rw [if_neg hrange] at h
    cases h

/-- The interval that is counted plans what the exact one plans. -/
theorem exists_exactInterval {spec : Spec} {leases : List Lease} {found : Option Duration}
    (h : interval spec leases = .ok found) :
    exists exact, ExactInterval spec leases exact ∧
      forall now, next found (some now) = next exact (some now) := by
  unfold interval at h
  cases htext : spec.refreshPeriod with
  | some text =>
      cases hperiod : period text with
      | error fault =>
          simp only [htext, hperiod, Except.map] at h
          cases h
      | ok length =>
          simp only [htext, hperiod, Except.map] at h
          cases h
          exact ⟨some length, .period htext (period_eq_ok hperiod), fun _ => rfl⟩
  | none =>
      cases hlease : shortestLease leases with
      | none =>
          simp only [htext, hlease] at h
          cases h
          exact ⟨none, .unplanned htext fun _ => not_expires_of_shortestLease hlease,
            fun _ => rfl⟩
      | some seconds =>
          cases hpercent : percentage spec.refreshThreshold with
          | error fault =>
              simp only [htext, hlease, hpercent, Except.map] at h
              cases h
          | ok percent =>
              simp only [htext, hlease, hpercent, Except.map] at h
              cases h
              rcases exists_isShortest hlease with ⟨shortest, hshortest, hseconds⟩
              refine ⟨some (exactShare seconds percent), .percentage htext hshortest ?_,
                fun now => after?_share now seconds percent⟩
              rw [nanoseconds_exactShare, percentage_toNat hpercent, hseconds]

theorem ExactInterval.within_lease {spec : Spec} {leases : List Lease} {length : Duration}
    (h : ExactInterval spec leases (some length)) (hvalid : validate spec = .ok ())
    (hperiod : spec.refreshPeriod = none) :
    0 < length.nanoseconds ∧
      forall lease, lease ∈ leases -> 0 < lease.leaseDuration.toNat ->
        length ≤ .ofSeconds lease.leaseDuration.toNat := by
  cases h with
  | period htext _ =>
      rw [hperiod] at htext
      cases htext
  | @percentage shortest _ _ hshortest hlength =>
      rcases percentage_of_validate hvalid with ⟨percent, hpercent⟩
      rcases percentage_eq_ok hpercent with ⟨hone, hhundred⟩
      rw [← percentage_toNat hpercent] at hlength
      have hpos : 0 < percent * (shortest.leaseDuration.toNat * Duration.perSecond) :=
        Nat.mul_pos hone (Nat.mul_pos hshortest.expires (by decide))
      refine ⟨by omega, ?_⟩
      intro lease hmem hexpires
      have hshare : percent * (shortest.leaseDuration.toNat * Duration.perSecond) ≤
          100 * (shortest.leaseDuration.toNat * Duration.perSecond) :=
        Nat.mul_le_mul_right _ hhundred
      have hleast : shortest.leaseDuration.toNat * Duration.perSecond ≤
          lease.leaseDuration.toNat * Duration.perSecond :=
        Nat.mul_le_mul_right _ (hshortest.least lease hmem hexpires)
      show length.nanoseconds ≤ lease.leaseDuration.toNat * Duration.perSecond
      omega

end Schedule

namespace Sync

section Plans

variable {ε : Type u} {σ : Type v} {φ : Type w} {τ : Type x}
variable {source : SecretSource ε σ} {store : Output.Store φ τ} {state : τ}
variable {settings : Settings} {unit : Projection} {trigger : Trigger} {now : Instant}

/-- A success plans the next synchronisation exactly one interval later, for the leases that were
just read, and plans nothing if that is no instant or there is no interval.  An interval that comes
from the leases is positive and no longer than any of them that expires. -/
theorem success_plans_exactly {written : Bool}
    (h : (reconcile source store state settings unit trigger now).state = .synced written) :
    exists status interval,
      (reconcile source store state settings unit trigger now).status = some status ∧
      source.Grants unit.metadata.namespaceText unit.spec.definitions status.leases ∧
      Schedule.ExactInterval unit.spec status.leases interval ∧
      (forall planned : Instant, status.nextUpdate = some planned <->
        exists length, interval = some length ∧
          planned.nanoseconds = now.nanoseconds + length.nanoseconds) ∧
      (unit.spec.refreshPeriod = none -> forall length, interval = some length ->
        0 < length.nanoseconds ∧
          forall lease, lease ∈ status.leases -> 0 < lease.leaseDuration.toNat ->
            length ≤ .ofSeconds lease.leaseDuration.toNat) := by
  have hreport : Reports source settings unit now
      (reconcile source store state settings unit trigger now).state
      (reconcile source store state settings unit trigger now).status
      (reconcile source store state settings unit trigger now).requeue := reports_reconcile
  generalize reconcile source store state settings unit trigger now = outcome at h hreport
  rw [h] at hreport
  generalize outcome.status = found, outcome.requeue = requeue at hreport
  cases hreport with
  | @synced leases interval _ hvalid hgrants hinterval =>
      rcases Schedule.exists_exactInterval hinterval with ⟨exact, hexact, hnext⟩
      refine ⟨_, exact, rfl, hgrants, hexact, ?_, ?_⟩
      · intro planned
        have hplanned : (successRecord unit now interval leases).nextUpdate =
            Schedule.next exact (some now) := hnext now
        rw [hplanned]
        cases exact with
        | none => simp [Schedule.next]
        | some length => simpa [Schedule.next] using Instant.nanoseconds_after?
      · intro hperiod length hlength
        subst hlength
        exact hexact.within_lease hvalid hperiod

end Plans

namespace Sample

/-- A reading whose lease lasts for as many seconds as can be said. -/
def longReading : Reading :=
  ⟨.ofList [("password", .string "p")], "lease-1", 18446744073709551615, true⟩

def longScript : Script where
  identities := .empty
  paths := .ofList [("kv/db", ⟨.zero, none, longReading⟩)]

def longSync : Outcome String String Output.Memory :=
  reconcile longScript.toSource Output.Memory.toStore .empty settings
    (projection "\x7b\x7b .db.password \x7d\x7d" none) .scheduled .epoch

end Sample

/-- Ninety percent of the longest lease lead out of the range of instants. -/
theorem longest_lease_unplanned :
    Sample.longSync.state = .synced true ∧
      exists status, Sample.longSync.status = some status ∧ status.nextUpdate = none := by
  have hstate : Sample.longSync.state = .synced true := by decide +kernel
  have hread : (Sample.longScript.reader.readDefinition "team-a" Sample.definition).result =
      .ok Sample.longReading := ok_of_toOption (by decide +kernel)
  rcases success_plans_exactly hstate with ⟨status, interval, hstatus, hgrants, hexact, hnext, _⟩
  refine ⟨hstate, status, hstatus, ?_⟩
  cases hplanned : status.nextUpdate with
  | none => rfl
  | some planned =>
      rcases (hnext planned).mp hplanned with ⟨length, rfl, htime⟩
      cases hexact with
      | period htext _ => cases htext
      | @percentage shortest _ _ hshortest hlength =>
          have hseconds : shortest.leaseDuration.toNat = 18446744073709551615 := by
            rcases List.forall₂_cons_left_iff.mp hgrants with ⟨lease, rest, hlease, hrest, hleases⟩
            rcases hlease with ⟨reading, hreading, rfl⟩
            cases hrest
            have hsame : Except.ok Sample.longReading = Except.ok reading :=
              hread.symm.trans hreading
            cases hsame
            have hmem := hshortest.mem
            rw [hleases] at hmem
            rw [List.mem_singleton.mp hmem]
            rfl
          have hupper := planned.upper
          have hnow : Instant.epoch.nanoseconds = 0 := rfl
          have hpercent : (Sample.projection "\x7b\x7b .db.password \x7d\x7d"
              none).spec.refreshThreshold.toNat = 90 := rfl
          rw [hseconds, hpercent, Duration.perSecond] at hlength
          rw [hnow] at htime
          rw [Instant.lastSecond] at hupper
          omega

end Sync

end SecretProjection
