import SecretProjection.Schedule

/-!
# Intervals of valid specs

A spec that passes the validation has an interval for whatever leases, though perhaps none to
speak of, and an interval is never zero: a period is checked to be positive, and a positive
percentage of a positive number of seconds has at least one millisecond when it is counted in
milliseconds.
-/

namespace SecretProjection

namespace Schedule

open Projection

/-!
## Valid specs
-/

theorem percentage_eq_ok {threshold : UInt32} {percent : Nat}
    (h : percentage threshold = .ok percent) : 1 ≤ percent ∧ percent ≤ 100 := by
  unfold percentage at h
  by_cases hrange : 1 ≤ threshold.toNat ∧ threshold.toNat ≤ 100
  · rw [if_pos hrange] at h
    cases h
    exact hrange
  · rw [if_neg hrange] at h
    cases h

theorem percentage_of_validate {spec : Spec} (h : validate spec = .ok ()) :
    exists percent, percentage spec.refreshThreshold = .ok percent := by
  unfold validate at h
  cases hpercent : percentage spec.refreshThreshold with
  | error fault =>
      rw [hpercent] at h
      cases h
  | ok percent => exact ⟨percent, rfl⟩

theorem checkPeriod_of_validate {spec : Spec} (h : validate spec = .ok ()) :
    checkPeriod spec = .ok () := by
  rcases percentage_of_validate h with ⟨percent, hpercent⟩
  unfold validate at h
  rw [hpercent] at h
  cases hperiod : checkPeriod spec with
  | error fault =>
      rw [hperiod] at h
      cases h
  | ok _ => rfl

theorem period_of_validate {spec : Spec} {text : String} (h : validate spec = .ok ())
    (htext : spec.refreshPeriod = some text) :
    exists length, period text = .ok length ∧ length ≠ .zero := by
  have hcheck := checkPeriod_of_validate h
  unfold checkPeriod at hcheck
  simp only [htext] at hcheck
  cases hperiod : period text with
  | error fault =>
      rw [hperiod] at hcheck
      cases hcheck
  | ok length =>
      refine ⟨length, rfl, ?_⟩
      intro hzero
      simp only [hperiod, if_pos hzero] at hcheck
      cases hcheck

/-!
## Intervals
-/

theorem least?_mem {numbers : List Nat} {n : Nat} (h : least? numbers = some n) :
    n ∈ numbers := by
  induction numbers generalizing n with
  | nil => cases h
  | cons first rest ih =>
      unfold least? at h
      cases hrest : least? rest with
      | none =>
          rw [hrest] at h
          cases h
          exact List.mem_cons_self
      | some m =>
          rw [hrest] at h
          cases h
          rcases Nat.le_total first m with hle | hle
          · rw [Nat.min_eq_left hle]
            exact List.mem_cons_self
          · rw [Nat.min_eq_right hle]
            exact List.mem_cons_of_mem _ (ih hrest)

theorem shortestLease_pos {leases : List Lease} {seconds : Nat}
    (h : shortestLease leases = some seconds) : 0 < seconds := by
  have hmem := least?_mem h
  simpa using (List.mem_filter.mp hmem).2

theorem share_pos {seconds percent : Nat} (hseconds : 0 < seconds) (hpercent : 0 < percent) :
    0 < (share seconds percent).nanoseconds := by
  have hproduct : 0 < seconds * percent := Nat.mul_pos hseconds hpercent
  have hmax : 0 < maxMilliseconds := by decide
  have hmilliseconds :
      0 < min maxMilliseconds (min maxMilliseconds (seconds * percent) * 10) := by
    apply Nat.lt_min.mpr
    exact ⟨hmax, Nat.mul_pos (Nat.lt_min.mpr ⟨hmax, hproduct⟩) (by decide)⟩
  exact Nat.mul_pos hmilliseconds (by decide)

/-- A valid spec has an interval for any leases. -/
theorem exists_interval {spec : Spec} (h : validate spec = .ok ()) (leases : List Lease) :
    exists found, interval spec leases = .ok found := by
  unfold interval
  cases htext : spec.refreshPeriod with
  | some text =>
      rcases period_of_validate h htext with ⟨length, hperiod, _⟩
      exact ⟨some length, by simp only [hperiod, Except.map]⟩
  | none =>
      cases hlease : shortestLease leases with
      | none => exact ⟨none, rfl⟩
      | some seconds =>
          rcases percentage_of_validate h with ⟨percent, hpercent⟩
          exact ⟨some (share seconds percent), by simp only [hpercent, Except.map]⟩

/-- The interval of a valid spec is never zero. -/
theorem interval_pos {spec : Spec} (h : validate spec = .ok ()) {leases : List Lease}
    {length : Duration} (hinterval : interval spec leases = .ok (some length)) :
    0 < length.nanoseconds := by
  unfold interval at hinterval
  cases htext : spec.refreshPeriod with
  | some text =>
      rcases period_of_validate h htext with ⟨found, hperiod, hne⟩
      simp only [htext, hperiod, Except.map] at hinterval
      cases hinterval
      apply Nat.pos_of_ne_zero
      intro hzero
      exact hne (Duration.ext hzero)
  | none =>
      cases hlease : shortestLease leases with
      | none =>
          simp only [htext, hlease] at hinterval
          cases hinterval
      | some seconds =>
          rcases percentage_of_validate h with ⟨percent, hpercent⟩
          simp only [htext, hlease, hpercent, Except.map] at hinterval
          cases hinterval
          exact share_pos (shortestLease_pos hlease) (percentage_eq_ok hpercent).1

/-- Nothing is due before the planned time, and never if no time is planned. -/
theorem isDue_eq_false {interval : Option Duration} {last now : Instant}
    (h : forall length next, interval = some length -> last.after? length = some next ->
      now < next) : isDue interval (some last) now = false := by
  cases interval with
  | none => rfl
  | some length =>
      cases hnext : last.after? length with
      | none => simp only [isDue, next, hnext]
      | some planned =>
          have hlt : now < planned := h length planned rfl hnext
          simp only [isDue, next, hnext, decide_eq_false_iff_not]
          exact Int.not_le.mpr hlt

end Schedule

end SecretProjection
