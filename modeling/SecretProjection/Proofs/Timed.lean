import SecretProjection.Proofs.Results
import SecretProjection.Timed

/-!
# Results of timed attempts

How the result of a compound attempt depends on the results of its parts.  Times matter in one
place only: an attempt that takes longer than its limit ends in the fault of the limit, whatever
it would have ended in.
-/

namespace SecretProjection

universe u v w x

namespace Timed

variable {ε : Type u} {α : Type v} {β : Type w}

/-! ## One after another -/

theorem result_bind_of_ok {first : Timed ε α} {next : α -> Timed ε β} {value : α}
    (h : first.result = .ok value) : (first.bind next).result = (next value).result := by
  unfold bind
  rw [h]

theorem result_bind_of_error {first : Timed ε α} {next : α -> Timed ε β} {fault : Fault}
    (h : first.result = .error fault) : (first.bind next).result = .error fault := by
  unfold bind
  rw [h]

theorem elapsed_bind_of_ok {first : Timed ε α} {next : α -> Timed ε β} {value : α}
    (h : first.result = .ok value) :
    (first.bind next).elapsed = first.elapsed + (next value).elapsed := by
  unfold bind
  rw [h]

theorem elapsed_bind_of_error {first : Timed ε α} {next : α -> Timed ε β} {fault : Fault}
    (h : first.result = .error fault) : (first.bind next).elapsed = first.elapsed := by
  unfold bind
  rw [h]

theorem result_bind_eq_ok {first : Timed ε α} {next : α -> Timed ε β} {value : β} :
    (first.bind next).result = .ok value <->
      exists middle, first.result = .ok middle ∧ (next middle).result = .ok value := by
  cases hfirst : first.result with
  | error fault =>
      rw [result_bind_of_error hfirst]
      constructor
      · intro h
        cases h
      · intro h
        rcases h with ⟨middle, hmiddle, _⟩
        cases hmiddle
  | ok middle =>
      rw [result_bind_of_ok hfirst]
      constructor
      · intro h
        exact ⟨middle, rfl, h⟩
      · intro h
        rcases h with ⟨other, hother, hvalue⟩
        cases hother
        exact hvalue

@[simp] theorem events_pure (value : α) : (pure value : Timed ε α).events = [] := rfl

@[simp] theorem events_fail (fault : Fault) : (fail fault : Timed ε α).events = [] := rfl

/-- What happens in a compound attempt happens in its first part or in what follows. -/
theorem mem_events_bind {first : Timed ε α} {next : α -> Timed ε β} {happening : ε}
    (h : happening ∈ (first.bind next).events) :
    happening ∈ first.events ∨ exists value, happening ∈ (next value).events := by
  cases hfirst : first.result with
  | error fault =>
      left
      simpa only [events, bind, hfirst] using h
  | ok value =>
      simp only [events, bind, hfirst, later, List.map_append, List.map_map, List.mem_append] at h
      rcases h with hbefore | hafter
      · exact .inl hbefore
      · exact .inr ⟨value, hafter⟩

theorem result_map_eq_ok {f : α -> β} {attempt : Timed ε α} {value : β} :
    (attempt.map f).result = .ok value <->
      exists before, attempt.result = .ok before ∧ f before = value := by
  unfold map
  cases attempt.result with
  | error fault => simp [Except.map]
  | ok before => simp [Except.map]

/-! ## Under a deadline -/

theorem result_within_of_le {limit : Duration} {late : Fault} {attempt : Timed ε α}
    (h : attempt.elapsed ≤ limit) : (attempt.within limit late).result = attempt.result := by
  unfold within
  rw [if_pos h]

theorem result_within_of_not_le {limit : Duration} {late : Fault} {attempt : Timed ε α}
    (h : ¬ attempt.elapsed ≤ limit) : (attempt.within limit late).result = .error late := by
  unfold within
  rw [if_neg h]

theorem result_within_eq_ok {limit : Duration} {late : Fault} {attempt : Timed ε α} {value : α} :
    (attempt.within limit late).result = .ok value <->
      attempt.elapsed ≤ limit ∧ attempt.result = .ok value := by
  by_cases h : attempt.elapsed ≤ limit
  · rw [result_within_of_le h]
    simp [h]
  · rw [result_within_of_not_le h]
    simp [h]

/-! ## Applying a function -/

theorem map_map {γ : Type x} (f : α -> β) (g : β -> γ) (attempt : Timed ε α) :
    (attempt.map f).map g = attempt.map (g ∘ f) := by
  unfold map
  cases attempt.result with
  | error fault => rfl
  | ok value => rfl

theorem map_bind {γ : Type x} (f : β -> γ) (first : Timed ε α) (next : α -> Timed ε β) :
    (first.bind next).map f = first.bind fun value => (next value).map f := by
  unfold bind
  cases first.result with
  | error fault => rfl
  | ok value => rfl

theorem map_mapFault (f : α -> β) (g : Fault -> Fault) (attempt : Timed ε α) :
    (attempt.mapFault g).map f = (attempt.map f).mapFault g := by
  unfold mapFault map
  cases attempt.result with
  | error fault => rfl
  | ok value => rfl

theorem map_within (f : α -> β) (limit : Duration) (late : Fault) (attempt : Timed ε α) :
    (attempt.within limit late).map f = (attempt.map f).within limit late := by
  by_cases h : attempt.elapsed ≤ limit
  · simp [within, map, h]
  · simp [within, map, h, Except.map]

end Timed

end SecretProjection
