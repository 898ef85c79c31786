/-!
# Results and their faults

A result is a value or a fault.  Two results that a function does not tell apart end in the same
fault, and two results that differ at most in their faults have the same values.
-/

namespace SecretProjection

universe u v w

variable {ε : Type u} {α : Type v} {β : Type w}

/-!
# Applying a function
-/

theorem map_eq_ok_iff {f : α -> β} {result : Except ε α} {output : β} :
    result.map f = .ok output <-> exists value, result = .ok value ∧ output = f value := by
  cases result with
  | error fault => simp [Except.map]
  | ok value => simp [Except.map, eq_comm]

theorem map_eq_error_iff {f : α -> β} {result : Except ε α} {fault : ε} :
    result.map f = .error fault <-> result = .error fault := by
  cases result with
  | error other => simp [Except.map]
  | ok value => simp [Except.map]

theorem eq_error_of_map_eq {f : α -> β} {first second : Except ε α} {fault : ε}
    (h : first.map f = second.map f) (hfirst : first = .error fault) :
    second = .error fault := by
  rw [hfirst] at h
  cases second with
  | error other =>
      cases h
      rfl
  | ok value => cases h

theorem exists_ok_of_map_eq {f : α -> β} {first second : Except ε α} {value : α}
    (h : first.map f = second.map f) (hfirst : first = .ok value) :
    exists other, second = .ok other ∧ f value = f other := by
  rw [hfirst] at h
  cases second with
  | error fault => cases h
  | ok other =>
      injection h with heq
      exact ⟨other, rfl, heq⟩

theorem mapError_ok {δ : Type u} (f : ε -> δ) (value : α) :
    (Except.ok value).mapError f = .ok value := rfl

/-!
# Leaving faults out
-/

@[simp] theorem toOption_ok (value : α) : (Except.ok value : Except ε α).toOption = some value :=
  rfl

@[simp] theorem toOption_error (fault : ε) : (Except.error fault : Except ε α).toOption = none :=
  rfl

theorem toOption_map (f : α -> β) (result : Except ε α) :
    (result.map f).toOption = result.toOption.map f := by
  cases result <;> rfl

theorem ok_of_toOption {result : Except ε α} {value : α} (h : result.toOption = some value) :
    result = .ok value := by
  cases result with
  | error fault => cases h
  | ok found =>
      cases h
      rfl

/-- Two results differ at most in their faults. -/
theorem toOption_eq_iff {first second : Except ε α} :
    first.toOption = second.toOption <->
      (exists value, first = .ok value ∧ second = .ok value) ∨
        (exists fault, first = .error fault) ∧ exists reason, second = .error reason := by
  cases first <;> cases second <;> simp [eq_comm]

end SecretProjection
