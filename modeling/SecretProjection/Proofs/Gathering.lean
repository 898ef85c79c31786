import SecretProjection.Proofs.Table
import SecretProjection.Proofs.Timed
import SecretProjection.Source.Basic

/-!
# Gathered payloads

When all definitions of a projection could be read, each of them has its payload under its own
name, and nothing else is there.  Names are not repeated, so no payload hides another one.
-/

namespace SecretProjection

universe u v

namespace Timed

variable {ε : Type u} {α : Type v}

/-!
## Attempts side by side
-/

theorem firstFailure_cons_of_ok {index : Nat} {attempt : Timed ε α} {rest : List (Timed ε α)}
    {value : α} (h : attempt.result = .ok value) :
    firstFailure index (attempt :: rest) = firstFailure (index + 1) rest := by
  simp only [firstFailure, h]

theorem firstFailure_cons_of_error {index : Nat} {attempt : Timed ε α}
    {rest : List (Timed ε α)} {fault : Fault} (h : attempt.result = .error fault) :
    firstFailure index (attempt :: rest) ≠ none := by
  simp only [firstFailure, h]
  cases firstFailure (index + 1) rest with
  | none => simp
  | some other =>
      by_cases htime : attempt.elapsed ≤ other.time
      · simp [htime]
      · simp [htime]

theorem results_of_firstFailure {index : Nat} {attempts : List (Timed ε α)}
    (h : firstFailure index attempts = none) :
    attempts.map (·.result) = (values attempts).map .ok := by
  induction attempts generalizing index with
  | nil => rfl
  | cons attempt rest ih =>
      cases hresult : attempt.result with
      | error fault => exact absurd h (firstFailure_cons_of_error hresult)
      | ok value =>
          rw [firstFailure_cons_of_ok hresult] at h
          simp [values, hresult, ih h]

theorem results_of_all {attempts : List (Timed ε α)} {found : List α}
    (h : (all attempts).result = .ok found) :
    attempts.map (·.result) = found.map .ok := by
  unfold all at h
  cases hfirst : firstFailure 0 attempts with
  | none =>
      rw [hfirst] at h
      cases h
      exact results_of_firstFailure hfirst
  | some failure =>
      rw [hfirst] at h
      cases h

theorem firstFailure_map {β : Type v} (f : α -> β) (index : Nat) (attempts : List (Timed ε α)) :
    firstFailure index (attempts.map (map f)) = firstFailure index attempts := by
  induction attempts generalizing index with
  | nil => rfl
  | cons attempt rest ih =>
      cases hresult : attempt.result with
      | error fault =>
          simp only [List.map_cons, firstFailure, ih (index + 1), map, hresult, Except.map]
          cases firstFailure (index + 1) rest with
          | none => rfl
          | some other => rfl
      | ok value =>
          simp only [List.map_cons, firstFailure, ih (index + 1), map, hresult, Except.map]

theorem mergeTraces_map {β : Type v} (f : α -> β) (keep : Nat -> Duration -> Bool) (index : Nat)
    (attempts : List (Timed ε α)) :
    mergeTraces keep index (attempts.map (map f)) = mergeTraces keep index attempts := by
  induction attempts generalizing index with
  | nil => rfl
  | cons attempt rest ih =>
      simp only [List.map_cons, mergeTraces, ih (index + 1)]
      rfl

theorem longest_map {β : Type v} (f : α -> β) (attempts : List (Timed ε α)) :
    longest (attempts.map (map f)) = longest attempts := by
  induction attempts with
  | nil => rfl
  | cons attempt rest ih =>
      simp only [List.map_cons, longest, ih]
      rfl

theorem values_map {β : Type v} (f : α -> β) (attempts : List (Timed ε α)) :
    values (attempts.map (map f)) = (values attempts).map f := by
  induction attempts with
  | nil => rfl
  | cons attempt rest ih =>
      cases hresult : attempt.result with
      | error fault => simp [values, map, hresult, Except.map, ih]
      | ok value => simp [values, map, hresult, Except.map, ih]

theorem map_all {β : Type v} (f : α -> β) (attempts : List (Timed ε α)) :
    (all attempts).map (List.map f) = all (attempts.map (map f)) := by
  unfold all
  rw [firstFailure_map, longest_map, values_map]
  cases firstFailure 0 attempts with
  | none =>
      simp only [mergeTraces_map]
      rfl
  | some failure =>
      simp only [mergeTraces_map]
      rfl

end Timed

open Projection

/-!
## Attempts at positions
-/

theorem SecretSource.getElem?_attempts {ε : Type u} {σ : Type v} (source : SecretSource ε σ)
    (space : String) (definitions : List Definition) (position : Nat) :
    (source.attempts space definitions)[position]? =
      definitions[position]?.map ((source position).readDefinition space) := by
  unfold attempts
  rw [List.getElem?_map, List.getElem?_zipIdx, Option.map_map, Nat.zero_add]
  rfl

namespace Aggregate

/-!
## Names
-/

theorem repeatedName?_eq_none {seen : List String} {definitions : List Definition}
    (h : repeatedName? seen definitions = none) :
    (definitions.map (·.name)).Nodup ∧
      forall definition, definition ∈ definitions -> definition.name ∉ seen := by
  induction definitions generalizing seen with
  | nil => simp
  | cons first rest ih =>
      unfold repeatedName? at h
      by_cases hseen : first.name ∈ seen
      · rw [if_pos hseen] at h
        cases h
      · rw [if_neg hseen] at h
        rcases ih h with ⟨hnodup, hfresh⟩
        constructor
        · apply List.nodup_cons.mpr
          refine ⟨?_, hnodup⟩
          intro hmem
          rcases List.mem_map.mp hmem with ⟨other, hother, hname⟩
          apply hfresh other hother
          rw [hname]
          exact List.mem_cons_self
        · intro definition hmem
          rcases List.mem_cons.mp hmem with heq | hrest
          · subst heq
            exact hseen
          · intro hold
            exact hfresh definition hrest (List.mem_cons_of_mem _ hold)

/-!
## Payloads
-/

theorem get?_addAll_of_not_mem {pairs : List (Definition × Reading)} {aggregate : Aggregate}
    {name : String} (h : forall pair, pair ∈ pairs -> pair.1.name ≠ name) :
    (aggregate.addAll pairs).merged.get? name = aggregate.merged.get? name := by
  induction pairs generalizing aggregate with
  | nil => rfl
  | cons pair rest ih =>
      rcases pair with ⟨definition, reading⟩
      have hne : name ≠ definition.name :=
        Ne.symm (h (definition, reading) List.mem_cons_self)
      simp only [addAll]
      rw [ih fun other hother => h other (List.mem_cons_of_mem _ hother)]
      exact Table.get?_insert_of_ne _ hne _

theorem get?_addAll_of_mem {pairs : List (Definition × Reading)} {aggregate : Aggregate}
    (hnodup : (pairs.map (·.1.name)).Nodup) {pair : Definition × Reading} (h : pair ∈ pairs) :
    (aggregate.addAll pairs).merged.get? pair.1.name = some pair.2.payload := by
  induction pairs generalizing aggregate with
  | nil => cases h
  | cons first rest ih =>
      rcases first with ⟨definition, reading⟩
      rcases List.nodup_cons.mp hnodup with ⟨hfresh, hrest⟩
      simp only [addAll]
      rcases List.mem_cons.mp h with heq | hmem
      · subst heq
        have hothers : forall other, other ∈ rest -> other.1.name ≠ definition.name := by
          intro other hother hname
          exact hfresh (List.mem_map.mpr ⟨other, hother, hname⟩)
        rw [get?_addAll_of_not_mem hothers]
        exact Table.get?_insert_self _ _ _
      · exact ih hrest hmem

/-- The merged payloads of some definitions: each one under the name of its definition, and no
others. -/
structure Holds {ε : Type u} {σ : Type v} (source : SecretSource ε σ) (space : String)
    (definitions : List Definition) (merged : Table Json) : Prop where
  payload : forall position definition, definitions[position]? = some definition ->
    exists reading, ((source position).readDefinition space definition).result = .ok reading ∧
      merged.get? definition.name = some reading.payload
  only : forall name value, merged.get? name = some value ->
    exists definition, definition ∈ definitions ∧ definition.name = name

theorem holds_addAll {ε : Type u} {σ : Type v} {source : SecretSource ε σ} {space : String}
    {definitions : List Definition} {readings : List Reading}
    (hnodup : (definitions.map (·.name)).Nodup)
    (hread : (source.attempts space definitions).map (·.result) = readings.map .ok) :
    Holds source space definitions (empty.addAll (definitions.zip readings)).merged := by
  have hlength : definitions.length = readings.length := by
    simpa [SecretSource.attempts] using congrArg List.length hread
  have hnames : (definitions.zip readings).map (·.1.name) = definitions.map (·.name) := by
    have hfst := List.map_fst_zip (Nat.le_of_eq hlength)
    calc
      (definitions.zip readings).map (·.1.name)
          = ((definitions.zip readings).map Prod.fst).map (·.name) := by
        rw [List.map_map]
        rfl
      _ = definitions.map (·.name) := by rw [hfst]
  constructor
  · intro i definition hplace
    rcases List.getElem?_eq_some_iff.mp hplace with ⟨hi, rfl⟩
    have hi' : i < readings.length := hlength ▸ hi
    refine ⟨readings[i], ?_, ?_⟩
    · have hat := congrArg (fun results => results[i]?) hread
      simpa [SecretSource.getElem?_attempts, hi, hi'] using hat
    · have hzip : i < (definitions.zip readings).length := by
        rw [List.length_zip]
        exact Nat.lt_min.mpr ⟨hi, hi'⟩
      have hpair : (definitions[i], readings[i]) ∈ definitions.zip readings := by
        apply List.mem_iff_getElem.mpr
        exact ⟨i, hzip, List.getElem_zip⟩
      rw [← hnames] at hnodup
      exact get?_addAll_of_mem hnodup hpair
  · intro name value hget
    apply Classical.byContradiction
    intro hnone
    have hothers : forall pair, pair ∈ definitions.zip readings -> pair.1.name ≠ name := by
      intro pair hpair hname
      exact hnone ⟨pair.1, (List.of_mem_zip hpair).1, hname⟩
    rw [get?_addAll_of_not_mem hothers] at hget
    cases hget

/-- A successful aggregation holds the payloads of its definitions. -/
theorem holds_of_read {ε : Type u} {σ : Type v} {source : SecretSource ε σ} {space : String}
    {definitions : List Definition} {aggregate : Aggregate}
    (h : (read source space definitions).result = .ok aggregate) :
    Holds source space definitions aggregate.merged := by
  unfold read at h
  cases hname : repeatedName? [] definitions with
  | some name =>
      rw [hname] at h
      cases h
  | none =>
      rw [hname] at h
      rcases Timed.result_map_eq_ok.mp h with ⟨readings, hall, rfl⟩
      exact holds_addAll (repeatedName?_eq_none hname).1 (Timed.results_of_all hall)

end Aggregate

end SecretProjection
