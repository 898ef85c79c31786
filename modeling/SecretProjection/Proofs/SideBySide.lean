import Mathlib.Data.List.Duplicate
import SecretProjection.Proofs.Outcomes
import SecretProjection.Source.Scripted

/-!
# Reading side by side

Attempts that run side by side end in the values of all of them, in the order of the list, as if
they had run one after another; how long each of them takes does not matter then.  If some of them
fail, the whole ends with the failure that comes first in time, and of failures at the same time
with the one that comes first in the list.

For the definitions of a projection this means that their delays have a say in one thing only:
which of several faults is reported.
-/

namespace SecretProjection

universe u v w

namespace Timed

variable {ε : Type u} {α : Type v}

/-!
## One after another
-/

/-- Runs attempts one after another, up to the first that fails. -/
def inOrder : List (Timed ε α) -> Timed ε (List α)
  | [] => .pure []
  | attempt :: rest => attempt.bind fun value => (inOrder rest).map (value :: ·)

theorem result_inOrder_eq_ok {attempts : List (Timed ε α)} {found : List α} :
    (inOrder attempts).result = .ok found <-> attempts.map (·.result) = found.map .ok := by
  induction attempts generalizing found with
  | nil =>
      constructor
      · intro h
        cases h
        rfl
      · intro h
        cases found with
        | nil => rfl
        | cons _ _ => cases h
  | cons attempt rest ih =>
      constructor
      · intro h
        rcases result_bind_eq_ok.mp h with ⟨value, hvalue, hmap⟩
        rcases result_map_eq_ok.mp hmap with ⟨values, hvalues, rfl⟩
        rw [List.map_cons, List.map_cons, hvalue, ih.mp hvalues]
      · intro h
        cases found with
        | nil => cases h
        | cons value values =>
            injection h with hvalue hvalues
            apply result_bind_eq_ok.mpr
            refine ⟨value, hvalue, ?_⟩
            exact result_map_eq_ok.mpr ⟨values, ih.mpr hvalues, rfl⟩

theorem ne_error_of_mem {attempts : List (Timed ε α)} {found : List α} {attempt : Timed ε α}
    {fault : Fault} (h : attempts.map (·.result) = found.map .ok) (hmem : attempt ∈ attempts) :
    attempt.result ≠ .error fault := by
  intro hfails
  have hresult : attempt.result ∈ found.map Except.ok := h ▸ List.mem_map_of_mem hmem
  rcases List.mem_map.mp hresult with ⟨value, _, hvalue⟩
  rw [hfails] at hvalue
  cases hvalue

/-!
## The failure that comes first
-/

/-- The attempt at a position fails, no other one fails earlier, and no one before it in the list
fails at the same time. -/
structure FailsFirst (attempts : List (Timed ε α)) (position : Nat) (attempt : Timed ε α)
    (fault : Fault) : Prop where
  place : attempts[position]? = some attempt
  result : attempt.result = .error fault
  earliest : forall (index : Nat) (other : Timed ε α) (reason : Fault),
    attempts[index]? = some other -> other.result = .error reason ->
      attempt.elapsed ≤ other.elapsed ∧ (index < position -> attempt.elapsed < other.elapsed)

section First

variable {attempts rest : List (Timed ε α)} {attempt other : Timed ε α} {fault reason : Fault}
variable {position index : Nat}

theorem FailsFirst.behind (h : FailsFirst rest position attempt fault)
    (hother : forall reason, other.result = .error reason -> attempt.elapsed < other.elapsed) :
    FailsFirst (other :: rest) (position + 1) attempt fault where
  place := h.place
  result := h.result
  earliest := by
    intro index third reason hplace hthird
    cases index with
    | zero =>
        cases hplace
        have htime := hother reason hthird
        exact ⟨Nat.le_of_lt htime, fun _ => htime⟩
    | succ index =>
        rcases h.earliest index third reason hplace hthird with ⟨hle, hlt⟩
        exact ⟨hle, fun hindex => hlt (Nat.lt_of_succ_lt_succ hindex)⟩

theorem failsFirst_of_bound (hresult : attempt.result = .error fault)
    (hbound : forall (third : Timed ε α) (reason : Fault), third ∈ rest ->
      third.result = .error reason -> attempt.elapsed ≤ third.elapsed) :
    FailsFirst (attempt :: rest) 0 attempt fault where
  place := rfl
  result := hresult
  earliest := by
    intro index third reason hplace hthird
    refine ⟨?_, fun hindex => absurd hindex (Nat.not_lt_zero index)⟩
    cases index with
    | zero =>
        cases hplace
        exact Nat.le_refl _
    | succ index => exact hbound third reason (List.mem_of_getElem? hplace) hthird

/-- What the search for the first failure finds is a failure that comes first. -/
theorem failsFirst_of_firstFailure {failure : Failure}
    (h : firstFailure index attempts = some failure) :
    exists position attempt, FailsFirst attempts position attempt failure.fault ∧
      failure.time = attempt.elapsed := by
  induction attempts generalizing index failure with
  | nil => cases h
  | cons first rest ih =>
      cases hfirst : first.result with
      | ok value =>
          rw [firstFailure_cons_of_ok hfirst] at h
          rcases ih h with ⟨position, attempt, hfails, htime⟩
          refine ⟨position + 1, attempt, hfails.behind ?_, htime⟩
          intro reason hreason
          rw [hfirst] at hreason
          cases hreason
      | error fault =>
          unfold firstFailure at h
          cases hrest : firstFailure (index + 1) rest with
          | none =>
              simp only [hfirst, hrest, Option.some.injEq] at h
              subst h
              refine ⟨0, first, failsFirst_of_bound hfirst ?_, rfl⟩
              -- Nothing else fails.
              intro third reason hmem hthird
              exact absurd hthird (ne_error_of_mem (results_of_firstFailure hrest) hmem)
          | some other =>
              rcases ih hrest with ⟨position, attempt, hfails, htime⟩
              simp only [hfirst, hrest] at h
              by_cases hle : first.elapsed ≤ other.time
              · rw [if_pos hle] at h
                cases h
                refine ⟨0, first, failsFirst_of_bound hfirst ?_, rfl⟩
                intro third reason hmem hthird
                rcases List.mem_iff_getElem?.mp hmem with ⟨index, hindex⟩
                have hearliest := (hfails.earliest index third reason hindex hthird).1
                rw [htime] at hle
                exact Nat.le_trans hle hearliest
              · rw [if_neg hle] at h
                cases h
                rw [htime] at hle
                exact ⟨position + 1, attempt, hfails.behind fun _ _ => Nat.lt_of_not_le hle, htime⟩

theorem FailsFirst.position_le {second : Nat} {third : Timed ε α}
    (h : FailsFirst attempts position attempt fault)
    (hsecond : FailsFirst attempts second third reason) : position ≤ second := by
  apply Nat.le_of_not_lt
  intro hlt
  have hafter := (h.earliest second third reason hsecond.place hsecond.result).2 hlt
  have hbefore := (hsecond.earliest position attempt fault h.place h.result).1
  exact Nat.lt_irrefl _ (Nat.lt_of_lt_of_le hafter hbefore)

/-- At most one failure comes first. -/
theorem FailsFirst.unique {second : Nat} {third : Timed ε α}
    (h : FailsFirst attempts position attempt fault)
    (hsecond : FailsFirst attempts second third reason) : attempt = third ∧ fault = reason := by
  have hposition : position = second :=
    Nat.le_antisymm (h.position_le hsecond) (hsecond.position_le h)
  have hattempt : attempt = third := by
    have hplace := h.place
    rw [hposition, hsecond.place] at hplace
    cases hplace
    rfl
  refine ⟨hattempt, ?_⟩
  have hresult := h.result
  rw [hattempt, hsecond.result] at hresult
  cases hresult
  rfl

end First

/-!
## Side by side
-/

section All

variable {attempts : List (Timed ε α)} {found : List α} {fault : Fault}

theorem all_of_firstFailure {failure : Failure} (h : firstFailure 0 attempts = some failure) :
    (all attempts).result = .error failure.fault ∧ (all attempts).elapsed = failure.time := by
  unfold all
  rw [h]
  exact ⟨rfl, rfl⟩

theorem result_all_eq_ok :
    (all attempts).result = .ok found <-> attempts.map (·.result) = found.map .ok := by
  constructor
  · exact results_of_all
  · intro h
    cases hfirst : firstFailure 0 attempts with
    | some failure =>
        rcases failsFirst_of_firstFailure hfirst with ⟨position, attempt, hfails, _⟩
        exact absurd hfails.result (ne_error_of_mem h (List.mem_of_getElem? hfails.place))
    | none =>
        have hvalues : (all attempts).result = .ok (values attempts) := by
          unfold all
          rw [hfirst]
        have hfound : (values attempts).map Except.ok = found.map (Except.ok (ε := Fault)) := by
          rw [← results_of_firstFailure hfirst, h]
        rw [hvalues, List.map_injective_iff.mpr (fun _ _ => Except.ok.inj) hfound]

/-- Attempts side by side succeed exactly when they do so one after another, with the same
values. -/
theorem result_all_eq_ok_iff_inOrder :
    (all attempts).result = .ok found <-> (inOrder attempts).result = .ok found :=
  result_all_eq_ok.trans result_inOrder_eq_ok.symm

/-- Attempts side by side end in the failure that comes first, and at its time. -/
theorem all_of_failsFirst {position : Nat} {attempt : Timed ε α}
    (h : FailsFirst attempts position attempt fault) :
    (all attempts).result = .error fault ∧ (all attempts).elapsed = attempt.elapsed := by
  cases hfirst : firstFailure 0 attempts with
  | none =>
      exact absurd h.result
        (ne_error_of_mem (results_of_firstFailure hfirst) (List.mem_of_getElem? h.place))
  | some failure =>
      rcases all_of_firstFailure hfirst with ⟨hresult, helapsed⟩
      rcases failsFirst_of_firstFailure hfirst with ⟨second, other, hother, htime⟩
      rcases h.unique hother with ⟨rfl, rfl⟩
      exact ⟨hresult, helapsed.trans htime⟩

theorem exists_failsFirst_of_result (h : (all attempts).result = .error fault) :
    exists position attempt, FailsFirst attempts position attempt fault := by
  cases hfirst : firstFailure 0 attempts with
  | none =>
      unfold all at h
      rw [hfirst] at h
      cases h
  | some failure =>
      rw [(all_of_firstFailure hfirst).1] at h
      cases h
      rcases failsFirst_of_firstFailure hfirst with ⟨position, attempt, hfails, _⟩
      exact ⟨position, attempt, hfails⟩

end All

end Timed

open Projection

namespace SecretReader

/-!
## Single definitions
-/

variable {ε : Type u} {σ : Type v}

/-- The authentication of a definition succeeds, and the read with its session gives a reading. -/
def Reads (reader : SecretReader ε σ) (space : String) (definition : Definition)
    (reading : Reading) : Prop :=
  exists session,
    (reader.authenticate definition.authentication space).result = .ok session ∧
      (reader.read session definition.path).result = .ok reading

/-- The authentication of a definition fails, or else the read after it, at some time after the
start. -/
inductive Fails (reader : SecretReader ε σ) (space : String) (definition : Definition) :
    Duration -> Fault -> Prop where
  | refused {cause : Fault} :
      (reader.authenticate definition.authentication space).result = .error cause ->
      Fails reader space definition
        (reader.authenticate definition.authentication space).elapsed cause
  | unread {session : σ} {cause : Fault} :
      (reader.authenticate definition.authentication space).result = .ok session ->
      (reader.read session definition.path).result = .error cause ->
      Fails reader space definition
        ((reader.authenticate definition.authentication space).elapsed +
          (reader.read session definition.path).elapsed) cause

/-- The kinds of faults that are reported together with the definition they belong to. -/
def namedKinds : List FaultKind := [.authentication, .notFound, .unavailable, .invalidSpec]

/-- A fault as it is reported for a definition. -/
def blame (definition : Definition) (cause : Fault) : Fault :=
  ⟨cause.kind, if cause.kind ∈ namedKinds then
    "definition '" ++ definition.name ++ "': " ++ cause.text else cause.text⟩

theorem ofDefinition_eq_blame (definition : Definition) (cause : Fault) :
    cause.ofDefinition definition.name = blame definition cause := by
  rcases cause with ⟨kind, text⟩
  cases kind <;> rfl

variable {reader : SecretReader ε σ} {space : String} {definition : Definition}

theorem result_readDefinition_eq_ok {reading : Reading} :
    (reader.readDefinition space definition).result = .ok reading <->
      reader.Reads space definition reading := by
  unfold Reads
  rw [← Timed.result_bind_eq_ok]
  unfold readDefinition Timed.mapFault
  cases (Timed.bind _ _).result with
  | ok found => rw [mapError_ok]
  | error cause => simp [Except.mapError]

theorem Fails.result_readDefinition {time : Duration} {cause : Fault}
    (h : reader.Fails space definition time cause) :
    (reader.readDefinition space definition).result = .error (blame definition cause) ∧
      (reader.readDefinition space definition).elapsed = time := by
  rw [← ofDefinition_eq_blame]
  unfold readDefinition Timed.mapFault
  cases h with
  | refused hcause =>
      refine ⟨?_, Timed.elapsed_bind_of_error hcause⟩
      rw [Timed.result_bind_of_error hcause]
      rfl
  | unread hsession hcause =>
      refine ⟨?_, Timed.elapsed_bind_of_ok hsession⟩
      rw [Timed.result_bind_of_ok hsession, hcause]
      rfl

/-- A definition is read or it fails. -/
theorem reads_or_fails :
    (exists reading, reader.Reads space definition reading) ∨
      exists time cause, reader.Fails space definition time cause := by
  cases hauth : (reader.authenticate definition.authentication space).result with
  | error cause => exact .inr ⟨_, cause, .refused hauth⟩
  | ok session =>
      cases hread : (reader.read session definition.path).result with
      | error cause => exact .inr ⟨_, cause, .unread hauth hread⟩
      | ok reading => exact .inl ⟨reading, session, hauth, hread⟩

theorem exists_fails_of_result {fault : Fault}
    (h : (reader.readDefinition space definition).result = .error fault) :
    exists cause,
      reader.Fails space definition (reader.readDefinition space definition).elapsed cause ∧
        fault = blame definition cause := by
  rcases reads_or_fails with ⟨reading, hreading⟩ | ⟨time, cause, hfails⟩
  · rw [result_readDefinition_eq_ok.mpr hreading] at h
    cases h
  · rcases hfails.result_readDefinition with ⟨hresult, helapsed⟩
    rw [hresult] at h
    cases h
    rw [helapsed]
    exact ⟨cause, hfails, rfl⟩

/-- Two readers give the same answers, however long either of them takes. -/
structure SameAnswers {δ : Type u} (first : SecretReader ε σ) (second : SecretReader δ σ) :
    Prop where
  authenticate : forall auth space,
    (first.authenticate auth space).result = (second.authenticate auth space).result
  read : forall session path, (first.read session path).result = (second.read session path).result

theorem SameAnswers.reads_iff {δ : Type u} {other : SecretReader δ σ} {reading : Reading}
    (h : reader.SameAnswers other) :
    reader.Reads space definition reading <-> other.Reads space definition reading := by
  simp only [Reads, h.authenticate, h.read]

end SecretReader

namespace Aggregate

/-!
## Aggregates
-/

variable {ε : Type u} {σ : Type v}

/-- Reads all definitions one after another. -/
def readInOrder (source : SecretSource ε σ) (space : String) (definitions : List Definition) :
    Timed ε Aggregate :=
  (Timed.inOrder (source.attempts space definitions)).map fun readings =>
    empty.addAll (definitions.zip readings)

/-- One payload and one lease for each definition, the leases in the order of the definitions. -/
structure Collects (source : SecretSource ε σ) (space : String) (definitions : List Definition)
    (aggregate : Aggregate) : Prop where
  names : aggregate.merged.keys.Perm (definitions.map (·.name))
  payloads : forall position definition, definitions[position]? = some definition ->
    exists reading, (source position).Reads space definition reading ∧
      aggregate.merged.get? definition.name = some (.object reading.value.entries)
  leases : List.Forall₂
    (fun request lease => exists reading, (source request.2).Reads space request.1 reading ∧
      lease = ⟨request.1.name, reading.leaseId, reading.leaseDuration, reading.renewable⟩)
    definitions.zipIdx aggregate.leases

/-- The definition at a position fails, no other one fails earlier, and no one declared before it
fails at the same time. -/
structure FailsFirst (source : SecretSource ε σ) (space : String) (definitions : List Definition)
    (position : Nat) (definition : Definition) (time : Duration) (cause : Fault) : Prop where
  place : definitions[position]? = some definition
  fails : (source position).Fails space definition time cause
  earliest : forall (index : Nat) (other : Definition) (otherTime : Duration) (reason : Fault),
    definitions[index]? = some other -> (source index).Fails space other otherTime reason ->
      time ≤ otherTime ∧ (index < position -> time < otherTime)

section Reading

variable {source : SecretSource ε σ} {space : String} {definitions : List Definition}

theorem repeatedName?_eq_some {seen : List String} {name : String}
    (h : repeatedName? seen definitions = some name) :
    (name ∈ seen ∧ name ∈ definitions.map (·.name)) ∨
      List.Duplicate name (definitions.map (·.name)) := by
  induction definitions generalizing seen with
  | nil => cases h
  | cons first rest ih =>
      unfold repeatedName? at h
      by_cases hseen : first.name ∈ seen
      · rw [if_pos hseen] at h
        cases h
        exact .inl ⟨hseen, List.mem_cons_self⟩
      · rw [if_neg hseen] at h
        rcases ih h with ⟨hmem, hrest⟩ | hrest
        · rcases List.mem_cons.mp hmem with heq | hold
          · subst heq
            exact .inr (List.Mem.duplicate_cons_self hrest)
          · exact .inl ⟨hold, List.mem_cons_of_mem _ hrest⟩
        · exact .inr (hrest.duplicate_cons _)

theorem repeatedName?_of_nodup (h : (definitions.map (·.name)).Nodup) :
    repeatedName? [] definitions = none := by
  cases hname : repeatedName? [] definitions with
  | none => rfl
  | some name =>
      rcases repeatedName?_eq_some hname with ⟨hmem, _⟩ | hduplicate
      · cases hmem
      · exact absurd h hduplicate.not_nodup

theorem read_of_nodup (h : (definitions.map (·.name)).Nodup) :
    read source space definitions =
      (Timed.all (source.attempts space definitions)).map fun readings =>
        empty.addAll (definitions.zip readings) := by
  unfold read
  rw [repeatedName?_of_nodup h]

/-- A repeated name is refused before anything else happens. -/
theorem read_of_not_nodup (source : SecretSource ε σ) (space : String)
    (h : ¬ (definitions.map (·.name)).Nodup) :
    exists name, List.Duplicate name (definitions.map (·.name)) ∧
      read source space definitions =
        .fail ⟨.invalidSpec, "duplicate vaultSecretDefinition name '" ++ name ++ "'"⟩ := by
  cases hname : repeatedName? [] definitions with
  | none => exact absurd (repeatedName?_eq_none hname).1 h
  | some name =>
      refine ⟨name, ?_, ?_⟩
      · rcases repeatedName?_eq_some hname with ⟨hmem, _⟩ | hduplicate
        · cases hmem
        · exact hduplicate
      · unfold read
        rw [hname]
        rfl

theorem result_read_eq_ok_iff_inOrder (h : (definitions.map (·.name)).Nodup)
    {aggregate : Aggregate} :
    (read source space definitions).result = .ok aggregate <->
      (readInOrder source space definitions).result = .ok aggregate := by
  rw [read_of_nodup h]
  unfold readInOrder
  simp only [Timed.result_map_eq_ok, Timed.result_all_eq_ok_iff_inOrder]

/-- The aggregate comes from one reading for each definition. -/
theorem result_read_eq_ok (h : (definitions.map (·.name)).Nodup) {aggregate : Aggregate} :
    (read source space definitions).result = .ok aggregate <->
      exists readings,
        List.Forall₂ (fun request => (source request.2).Reads space request.1)
            definitions.zipIdx readings ∧
          aggregate = empty.addAll (definitions.zip readings) := by
  rw [read_of_nodup h, SecretSource.attempts]
  constructor
  · intro hread
    rcases Timed.result_map_eq_ok.mp hread with ⟨readings, hall, rfl⟩
    refine ⟨readings, ?_, rfl⟩
    have hresults := Timed.results_of_all hall
    rw [List.map_map] at hresults
    have hforall := List.forall₂_map_left_iff.mp
      (List.forall₂_map_right_iff.mp (List.forall₂_eq_eq_eq ▸ hresults))
    exact hforall.imp fun request reading hresult =>
      SecretReader.result_readDefinition_eq_ok.mp hresult
  · intro hread
    rcases hread with ⟨readings, hreadings, rfl⟩
    apply Timed.result_map_eq_ok.mpr
    refine ⟨readings, Timed.result_all_eq_ok.mpr ?_, rfl⟩
    rw [List.map_map, ← List.forall₂_eq_eq_eq, List.forall₂_map_left_iff,
      List.forall₂_map_right_iff]
    exact hreadings.imp fun request reading hreading =>
      SecretReader.result_readDefinition_eq_ok.mpr hreading

theorem exists_readings (h : forall position definition, definitions[position]? = some definition ->
      exists reading, (source position).Reads space definition reading) :
    exists readings, List.Forall₂ (fun request => (source request.2).Reads space request.1)
      definitions.zipIdx readings := by
  have hrequests : forall request, request ∈ definitions.zipIdx ->
      exists reading, (source request.2).Reads space request.1 reading := by
    rintro ⟨definition, position⟩ hmem
    exact h position definition (List.mk_mem_zipIdx_iff_getElem?.mp hmem)
  generalize definitions.zipIdx = requests at hrequests ⊢
  induction requests with
  | nil => exact ⟨[], .nil⟩
  | cons first rest ih =>
      rcases hrequests first List.mem_cons_self with ⟨reading, hreading⟩
      rcases ih fun request hmem => hrequests request (List.mem_cons_of_mem _ hmem) with
        ⟨readings, hreadings⟩
      exact ⟨reading :: readings, .cons hreading hreadings⟩

theorem collects_of_read (hnodup : (definitions.map (·.name)).Nodup) {aggregate : Aggregate}
    (h : (read source space definitions).result = .ok aggregate) :
    Collects source space definitions aggregate := by
  have hholds := holds_of_read h
  constructor
  · apply (List.perm_ext_iff_of_nodup aggregate.merged.nodup_keys hnodup).mpr
    intro name
    rw [← Table.keys, Table.mem_keys_iff]
    constructor
    · intro hvalue
      rcases hvalue with ⟨value, hvalue⟩
      rcases hholds.only name value hvalue with ⟨definition, hmem, rfl⟩
      exact List.mem_map_of_mem hmem
    · intro hmem
      rcases List.mem_map.mp hmem with ⟨definition, hdefinition, rfl⟩
      rcases List.mem_iff_getElem?.mp hdefinition with ⟨position, hplace⟩
      rcases hholds.payload position definition hplace with ⟨reading, _, hpayload⟩
      exact ⟨_, hpayload⟩
  · intro position definition hplace
    rcases hholds.payload position definition hplace with ⟨reading, hreading, hpayload⟩
    exact ⟨reading, SecretReader.result_readDefinition_eq_ok.mp hreading, hpayload⟩
  · apply (grants_of_read h).imp
    intro request lease hlease
    rcases hlease with ⟨reading, hreading, heq⟩
    exact ⟨reading, SecretReader.result_readDefinition_eq_ok.mp hreading, heq⟩

theorem failsFirst_iff {position : Nat} {definition : Definition} {fault : Fault} :
    (definitions[position]? = some definition ∧
      Timed.FailsFirst (source.attempts space definitions) position
        ((source position).readDefinition space definition) fault) <->
    exists time cause, FailsFirst source space definitions position definition time cause ∧
      fault = SecretReader.blame definition cause := by
  constructor
  · intro h
    rcases h with ⟨hplace, hfirst⟩
    rcases SecretReader.exists_fails_of_result hfirst.result with ⟨cause, hfails, hfault⟩
    refine ⟨_, cause, ⟨hplace, hfails, ?_⟩, hfault⟩
    intro index other otherTime reason hother hfailure
    rcases hfailure.result_readDefinition with ⟨hresult, rfl⟩
    refine hfirst.earliest index _ _ ?_ hresult
    rw [SecretSource.getElem?_attempts, hother]
    rfl
  · intro h
    rcases h with ⟨time, cause, hfirst, rfl⟩
    rcases hfirst.fails.result_readDefinition with ⟨hresult, rfl⟩
    refine ⟨hfirst.place, ?_, hresult, ?_⟩
    · rw [SecretSource.getElem?_attempts, hfirst.place]
      rfl
    · intro index attempt reason hattempt hreason
      rw [SecretSource.getElem?_attempts] at hattempt
      rcases Option.map_eq_some_iff.mp hattempt with ⟨other, hother, rfl⟩
      rcases SecretReader.exists_fails_of_result hreason with ⟨otherCause, hfails, _⟩
      exact hfirst.earliest index other _ otherCause hother hfails

theorem result_read_eq_error (h : (definitions.map (·.name)).Nodup) {fault : Fault} :
    (read source space definitions).result = .error fault <->
      exists position definition time cause,
        FailsFirst source space definitions position definition time cause ∧
          fault = SecretReader.blame definition cause ∧
          (read source space definitions).elapsed = time := by
  rw [read_of_nodup h]
  constructor
  · intro hread
    have hall : (Timed.all (source.attempts space definitions)).result = .error fault := by
      unfold Timed.map at hread
      cases hresult : (Timed.all (source.attempts space definitions)).result with
      | ok readings =>
          rw [hresult] at hread
          cases hread
      | error cause =>
          rw [hresult] at hread
          cases hread
          rfl
    rcases Timed.exists_failsFirst_of_result hall with ⟨position, attempt, hattempt⟩
    have hplace := hattempt.place
    rw [SecretSource.getElem?_attempts] at hplace
    rcases Option.map_eq_some_iff.mp hplace with ⟨definition, hdefinition, rfl⟩
    rcases failsFirst_iff.mp ⟨hdefinition, hattempt⟩ with ⟨time, cause, hfirst, hfault⟩
    refine ⟨position, definition, time, cause, hfirst, hfault, ?_⟩
    rw [← hfirst.fails.result_readDefinition.2]
    exact (Timed.all_of_failsFirst hattempt).2
  · intro hfirst
    rcases hfirst with ⟨position, definition, time, cause, hfirst, hfault, _⟩
    have hattempt := (failsFirst_iff.mpr ⟨time, cause, hfirst, hfault⟩).2
    unfold Timed.map
    rw [(Timed.all_of_failsFirst hattempt).1]
    rfl

/-- Definitions with names of their own are read side by side as if one after another.  All of them
succeed or there is a fault.  If they succeed, each has its payload under its name and its lease
at its place, whatever the delays; if not, the fault is that of the definition that fails first.
With a repeated name nothing is asked of the source at all. -/
theorem concurrent_reading_is_sequential {ε : Type u} {σ : Type v} (source : SecretSource ε σ)
    (space : String) (definitions : List Definition) :
    ((definitions.map (·.name)).Nodup ->
      (forall aggregate,
        (read source space definitions).result = .ok aggregate <->
          (readInOrder source space definitions).result = .ok aggregate) ∧
      ((exists aggregate, (read source space definitions).result = .ok aggregate) <->
        forall position definition, definitions[position]? = some definition ->
          exists reading, (source position).Reads space definition reading) ∧
      (forall aggregate, (read source space definitions).result = .ok aggregate ->
        Collects source space definitions aggregate) ∧
      (forall (δ : Type u) (other : SecretSource δ σ),
        (forall position, (source position).SameAnswers (other position)) ->
        forall aggregate, (read source space definitions).result = .ok aggregate <->
          (read other space definitions).result = .ok aggregate) ∧
      (forall fault, (read source space definitions).result = .error fault <->
        exists position definition time cause,
          FailsFirst source space definitions position definition time cause ∧
            fault = SecretReader.blame definition cause ∧
            (read source space definitions).elapsed = time)) ∧
    (¬ (definitions.map (·.name)).Nodup ->
      exists name, List.Duplicate name (definitions.map (·.name)) ∧
        (read source space definitions).result =
          .error ⟨.invalidSpec, "duplicate vaultSecretDefinition name '" ++ name ++ "'"⟩ ∧
        (read source space definitions).trace = []) := by
  constructor
  · intro hnodup
    refine ⟨fun _ => result_read_eq_ok_iff_inOrder hnodup, ?_,
      fun _ => collects_of_read hnodup, ?_, fun _ => result_read_eq_error hnodup⟩
    · constructor
      · intro hread position definition hplace
        rcases hread with ⟨aggregate, hread⟩
        rcases (collects_of_read hnodup hread).payloads position definition hplace with
          ⟨reading, hreading, _⟩
        exact ⟨reading, hreading⟩
      · intro hreads
        rcases exists_readings hreads with ⟨readings, hreadings⟩
        exact ⟨_, (result_read_eq_ok hnodup).mpr ⟨readings, hreadings, rfl⟩⟩
    · intro δ other hsame aggregate
      have hreads : (fun request : Definition × Nat => (source request.2).Reads space request.1) =
          fun request => (other request.2).Reads space request.1 := by
        funext request reading
        exact propext (hsame request.2).reads_iff
      rw [result_read_eq_ok hnodup, result_read_eq_ok hnodup, hreads]
  · intro hrepeated
    rcases read_of_not_nodup source space hrepeated with ⟨name, hduplicate, hread⟩
    rw [hread]
    exact ⟨name, hduplicate, rfl, rfl⟩

end Reading

/-!
## A fast failure behind a slow one

The read of the first definition fails after twenty milliseconds, the authentication of the second
one after ten.
-/

namespace Sample

def slow : Script where
  identities := .ofList [("k8s:kubernetes:cache:default",
    ⟨.ofMilliseconds 10, some ⟨.authentication, "denied"⟩, ⟨.empty, "", 0, false⟩⟩)]
  paths := .ofList [("kv/db",
    ⟨.ofMilliseconds 20, some ⟨.unavailable, "down"⟩, ⟨.empty, "", 0, false⟩⟩)]

def definitions : List Definition :=
  [⟨"db", ⟨some ⟨"kubernetes", "app", "default"⟩, none, none⟩, "kv/db"⟩,
    ⟨"cache", ⟨some ⟨"kubernetes", "cache", "default"⟩, none, none⟩, "kv/cache"⟩]

end Sample

theorem fast_failure_reported :
    (Sample.definitions.map (·.name)).Nodup ∧
      (read Sample.slow.toSource "team-a" Sample.definitions).result =
        .error ⟨.authentication, "definition 'cache': denied"⟩ ∧
      exists position definition time cause,
        FailsFirst Sample.slow.toSource "team-a" Sample.definitions position definition time
          cause ∧
        (read Sample.slow.toSource "team-a" Sample.definitions).elapsed = time := by
  have hnodup : (Sample.definitions.map (·.name)).Nodup := by decide
  have hresult : (read Sample.slow.toSource "team-a" Sample.definitions).result =
      .error ⟨.authentication, "definition 'cache': denied"⟩ := by decide +kernel
  rcases (concurrent_reading_is_sequential Sample.slow.toSource "team-a"
    Sample.definitions).1 hnodup with ⟨_, _, _, _, hfailure⟩
  rcases (hfailure _).mp hresult with ⟨position, definition, time, cause, hfirst, _, htime⟩
  exact ⟨hnodup, hresult, position, definition, time, cause, hfirst, htime⟩

end Aggregate

end SecretProjection
