import SecretProjection.Proofs.Interleavings
import SecretProjection.Proofs.SideBySide

/-!
# Fresh sessions

The definitions of a projection are read side by side, and each of them with a session of its own.
To see this, a source is wrapped so that its trace shows every access: when a session is asked
for, when it is granted, and when something is read with it.  The definitions then take turns in
the trace, but at any moment each of them is at some point of its own course, which is to ask, to
be granted a session, and to read its path with that session.  So there are never more reads than
sessions that were granted, whatever sets the sessions apart.
-/

namespace SecretProjection

universe u v

open Projection

namespace SecretReader

/-!
# Accesses
-/

/-- A session with the descriptor that it was granted for. -/
structure Grant (σ : Type v) where
  authentication : Authentication
  session : σ
  deriving DecidableEq

inductive Access (σ : Type v) where
  | asked (authentication : Authentication)
  | granted (grant : Grant σ)
  | read (grant : Grant σ) (path : String)
  deriving DecidableEq

/-- Whether a session of the given ones is granted. -/
def Access.grants {σ : Type v} (among : Grant σ -> Bool) : Access σ -> Bool
  | .granted grant => among grant
  | _ => false

/-- Whether something is read with a session of the given ones. -/
def Access.reads {σ : Type v} (among : Grant σ -> Bool) : Access σ -> Bool
  | .read grant _ => among grant
  | _ => false

variable {ε : Type u} {σ : Type v}

/-- The reader with a trace of the accesses.  A session is granted when the authentication is
over, if it succeeds. -/
def recorded (reader : SecretReader ε σ) : SecretReader (Access σ) (Grant σ) where
  authenticate auth space :=
    let attempt := reader.authenticate auth space
    match attempt.result with
    | .error fault => ⟨[(.zero, .asked auth)], attempt.elapsed, .error fault⟩
    | .ok session =>
        ⟨[(.zero, .asked auth), (attempt.elapsed, .granted ⟨auth, session⟩)], attempt.elapsed,
          .ok ⟨auth, session⟩⟩
  read grant path :=
    let attempt := reader.read grant.session path
    ⟨[(.zero, .read grant path)], attempt.elapsed, attempt.result⟩

/-- The accesses of a definition that nothing stops. -/
def course (reader : SecretReader ε σ) (space : String) (definition : Definition) :
    List (Duration × Access σ) :=
  let attempt := reader.authenticate definition.authentication space
  match attempt.result with
  | .error _ => [(.zero, .asked definition.authentication)]
  | .ok session =>
      [(.zero, .asked definition.authentication),
        (attempt.elapsed, .granted ⟨definition.authentication, session⟩),
        (attempt.elapsed, .read ⟨definition.authentication, session⟩ definition.path)]

variable {reader : SecretReader ε σ} {space : String} {definition : Definition}

section Definitions

variable {session : σ} {fault : Fault}

theorem authenticate_recorded_of_error {auth : Authentication}
    (h : (reader.authenticate auth space).result = .error fault) :
    reader.recorded.authenticate auth space =
      ⟨[(.zero, .asked auth)], (reader.authenticate auth space).elapsed, .error fault⟩ := by
  simp only [recorded, h]

theorem authenticate_recorded_of_ok {auth : Authentication}
    (h : (reader.authenticate auth space).result = .ok session) :
    reader.recorded.authenticate auth space =
      ⟨[(.zero, .asked auth),
          ((reader.authenticate auth space).elapsed, .granted ⟨auth, session⟩)],
        (reader.authenticate auth space).elapsed, .ok ⟨auth, session⟩⟩ := by
  simp only [recorded, h]

theorem read_recorded (grant : Grant σ) (path : String) :
    reader.recorded.read grant path =
      ⟨[(.zero, .read grant path)], (reader.read grant.session path).elapsed,
        (reader.read grant.session path).result⟩ :=
  rfl

theorem course_of_error
    (h : (reader.authenticate definition.authentication space).result = .error fault) :
    reader.course space definition = [(.zero, .asked definition.authentication)] := by
  simp only [course, h]

theorem course_of_ok
    (h : (reader.authenticate definition.authentication space).result = .ok session) :
    reader.course space definition =
      [(.zero, .asked definition.authentication),
        ((reader.authenticate definition.authentication space).elapsed,
          .granted ⟨definition.authentication, session⟩),
        ((reader.authenticate definition.authentication space).elapsed,
          .read ⟨definition.authentication, session⟩ definition.path)] := by
  simp only [course, h]

theorem trace_readDefinition_recorded :
    (reader.recorded.readDefinition space definition).trace = reader.course space definition := by
  cases hauth : (reader.authenticate definition.authentication space).result with
  | error fault =>
      simp only [readDefinition, Timed.mapFault, Timed.bind, authenticate_recorded_of_error hauth,
        course_of_error hauth]
  | ok session =>
      simp only [readDefinition, Timed.mapFault, Timed.bind, authenticate_recorded_of_ok hauth,
        course_of_ok hauth, read_recorded, Timed.later, List.map_cons, List.map_nil,
        Duration.add_zero, List.cons_append, List.nil_append]

theorem ordered_course : Timed.Ordered (reader.course space definition) := by
  cases hauth : (reader.authenticate definition.authentication space).result with
  | error fault =>
      rw [course_of_error hauth]
      exact List.pairwise_singleton _ _
  | ok session =>
      rw [course_of_ok hauth]
      simp [Timed.Ordered, Duration.le_iff]

/-- The wrapping changes neither the result of a definition nor the time that it takes. -/
theorem outcome_readDefinition_recorded (reader : SecretReader ε σ) (space : String)
    (definition : Definition) :
    (reader.recorded.readDefinition space definition).filterEvents
        (fun _ => (none : Option Empty)) =
      (reader.readDefinition space definition).filterEvents fun _ => none := by
  cases hauth : (reader.authenticate definition.authentication space).result with
  | error fault =>
      simp [readDefinition, Timed.filterEvents, Timed.mapFault, Timed.bind,
        authenticate_recorded_of_error hauth, hauth, Timed.someEvents]
  | ok session =>
      simp [readDefinition, Timed.filterEvents, Timed.mapFault, Timed.bind,
        authenticate_recorded_of_ok hauth, hauth, Timed.someEvents, read_recorded]

/-- Up to any point of its course, a definition has not read more than it was granted. -/
theorem countP_reads_le {entries : List (Duration × Access σ)}
    (h : entries <+: reader.course space definition) (among : Grant σ -> Bool) :
    entries.countP (fun entry => entry.2.reads among) ≤
      entries.countP fun entry => entry.2.grants among := by
  cases hauth : (reader.authenticate definition.authentication space).result with
  | error fault =>
      rw [course_of_error hauth] at h
      have hreads : entries.countP (fun entry => entry.2.reads among) = 0 := by
        rw [List.countP_eq_zero]
        intro entry hmem
        cases List.mem_singleton.mp (h.subset hmem)
        simp [Access.reads]
      rw [hreads]
      exact Nat.zero_le _
  | ok session =>
      rw [course_of_ok hauth] at h
      rcases List.prefix_cons_iff.mp h with rfl | ⟨granted, rfl, hgranted⟩
      · exact Nat.le_refl 0
      rcases List.prefix_cons_iff.mp hgranted with rfl | ⟨read, rfl, hread⟩
      · simp [Access.reads, Access.grants]
      rcases List.prefix_cons_iff.mp hread with rfl | ⟨rest, rfl, hrest⟩
      · simp [Access.reads, Access.grants]
      cases List.prefix_nil.mp hrest
      simp [Access.reads, Access.grants, List.countP_cons]

end Definitions

end SecretReader

namespace SecretSource

open SecretReader

/-!
# Positions
-/

variable {ε : Type u} {σ : Type v}

/-- The source with a trace of the accesses. -/
def recorded (source : SecretSource ε σ) : SecretSource (Access σ) (Grant σ) :=
  fun position => (source position).recorded

/-- The course of the definition at a position; there is none behind the last one. -/
def courseAt (source : SecretSource ε σ) (space : String) (definitions : List Definition)
    (position : Nat) : List (Duration × Access σ) :=
  match definitions[position]? with
  | none => []
  | some definition => (source position).course space definition

variable {source : SecretSource ε σ} {space : String} {definitions : List Definition}

theorem ordered_of_mem_recorded (source : SecretSource ε σ) (space : String)
    (definitions : List Definition) (attempt : Timed (Access σ) Reading)
    (h : attempt ∈ source.recorded.attempts space definitions) :
    Timed.Ordered attempt.trace := by
  rcases List.mem_map.mp h with ⟨request, _, rfl⟩
  unfold recorded
  rw [trace_readDefinition_recorded]
  exact ordered_course

theorem traceAt_recorded (position : Nat) :
    Timed.traceAt (source.recorded.attempts space definitions) position =
      source.courseAt space definitions position := by
  unfold Timed.traceAt courseAt
  rw [getElem?_attempts]
  cases definitions[position]? with
  | none => rfl
  | some definition => exact trace_readDefinition_recorded

end SecretSource

namespace Aggregate

open SecretReader SecretSource

variable {ε : Type u} {σ : Type v}

/-!
# Moments
-/

/-- What a log of accesses shows at a moment.  Its entries are in order; as many sessions at least
have been granted as have been read with, whichever sessions are looked at; and every definition is
at a point of its course. -/
structure Accounts (source : SecretSource ε σ) (space : String) (definitions : List Definition)
    (log : List (Nat × Duration × Access σ)) : Prop where
  ordered : Timed.Ordered (log.map (·.2))
  reads_le : forall among : Grant σ -> Bool,
    log.countP (fun entry => entry.2.2.reads among) ≤
      log.countP fun entry => entry.2.2.grants among
  course : forall position,
    Timed.entriesOf position log <+: source.courseAt space definitions position

/-- What the accesses of an attempt to read definitions show.  They can be told apart by
definitions, so that every moment is accounted for, and if the attempt succeeds, every definition
has asked for one session and read its path with it. -/
def Accounted (source : SecretSource ε σ) (space : String) (definitions : List Definition)
    (attempt : Timed (Access σ) Aggregate) : Prop :=
  exists log, log.map (·.2) = attempt.trace ∧
    (forall moment, moment <+: log -> Accounts source space definitions moment) ∧
    forall aggregate, attempt.result = .ok aggregate ->
      forall position definition, definitions[position]? = some definition ->
        exists session,
          ((source position).authenticate definition.authentication space).result =
              .ok session ∧
            Timed.entriesOf position log =
              [(.zero, .asked definition.authentication),
                (((source position).authenticate definition.authentication space).elapsed,
                  .granted ⟨definition.authentication, session⟩),
                (((source position).authenticate definition.authentication space).elapsed,
                  .read ⟨definition.authentication, session⟩ definition.path)]

section Moments

variable {source : SecretSource ε σ} {space : String} {definitions : List Definition}

theorem accounts_of_interleaves {log : List (Nat × Duration × Access σ)}
    (h : Timed.Interleaves (source.courseAt space definitions) log) :
    Accounts source space definitions log where
  ordered := h.ordered
  reads_le among := by
    apply Timed.countP_le_of_entriesOf
    intro position
    have hentries := h.entries position
    unfold courseAt at hentries
    split at hentries
    · rw [List.prefix_nil.mp hentries]
      exact Nat.le_refl 0
    · exact countP_reads_le hentries among
  course := h.entries

/-- The wrapping does not show in what an aggregation ends in, nor in its time. -/
theorem outcome_read_recorded (source : SecretSource ε σ) (space : String)
    (definitions : List Definition) :
    (read source.recorded space definitions).result = (read source space definitions).result ∧
      (read source.recorded space definitions).elapsed =
        (read source space definitions).elapsed := by
  unfold read
  cases repeatedName? [] definitions with
  | some name => exact ⟨rfl, rfl⟩
  | none =>
      have hattempts : (source.recorded.attempts space definitions).map
            (Timed.filterEvents fun _ => (none : Option Empty)) =
          (source.attempts space definitions).map (Timed.filterEvents fun _ => none) := by
        rw [attempts, attempts, List.map_map, List.map_map]
        exact List.map_congr_left fun request _ =>
          outcome_readDefinition_recorded (source request.2) space request.1
      have hrecorded := Timed.outcome_all_filterEvents (fun _ => (none : Option Empty))
        (source.recorded.attempts space definitions)
      have hplain := Timed.outcome_all_filterEvents (fun _ => (none : Option Empty))
        (source.attempts space definitions)
      rw [hattempts] at hrecorded
      exact ⟨congrArg (Except.map _) (hrecorded.1.symm.trans hplain.1),
        hrecorded.2.symm.trans hplain.2⟩

/-- The log of an aggregation; it is empty if a repeated name is refused. -/
theorem exists_log_read (source : SecretSource ε σ) (space : String)
    (definitions : List Definition) :
    exists log, log.map (·.2) = (read source.recorded space definitions).trace ∧
      Timed.Interleaves (source.courseAt space definitions) log ∧
      forall aggregate, (read source.recorded space definitions).result = .ok aggregate ->
        forall position,
          Timed.entriesOf position log = source.courseAt space definitions position := by
  by_cases hnodup : (definitions.map (·.name)).Nodup
  · have hcourse : Timed.traceAt (source.recorded.attempts space definitions) =
        source.courseAt space definitions := funext traceAt_recorded
    rcases Timed.exists_log_all (ordered_of_mem_recorded source space definitions) with
      ⟨log, htrace, hlog, hcomplete⟩
    rw [hcourse] at hlog hcomplete
    rw [read_of_nodup hnodup]
    refine ⟨log, htrace, hlog, ?_⟩
    intro aggregate haggregate
    rcases Timed.result_map_eq_ok.mp haggregate with ⟨readings, hreadings, _⟩
    exact hcomplete readings hreadings
  · rcases read_of_not_nodup source.recorded space hnodup with ⟨name, _, hread⟩
    rw [hread]
    refine ⟨[], rfl, ⟨.nil, fun position => List.nil_prefix⟩, ?_⟩
    intro aggregate haggregate
    cases haggregate

/-- After a success, the course of a definition is that of an authentication that succeeded. -/
theorem exists_session_of_read {aggregate : Aggregate}
    (h : (read source space definitions).result = .ok aggregate) {position : Nat}
    {definition : Definition} (hplace : definitions[position]? = some definition) :
    exists session,
      ((source position).authenticate definition.authentication space).result =
        .ok session := by
  by_cases hnodup : (definitions.map (·.name)).Nodup
  · rcases (collects_of_read hnodup h).payloads position definition hplace with
      ⟨_, ⟨session, hsession, _⟩, _⟩
    exact ⟨session, hsession⟩
  · rcases read_of_not_nodup source space hnodup with ⟨name, _, hread⟩
    rw [hread] at h
    cases h

theorem accounted_of_log {attempt : Timed (Access σ) Aggregate}
    {log : List (Nat × Duration × Access σ)} (htrace : log.map (·.2) = attempt.trace)
    (hlog : Timed.Interleaves (source.courseAt space definitions) log)
    (hcomplete : forall aggregate, attempt.result = .ok aggregate ->
      (read source space definitions).result = .ok aggregate ∧
        forall position,
          Timed.entriesOf position log = source.courseAt space definitions position) :
    Accounted source space definitions attempt := by
  refine ⟨log, htrace, fun moment hmoment => accounts_of_interleaves (hlog.upTo hmoment), ?_⟩
  intro aggregate haggregate position definition hposition
  rcases hcomplete aggregate haggregate with ⟨hread, hentries⟩
  rcases exists_session_of_read hread hposition with ⟨session, hsession⟩
  refine ⟨session, hsession, ?_⟩
  rw [hentries position, courseAt, hposition]
  exact course_of_ok hsession

/-- Every read is made with a session of its own.  The accesses of an aggregation are accounted
for, also when a failure or a deadline cuts it short; to watch them changes neither what it ends
in nor when. -/
theorem every_read_has_its_own_session (source : SecretSource ε σ) (space : String)
    (definitions : List Definition) :
    ((read source.recorded space definitions).result = (read source space definitions).result ∧
      (read source.recorded space definitions).elapsed =
        (read source space definitions).elapsed) ∧
    Accounted source space definitions (read source.recorded space definitions) ∧
    forall (limit : Duration) (late : Fault),
      ((read source.recorded space definitions).within limit late).result =
          ((read source space definitions).within limit late).result ∧
        Accounted source space definitions
          ((read source.recorded space definitions).within limit late) := by
  have houtcome := outcome_read_recorded source space definitions
  rcases exists_log_read source space definitions with ⟨log, htrace, hlog, hcomplete⟩
  refine ⟨houtcome, ?_, fun limit late => ⟨?_, ?_⟩⟩
  · refine accounted_of_log htrace hlog fun aggregate haggregate => ?_
    exact ⟨houtcome.1 ▸ haggregate, hcomplete aggregate haggregate⟩
  · unfold Timed.within
    rw [houtcome.2]
    split
    · exact houtcome.1
    · rfl
  · rcases Timed.exists_log_within htrace (htrace ▸ hlog.ordered) limit late with
      ⟨moment, hmoment, hcut, hwhole⟩
    refine accounted_of_log hcut (hlog.upTo hmoment) fun aggregate haggregate => ?_
    rcases Timed.result_within_eq_ok.mp haggregate with ⟨_, hread⟩
    rw [hwhole aggregate haggregate]
    exact ⟨houtcome.1 ▸ hread, hcomplete aggregate hread⟩

end Moments

/-!
# One identity, one path

Two definitions ask as the same identity and read the same path.
-/

namespace Sample

def busy : Script where
  identities := .ofList [("k8s:kubernetes:app:default",
    ⟨.ofMilliseconds 10, none, ⟨.empty, "", 0, false⟩⟩)]
  paths := .ofList [("kv/db", ⟨.zero, none, ⟨.empty, "", 0, false⟩⟩)]

def login : Authentication := ⟨some ⟨"kubernetes", "app", "default"⟩, none, none⟩

def shared : List Definition := [⟨"db", login, "kv/db"⟩, ⟨"copy", login, "kv/db"⟩]

def grant : Grant String := ⟨login, "k8s:kubernetes:app:default"⟩

end Sample

theorem shared_identity_is_granted_twice :
    (read Sample.busy.toSource "team-a" Sample.shared).result.toOption.isSome = true ∧
      exists log, log.map (·.2) =
          (read Sample.busy.toSource.recorded "team-a" Sample.shared).trace ∧
        forall position, position < 2 ->
          (Timed.entriesOf position log).map (·.2) =
            [.asked Sample.login, .granted Sample.grant, .read Sample.grant "kv/db"] := by
  have hok : (read Sample.busy.toSource "team-a" Sample.shared).result.toOption.isSome = true := by
    decide +kernel
  rcases every_read_has_its_own_session Sample.busy.toSource "team-a" Sample.shared with
    ⟨⟨hsame, _⟩, ⟨log, htrace, _, hcomplete⟩, _⟩
  refine ⟨hok, log, htrace, ?_⟩
  intro position hposition
  have hdefinition : exists definition, Sample.shared[position]? = some definition ∧
      definition.authentication = Sample.login ∧ definition.path = "kv/db" := by
    match position with
    | 0 => exact ⟨_, rfl, rfl, rfl⟩
    | 1 => exact ⟨_, rfl, rfl, rfl⟩
  rcases hdefinition with ⟨definition, hplace, hauth, hpath⟩
  cases hresult : (read Sample.busy.toSource "team-a" Sample.shared).result with
  | error fault =>
      rw [hresult] at hok
      cases hok
  | ok aggregate =>
      rcases hcomplete aggregate (hsame.trans hresult) position definition hplace with
        ⟨session, hsession, hentries⟩
      rw [hauth] at hsession hentries
      have hgranted : (Sample.busy.authenticate Sample.login "team-a").result =
          .ok "k8s:kubernetes:app:default" := by decide +kernel
      cases hgranted.symm.trans hsession
      rw [hentries, hpath]
      rfl

/-!
# Scripted sources

The log of a scripted source is the log of its accesses, written down line by line.  An access
without a line is the grant of a session, or the request for one with a descriptor that does not
make sense.
-/

/-- The line of an access. -/
def line? (space : String) : Access String -> Option String
  | .asked auth =>
      match auth.mechanism with
      | .error _ => none
      | .ok mechanism =>
          some (Script.authLine (Script.identity mechanism) space auth.vaultNamespace)
  | .granted _ => none
  | .read grant path => some (Script.readLine path grant.session)

theorem trace_authenticate_script (script : Script) (auth : Authentication) (space : String) :
    (script.authenticate auth space).trace =
      Timed.someEvents (line? space) [(.zero, .asked auth)] := by
  unfold Script.authenticate
  cases hmechanism : auth.mechanism with
  | error fault => simp [Timed.fail, Timed.someEvents, line?, hmechanism]
  | ok mechanism =>
      have hline : Timed.someEvents (line? space) [(.zero, .asked auth)] =
          [(.zero, Script.authLine (Script.identity mechanism) space auth.vaultNamespace)] := by
        simp [Timed.someEvents, line?, hmechanism]
      rw [hline]
      dsimp only
      split
      · rfl
      · split <;> rfl

theorem trace_read_script (script : Script) (session path : String) :
    (script.read session path).trace = [(.zero, Script.readLine path session)] := by
  unfold Script.read
  dsimp only
  split
  · rfl
  · split <;> rfl

theorem trace_readDefinition_script (script : Script) (space : String)
    (definition : Definition) :
    (script.reader.readDefinition space definition).trace =
      Timed.someEvents (line? space) (script.reader.course space definition) := by
  have hauth := trace_authenticate_script script definition.authentication space
  have hread := trace_read_script script
  cases hresult : (script.reader.authenticate definition.authentication space).result with
  | error fault =>
      rw [course_of_error hresult, ← hauth]
      simp only [readDefinition, Timed.mapFault, Timed.bind, hresult]
      rfl
  | ok session =>
      simp only [readDefinition, Timed.mapFault, Timed.bind, hresult]
      rw [course_of_ok hresult, ← List.singleton_append, Timed.someEvents,
        List.filterMap_append]
      refine congrArg₂ (· ++ ·) hauth ?_
      have hlater : (script.reader.read session definition.path).trace =
          [(.zero, Script.readLine definition.path session)] := hread session definition.path
      simp [hlater, Timed.later, Duration.add_zero, line?]

theorem readDefinition_script (script : Script) (space : String) (definition : Definition) :
    (script.reader.recorded.readDefinition space definition).filterEvents (line? space) =
      script.reader.readDefinition space definition := by
  have houtcome := outcome_readDefinition_recorded script.reader space definition
  unfold Timed.filterEvents at houtcome ⊢
  rw [Timed.mk.injEq] at houtcome
  rcases houtcome with ⟨_, helapsed, hresult⟩
  rw [trace_readDefinition_recorded, ← trace_readDefinition_script, helapsed, hresult]

/-- What a scripted source writes down are its accesses. -/
theorem script_log_is_recorded (script : Script) (space : String)
    (definitions : List Definition) :
    (read script.toSource.recorded space definitions).filterEvents (line? space) =
      read script.toSource space definitions := by
  unfold read
  cases repeatedName? [] definitions with
  | some name => rfl
  | none =>
      have hattempts : (script.toSource.recorded.attempts space definitions).map
            (Timed.filterEvents (line? space)) =
          script.toSource.attempts space definitions := by
        rw [attempts, attempts, List.map_map]
        exact List.map_congr_left fun request _ => readDefinition_script script space request.1
      have hall := Timed.all_filterEvents (line? space)
        (ordered_of_mem_recorded script.toSource space definitions)
      rw [hattempts] at hall
      exact (congrArg (Timed.map _) hall).symm

end Aggregate

end SecretProjection
