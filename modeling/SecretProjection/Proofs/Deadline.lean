import SecretProjection.Proofs.Output
import SecretProjection.Proofs.SideBySide

/-!
# One deadline

The definitions of a projection are read side by side, and the look-up of the output and the write
follow one after the other.  One limit holds for all of it.  When no operation fails by itself, only
time decides: an attempt succeeds exactly if the slowest read is done within the limit and the
commit finishes in what that read has left of it.
-/

namespace SecretProjection

universe u v w x

/-- The longest of some durations, nothing if there are none. -/
def Duration.longest (times : List Duration) : Duration := times.foldr Duration.longer .zero

namespace Timed

variable {ε : Type u} {α : Type v}

/-!
## Times of a success
-/

theorem longest_eq (attempts : List (Timed ε α)) :
    longest attempts = Duration.longest (attempts.map (·.elapsed)) := by
  induction attempts with
  | nil => rfl
  | cons attempt rest ih =>
      simp only [longest, ih]
      rfl

theorem elapsed_all_of_ok {attempts : List (Timed ε α)} {found : List α}
    (h : (all attempts).result = .ok found) :
    (all attempts).elapsed = Duration.longest (attempts.map (·.elapsed)) := by
  rw [← longest_eq]
  unfold all at h ⊢
  cases hfirst : firstFailure 0 attempts with
  | none => rfl
  | some failure =>
      rw [hfirst] at h
      cases h

end Timed

open Projection

namespace SecretReader

variable {ε : Type u} {σ : Type v}

/-- The authentication of a definition and the read with its session succeed, and take a time
together. -/
def ReadsIn (reader : SecretReader ε σ) (space : String) (definition : Definition)
    (time : Duration) : Prop :=
  exists session reading,
    (reader.authenticate definition.authentication space).result = .ok session ∧
      (reader.read session definition.path).result = .ok reading ∧
      time = (reader.authenticate definition.authentication space).elapsed +
        (reader.read session definition.path).elapsed

variable {reader : SecretReader ε σ} {space : String} {definition : Definition} {time : Duration}

theorem ReadsIn.exists_reads (h : reader.ReadsIn space definition time) :
    exists reading, reader.Reads space definition reading := by
  rcases h with ⟨session, reading, hauth, hread, _⟩
  exact ⟨reading, session, hauth, hread⟩

theorem ReadsIn.elapsed_readDefinition (h : reader.ReadsIn space definition time) :
    (reader.readDefinition space definition).elapsed = time := by
  rcases h with ⟨session, reading, hauth, hread, rfl⟩
  exact Timed.elapsed_bind_of_ok hauth

end SecretReader

namespace Aggregate

variable {ε : Type u} {σ : Type v} {source : SecretSource ε σ} {space : String}
variable {definitions : List Definition}

theorem elapsed_read_of_ok (hnodup : (definitions.map (·.name)).Nodup) {aggregate : Aggregate}
    (h : (read source space definitions).result = .ok aggregate) :
    (read source space definitions).elapsed =
      Duration.longest ((source.attempts space definitions).map (·.elapsed)) := by
  rw [read_of_nodup hnodup] at h ⊢
  rcases Timed.result_map_eq_ok.mp h with ⟨readings, hall, _⟩
  exact Timed.elapsed_all_of_ok hall

/-- Definitions that can all be read are read in the time of the slowest one. -/
theorem read_of_readsIn (hnodup : (definitions.map (·.name)).Nodup) {times : List Duration}
    (h : List.Forall₂ (fun request => (source request.2).ReadsIn space request.1)
      definitions.zipIdx times) :
    exists aggregate, (read source space definitions).result = .ok aggregate ∧
      (read source space definitions).elapsed = Duration.longest times := by
  have hreads : forall position definition, definitions[position]? = some definition ->
      exists reading, (source position).Reads space definition reading := by
    intro position definition hplace
    have hmem : (definition, position) ∈ definitions.zipIdx :=
      List.mk_mem_zipIdx_iff_getElem?.mpr hplace
    rcases List.forall₂_iff_get.mp h with ⟨hlength, hget⟩
    rcases List.getElem_of_mem hmem with ⟨i, hi, hrequest⟩
    have hread := hget i hi (hlength ▸ hi)
    rw [List.get_eq_getElem, hrequest] at hread
    exact hread.exists_reads
  rcases exists_readings hreads with ⟨readings, hreadings⟩
  have hresult : (read source space definitions).result =
      .ok (empty.addAll (definitions.zip readings)) :=
    (result_read_eq_ok hnodup).mpr ⟨readings, hreadings, rfl⟩
  refine ⟨_, hresult, ?_⟩
  rw [elapsed_read_of_ok hnodup hresult]
  have htimes : (source.attempts space definitions).map (·.elapsed) = times := by
    rw [SecretSource.attempts, List.map_map, ← List.forall₂_eq_eq_eq,
      List.forall₂_map_left_iff]
    exact h.imp fun request time hreads => hreads.elapsed_readDefinition
  rw [htimes]

/-- The payloads of some definitions are determined by the source. -/
theorem Holds.merged_eq {merged other : Table Json}
    (h : Holds source space definitions merged) (hother : Holds source space definitions other) :
    merged = other := by
  have hshared : forall {first second : Table Json} {name : String} {value : Json},
      Holds source space definitions first -> Holds source space definitions second ->
      first.get? name = some value -> second.get? name = some value := by
    intro first second name value hfirst hsecond hvalue
    rcases hfirst.only name value hvalue with ⟨definition, hmem, rfl⟩
    rcases List.mem_iff_getElem?.mp hmem with ⟨position, hplace⟩
    rcases hfirst.payload position definition hplace with ⟨reading, hreading, hget⟩
    rcases hsecond.payload position definition hplace with ⟨again, hagain, hgetAgain⟩
    rw [hreading] at hagain
    cases hagain
    rw [hgetAgain, ← hget, hvalue]
  apply Table.eq_of_get?_eq
  intro name
  cases hvalue : merged.get? name with
  | some value => exact (hshared h hother hvalue).symm
  | none =>
      cases hsecond : other.get? name with
      | none => rfl
      | some value =>
          rw [hshared hother h hsecond] at hvalue
          cases hvalue

end Aggregate

namespace Output

variable {ε : Type u} {σ : Type v} {store : Store ε σ} {state : σ} {owner : Projection}
variable {document : Document} {desired : Cluster.Secret} {existing : Option Cluster.Secret}

/-!
## Times of a commit
-/

/-- The time that the write of a secret over the stored one takes, nothing if the stored one is up
to date. -/
def writeTime (store : Store ε σ) (state : σ) (desired : Cluster.Secret)
    (existing : Option Cluster.Secret) : Duration :=
  match plan desired existing with
  | none => .zero
  | some secret => (store.write state secret).elapsed

theorem elapsed_settle :
    (settle store state desired existing).elapsed = writeTime store state desired existing := by
  unfold settle writeTime
  cases plan desired existing with
  | none => rfl
  | some secret => rfl

theorem exists_result_settle
    (hwrite : forall secret, plan desired existing = some secret ->
      exists after, (store.write state secret).result = .ok after) :
    exists done, (settle store state desired existing).result = .ok done ∧
      done.written = (plan desired existing).isSome := by
  unfold settle
  cases hplan : plan desired existing with
  | none => exact ⟨_, rfl, rfl⟩
  | some secret =>
      rcases hwrite secret hplan with ⟨after, hafter⟩
      exact ⟨_, Timed.result_map_eq_ok.mpr ⟨after, hafter, rfl⟩, rfl⟩

end Output

namespace Sync

open Output

/-!
## Attempts that only time can end
-/

section Deadline

variable {ε : Type u} {σ : Type v} {φ : Type w} {τ : Type x}

/-- Nothing but time can end an attempt.  The spec can be followed, each definition is read in a
time of its own, what has been read can be rendered and built, and the store finds and writes
secrets. -/
structure Unhindered (source : SecretSource ε σ) (store : Store φ τ) (state : τ)
    (unit : Projection) (times : List Duration) (desired : Cluster.Secret)
    (existing : Option Cluster.Secret) : Prop where
  valid : Schedule.validate unit.spec = .ok ()
  names : (unit.spec.definitions.map (·.name)).Nodup
  reads : List.Forall₂
    (fun request => (source request.2).ReadsIn unit.metadata.namespaceText request.1)
    unit.spec.definitions.zipIdx times
  built : forall merged,
    Aggregate.Holds source unit.metadata.namespaceText unit.spec.definitions merged ->
    exists document, Document.render unit.spec.output merged = .ok document ∧
      build unit document = .ok desired
  found : (store.get state unit.metadata.namespaceText unit.spec.output.name).result =
    .ok existing
  writes : forall secret, plan desired existing = some secret ->
    exists after, (store.write state secret).result = .ok after

variable {source : SecretSource ε σ} {store : Store φ τ} {state : τ} {settings : Settings}
variable {unit : Projection} {times : List Duration} {desired : Cluster.Secret}
variable {existing : Option Cluster.Secret} {trigger : Trigger} {now : Instant}

/-- The time that an attempt without faults takes: the slowest read, the look-up and the write. -/
def workTime (store : Store φ τ) (state : τ) (unit : Projection) (times : List Duration)
    (desired : Cluster.Secret) (existing : Option Cluster.Secret) : Duration :=
  Duration.longest times +
    (store.get state unit.metadata.namespaceText unit.spec.output.name).elapsed +
    writeTime store state desired existing

theorem Unhindered.reads_eq (h : Unhindered source store state unit times desired existing) :
    exists aggregate, (Sync.reads source unit).result = .ok aggregate ∧
      (Sync.reads source unit).elapsed = Duration.longest times :=
  Aggregate.read_of_readsIn h.names h.reads

theorem Unhindered.commit_eq (h : Unhindered source store state unit times desired existing)
    {aggregate : Aggregate} (hread : (Sync.reads source unit).result = .ok aggregate) :
    exists document done,
      Document.render unit.spec.output aggregate.merged = .ok document ∧
      (Output.commit store state unit document).result = .ok done ∧
      done.written = (plan desired existing).isSome ∧
      (Output.commit store state unit document).elapsed =
        (store.get state unit.metadata.namespaceText unit.spec.output.name).elapsed +
          writeTime store state desired existing := by
  rcases h.built aggregate.merged (Aggregate.holds_of_read hread) with
    ⟨document, hrender, hbuild⟩
  have hname := Document.name_of_render hrender
  have hfound := h.found
  rw [← hname] at hfound ⊢
  rcases exists_result_settle h.writes with ⟨done, hdone, hwritten⟩
  refine ⟨document, done, hrender, ?_, hwritten, ?_⟩
  · rw [commit_of_built hbuild, Timed.result_bind_of_ok hfound, hdone]
  · rw [commit_of_built hbuild, Timed.elapsed_bind_of_ok hfound, elapsed_settle]

/-- The commit gets what the reads have left of the limit. -/
theorem le_remaining_iff {elapsed time : Duration} (h : elapsed ≤ settings.timeout) :
    time ≤ remaining settings elapsed <-> elapsed + time ≤ settings.timeout := by
  rw [Duration.le_iff] at h
  simp only [Duration.le_iff, remaining, Duration.nanoseconds_add]
  omega

theorem Unhindered.gather_eq (h : Unhindered source store state unit times desired existing)
    (htime : Duration.longest times ≤ settings.timeout) :
    (gather source settings unit).result = (Sync.reads source unit).result ∧
      (gather source settings unit).elapsed = Duration.longest times := by
  rcases h.reads_eq with ⟨aggregate, _, helapsed⟩
  rw [gather_of_valid h.valid, Timed.result_within_of_le (helapsed ▸ htime)]
  refine ⟨rfl, ?_⟩
  unfold Timed.within
  rw [if_pos (helapsed ▸ htime), helapsed]

theorem Unhindered.attempt_of_le (h : Unhindered source store state unit times desired existing)
    (hread : Duration.longest times ≤ settings.timeout)
    (hwork : workTime store state unit times desired existing ≤ settings.timeout) :
    exists leases, (attempt source store state settings unit).result =
      .ok (leases, (plan desired existing).isSome) := by
  rcases h.reads_eq with ⟨aggregate, haggregate, _⟩
  rcases h.commit_eq haggregate with ⟨document, done, hrender, hdone, hwritten, helapsed⟩
  rcases h.gather_eq hread with ⟨hgather, htime⟩
  have hcommit : (Sync.commit store state settings (gather source settings unit).elapsed unit
      document).result = .ok done := by
    apply Timed.result_within_eq_ok.mpr
    refine ⟨?_, hdone⟩
    rw [htime, le_remaining_iff hread, helapsed]
    unfold workTime at hwork
    simpa only [Duration.le_iff, Duration.nanoseconds_add, Nat.add_assoc] using hwork
  rw [attempt_of_committed (hgather.trans haggregate) hrender hcommit, hwritten]
  exact ⟨_, rfl⟩

/-- The exit that an attempt takes when it is late. -/
theorem Unhindered.exists_endsIn (h : Unhindered source store state unit times desired existing)
    (hlate : Duration.longest times ≤ settings.timeout ->
      ¬ workTime store state unit times desired existing ≤ settings.timeout) :
    exists stage, EndsIn source store state settings unit stage
      (lateFault settings.timeout
        (if Duration.longest times ≤ settings.timeout then "writing output Secret"
          else "reading Vault secrets")) := by
  rcases h.reads_eq with ⟨aggregate, haggregate, hreading⟩
  by_cases hread : Duration.longest times ≤ settings.timeout
  · rw [if_pos hread]
    rcases h.commit_eq haggregate with ⟨document, done, hrender, _, _, helapsed⟩
    rcases h.gather_eq hread with ⟨hgather, htime⟩
    refine ⟨.committing, .commitLate (hgather.trans haggregate) hrender ?_⟩
    rw [htime, le_remaining_iff hread, helapsed]
    have hwork := hlate hread
    unfold workTime at hwork
    simpa only [Duration.le_iff, Duration.nanoseconds_add, Nat.add_assoc] using hwork
  · rw [if_neg hread]
    exact ⟨.reading, .readLate h.valid (hreading ▸ hread)⟩

/-- When nothing fails by itself, a due reconciliation succeeds exactly if the slowest read is done
in time and the look-up and the write behind it are so as well.  It fails for lack of time
otherwise, and leaves the store as it was. -/
theorem synced_iff_in_time (h : Unhindered source store state unit times desired existing)
    (hdue : isDue unit trigger now = true) :
    ((exists written,
        (reconcile source store state settings unit trigger now).state = .synced written) <->
      Duration.longest times ≤ settings.timeout ∧
        Duration.longest times +
          (store.get state unit.metadata.namespaceText unit.spec.output.name).elapsed +
          writeTime store state desired existing ≤ settings.timeout) ∧
    ((reconcile source store state settings unit trigger now).state =
        .synced (plan desired existing).isSome ∨
      (reconcile source store state settings unit trigger now).state = .failed ⟨.deadline,
          "sync did not finish within " ++ settings.timeout.text ++ " while " ++
            if Duration.longest times ≤ settings.timeout then "writing output Secret"
            else "reading Vault secrets"⟩ ∧
        (reconcile source store state settings unit trigger now).store = state) := by
  have hreconcile : reconcile source store state settings unit trigger now =
      conclude settings unit now (attempt source store state settings unit) := by
    unfold reconcile
    rw [if_pos hdue]
  rw [hreconcile]
  by_cases hfits : Duration.longest times ≤ settings.timeout ∧
      workTime store state unit times desired existing ≤ settings.timeout
  · rcases h.attempt_of_le hfits.1 hfits.2 with ⟨leases, hresult⟩
    rw [conclude_of_ok hresult]
    exact ⟨⟨fun _ => hfits, fun _ => ⟨_, rfl⟩⟩, .inl rfl⟩
  · rcases h.exists_endsIn fun hread hwork => hfits ⟨hread, hwork⟩ with ⟨stage, hends⟩
    rcases attempt_of_endsIn hends with ⟨accesses, hattempt, _⟩
    rw [conclude_of_error (by rw [hattempt]), hattempt]
    refine ⟨⟨?_, fun hin => absurd hin hfits⟩, .inr ⟨rfl, rfl⟩⟩
    intro hsynced
    rcases hsynced with ⟨written, hwritten⟩
    cases hwritten

end Deadline

/-!
## A slow read and a slow store

The slower of two reads takes thirty milliseconds, the look-up five and the write seven.
-/

namespace Sample

def slowRead : Projection :=
  { projection "\x7b\x7b .db.password \x7d\x7d" none with
    spec := { (projection "\x7b\x7b .db.password \x7d\x7d" none).spec with
      definitions := [definition,
        ⟨"cache", ⟨some ⟨"kubernetes", "cache", "default"⟩, none, none⟩, "kv/cache"⟩] } }

/-- What is read under the first of the two paths. -/
def slowReading : Reading := ⟨.ofList [("password", .string "p")], "", 0, false⟩

/-- What is read where nothing is held. -/
def emptyReading : Reading := ⟨.empty, "", 0, false⟩

def slowScript : Script where
  identities := .ofList [
    ("k8s:kubernetes:app:default", ⟨.ofMilliseconds 10, none, emptyReading⟩),
    ("k8s:kubernetes:cache:default", ⟨.ofMilliseconds 25, none, emptyReading⟩)]
  paths := .ofList [("kv/db", ⟨.ofMilliseconds 20, none, slowReading⟩),
    ("kv/cache", ⟨.zero, none, emptyReading⟩)]

def slowStore : Memory :=
  { foreign with
    onGet := ⟨.ofMilliseconds 5, none⟩
    onWrite := ⟨.ofMilliseconds 7, none⟩ }

def slowTimes : List Duration := [.ofMilliseconds 30, .ofMilliseconds 25]

def slowMerged : Table Json :=
  .ofList [("db", slowReading.payload), ("cache", emptyReading.payload)]

def slowDocument : Document :=
  ⟨"app-creds", "Opaque", .empty, .empty, .ofList [("password", "p")]⟩

def slowDesired : Cluster.Secret where
  data := some (dataOf slowDocument)
  immutable := none
  metadata := { Cluster.Metadata.empty with
    name := some "app-creds", namespaceName := some "team-a"
    labels := some (labelsOf slowDocument), annotations := some (annotationsOf slowDocument)
    ownerReferences := some [
      { apiVersion := Projection.apiVersion, blockOwnerDeletion := none,
        controller := some true, kind := Projection.kind, name := "app", uid := "uid-1" }] }
  stringData := none
  type := some "Opaque"

def slowExisting : Option Cluster.Secret := slowStore.secrets.get? "team-a/app-creds"

theorem slow_unhindered :
    Unhindered slowScript.toSource Memory.toStore slowStore slowRead slowTimes slowDesired
      slowExisting where
  valid := ok_of_toOption (by decide +kernel)
  names := by decide
  reads := by
    refine .cons ⟨"k8s:kubernetes:app:default", slowReading, ?_, ?_, ?_⟩
      (.cons ⟨"k8s:kubernetes:cache:default", emptyReading, ?_, ?_, ?_⟩ .nil)
    · exact ok_of_toOption (by decide +kernel)
    · exact ok_of_toOption (by decide +kernel)
    · decide +kernel
    · exact ok_of_toOption (by decide +kernel)
    · exact ok_of_toOption (by decide +kernel)
    · decide +kernel
  built := by
    have hread : (Sync.reads slowScript.toSource slowRead).result.toOption =
        some ⟨slowMerged, [⟨"db", "", 0, false⟩, ⟨"cache", "", 0, false⟩]⟩ := by
      decide +kernel
    have hrender : (Document.render slowRead.spec.output slowMerged).toOption =
        some slowDocument := by decide +kernel
    intro merged hmerged
    have heq : merged = slowMerged :=
      hmerged.merged_eq (Aggregate.holds_of_read (ok_of_toOption hread))
    rw [heq]
    exact ⟨slowDocument, ok_of_toOption hrender, rfl⟩
  found := ok_of_toOption (by decide +kernel)
  writes := fun secret _ => ⟨_, rfl⟩

end Sample

/-- With forty-two milliseconds the write is just in time, with one less it is not. -/
theorem write_at_the_deadline :
    isDue Sample.slowRead .scheduled .epoch = true ∧
      (exists written, (reconcile Sample.slowScript.toSource Memory.toStore Sample.slowStore
        ⟨.ofMilliseconds 42, .ofSeconds 30⟩ Sample.slowRead .scheduled .epoch).state =
          .synced written) ∧
      ¬ exists written, (reconcile Sample.slowScript.toSource Memory.toStore Sample.slowStore
        ⟨.ofMilliseconds 41, .ofSeconds 30⟩ Sample.slowRead .scheduled .epoch).state =
          .synced written := by
  have hdue : isDue Sample.slowRead .scheduled .epoch = true := by decide +kernel
  refine ⟨hdue, ?_, ?_⟩
  · apply (synced_iff_in_time Sample.slow_unhindered hdue).1.mpr
    decide +kernel
  · intro hsynced
    have hfits := (synced_iff_in_time Sample.slow_unhindered hdue).1.mp hsynced
    revert hfits
    decide +kernel

end Sync

end SecretProjection
