import SecretProjection.Cluster.Server
import SecretProjection.Controller
import SecretProjection.Proofs.Attempt

/-!
# Snapshots of a projection

The handling of an event works on the projection as it is now, and of the snapshot that comes with
the event it uses the namespace and the name, and the name of the output.  Two snapshots of one
projection lead to the same handling when they name the same output.  When they do not, the live
projection is compared with two different secrets, and this is told from one comparison only: the
one for drift.  It counts when the latest attempt was one at the current generation and succeeded.
-/

namespace SecretProjection

universe u v w

namespace Cluster

/-- Look-ups leave the state of a cluster as it is. -/
def Api.LookUpsKeepState {σ : Type u} (api : Api σ) : Prop :=
  forall state request, request.method = .get -> (api.send state request).2 = state

theorem Server.lookUpsKeepState_api : Server.api.LookUpsKeepState := by
  intro server request hget
  show (server.send request).2 = server
  unfold Server.send
  cases hcanned : server.canned.get? (Server.cannedKey request) with
  | some response => rfl
  | none =>
      simp only [Server.handle, hget]
      cases server.objects.get? request.path with
      | none => rfl
      | some object => rfl

theorem Request.method_of? {method : Method} {target : String} {body : Option Json}
    {request : Request} (h : Request.of? method target body = some request) :
    request.method = method := by
  rcases Option.map_eq_some_iff.mp h with ⟨parts, _, rfl⟩
  rfl

theorem Call.state_get? {σ : Type u} {α : Type v} {api : Api σ} (hapi : api.LookUpsKeepState)
    (state : σ) (collection name : String) (format : Format α) :
    (Call.get? api state collection name format).state = state := by
  unfold Call.get? Call.sendNamed
  by_cases hname : name = ""
  · rw [if_pos hname]
    rfl
  · rw [if_neg hname]
    unfold Call.sendTo
    cases hrequest : Request.of? .get (collection ++ "/" ++ name ++ "") none with
    | none => rfl
    | some request => exact hapi state request (Request.method_of? hrequest)

section Answers

variable {α : Type v} {server : Server} {format : Format α} {object : α}
variable {method : Method} {path name rest target : String} {response : Response}

/-!
## Canned answers
-/

/-- A server has a canned answer for a method and a target without a query. -/
structure Server.Answers (server : Server) (method : Method) (target : String)
    (response : Response) : Prop where
  path : splitTarget? target.toList = some (target.toList, [])
  canned : server.canned.get? (method.text ++ " " ++ target) = some response

theorem Server.Answers.result_sendNamed
    (h : server.Answers method (path ++ "/" ++ name ++ rest) response) (hname : name ≠ "")
    (body : Option Json) :
    (Call.sendNamed Server.api server method path name rest body format).result =
      readResponse format response := by
  have hcanned := h.canned
  unfold Call.sendNamed Call.sendTo Request.of?
  rw [if_neg hname, h.path, Option.map_some, String.ofList_toList]
  simp only [Call.send, Server.api, Server.send, Server.cannedKey, hcanned]

theorem Format.parse_eq_ok {text : String}
    (h : (format.shape.parseChars text.toList).toOption.bind format.ofJson? = some object) :
    format.parse text = .ok object := by
  cases hvalue : format.shape.parseChars text.toList with
  | error fault =>
      rw [hvalue] at h
      cases h
  | ok value =>
      rw [hvalue] at h
      have hobject : format.ofJson? value = some object := h
      simp only [parse, Json.Shape.parse, hvalue, hobject]

theorem readResponse_of_parse (hstatus : isFailure response.status = false)
    (hparse : format.parse response.body = .ok object) :
    readResponse format response = .ok object := by
  unfold readResponse
  rw [hstatus, hparse]
  rfl

theorem Server.Answers.result_get?_of_parse
    (h : server.Answers .get (path ++ "/" ++ name ++ "") response) (hname : name ≠ "")
    (hstatus : isFailure response.status = false)
    (hparse : format.parse response.body = .ok object) :
    (Call.get? Server.api server path name format).result = .ok (some object) := by
  have hsend := (h.result_sendNamed hname none).trans (readResponse_of_parse hstatus hparse)
  simp only [Call.get?, hsend]

theorem Server.Answers.result_get?_of_missing
    (h : server.Answers .get (path ++ "/" ++ name ++ "") response) (hname : name ≠ "")
    (hstatus : isFailure response.status = true)
    (hreason : (ErrorStatus.ofResponse response).reason = Failure.missingReason) :
    (Call.get? Server.api server path name format).result = .ok none := by
  have hsend : (Call.sendNamed Server.api server .get path name "" none format).result =
      .error (.refused (.ofResponse response)) := by
    rw [h.result_sendNamed hname none]
    unfold readResponse
    rw [hstatus]
    rfl
  simp only [Call.get?, hsend, Failure.isMissing, hreason, beq_self_eq_true, if_true]

end Answers

end Cluster

namespace Controller

open Cluster Trigger

/-!
## Courses
-/

/-- What is done about a projection that is there. -/
inductive Course where
  | waiting (remaining : Duration)
  | notDue
  | syncing (trigger : Trigger)
  deriving DecidableEq

def Course.of (unit : Projection) (now : Instant) : Decision -> Course
  | .wait remaining => .waiting remaining
  | .sync trigger => if Sync.isDue unit trigger now then .syncing trigger else .notDue

/-- The course that is taken on a projection, given the output secret that was looked up. -/
def courseOf (settings : Sync.Settings) (unit : Projection) (existing : Option Secret)
    (now : Instant) : Course :=
  .of unit now (classify unit existing now settings.retryInterval)

/-- The decision behind a course.  Only the schedule ever finds that nothing is due. -/
def Course.decision : Course -> Decision
  | .waiting remaining => .wait remaining
  | .notDue => .sync .scheduled
  | .syncing trigger => .sync trigger

theorem Course.decision_of (unit : Projection) (now : Instant) (decision : Decision) :
    (Course.of unit now decision).decision = decision := by
  cases decision with
  | wait remaining => rfl
  | sync trigger =>
      cases trigger with
      | forced reason => rfl
      | scheduled =>
          by_cases hdue : Sync.isDue unit .scheduled now = true <;>
            simp [Course.of, Course.decision, hdue]

section Courses

variable {settings : Sync.Settings} {unit : Projection} {now : Instant}
variable {first second : Option Secret}

theorem decision_courseOf (existing : Option Secret) :
    (courseOf settings unit existing now).decision =
      classify unit existing now settings.retryInterval :=
  Course.decision_of unit now _

theorem courseOf_eq_iff :
    courseOf settings unit first now = courseOf settings unit second now <->
      classify unit first now settings.retryInterval =
        classify unit second now settings.retryInterval := by
  constructor
  · intro h
    rw [← decision_courseOf, ← decision_courseOf, h]
  · intro h
    unfold courseOf
    rw [h]

/-- The secret matters to a decision by its drift only, and only to a projection whose latest
attempt succeeded at the current generation. -/
theorem classify_eq_iff {retryInterval : Duration} :
    classify unit first now retryInterval = classify unit second now retryInterval <->
      (specChanged unit = false -> lastAttemptFailed unit = false ->
        outputDrifted unit first = outputDrifted unit second) := by
  unfold classify
  cases specChanged unit with
  | true => simp
  | false =>
      cases lastAttemptFailed unit with
      | true => simp
      | false =>
          cases outputDrifted unit first <;> cases outputDrifted unit second <;> simp

end Courses

section Handling

variable {ε : Type v} {τ : Type w} {σ : Type}
variable {api : Api σ} {source : σ -> SecretSource ε τ} {settings : Sync.Settings} {state : σ}
variable {unit live : Projection} {existing : Option Secret} {now : Instant}

/-!
## What the courses lead to
-/

/-- Takes a course on a projection. -/
def perform (api : Api σ) (source : σ -> SecretSource ε τ) (settings : Sync.Settings) (state : σ)
    (live : Projection) (now : Instant) : Course -> Handled ε σ
  | .waiting remaining => ⟨.ok (.after remaining), [], [], [], state⟩
  | .notDue => ⟨.ok (Sync.rearm live now), [], [], [], state⟩
  | .syncing _ =>
      finish api live (Sync.conclude settings live now
        (Sync.attempt (source state) (Output.clustered api) state settings live))

theorem settle_eq_perform :
    settle api source settings state live existing now =
      perform api source settings state live now (courseOf settings live existing now) := by
  unfold settle courseOf
  cases classify live existing now settings.retryInterval with
  | wait remaining => rfl
  | sync trigger =>
      by_cases hdue : Sync.isDue live trigger now = true
      · simp only [Course.of, Sync.reconcile, if_pos hdue, perform]
      · simp only [Course.of, Sync.reconcile, if_neg hdue, perform, finish]

/-!
## Handling events
-/

theorem state_lookUp (hapi : api.LookUpsKeepState) (space name : String) :
    (Output.lookUp api state space name).state = state :=
  Call.state_get? hapi state _ _ _

theorem state_fetchLive (hapi : api.LookUpsKeepState) :
    (fetchLive api state unit).state = state := by
  unfold fetchLive
  cases unitsPath unit with
  | error fault => rfl
  | ok path => exact Call.state_get? hapi state path unit.metadata.displayName unitFormat

theorem fetchLive_congr {first second : Projection}
    (hspace : first.metadata.namespaceName = second.metadata.namespaceName)
    (hname : first.metadata.displayName = second.metadata.displayName) :
    fetchLive api state first = fetchLive api state second := by
  have hpath : unitsPath first = unitsPath second := by
    unfold unitsPath
    rw [hspace]
  unfold fetchLive
  rw [hpath, hname]

/-- The handling of a projection that was fetched, if there is one. -/
def settleFetched (api : Api σ) (source : σ -> SecretSource ε τ) (settings : Sync.Settings)
    (state : σ) (existing : Option Secret) (now : Instant) : Option Projection -> Handled ε σ
  | none => ⟨.ok .awaitChange, [], [], [], state⟩
  | some live => settle api source settings state live existing now

/-- When the look-ups succeed, only the name of the output is taken from the snapshot. -/
theorem handle_eq (hapi : api.LookUpsKeepState)
    (hfound : (Output.lookUp api state unit.metadata.namespaceText unit.spec.output.name).result =
      .ok existing) {fetched : Option Projection}
    (hlive : (fetchLive api state unit).result = .ok fetched) :
    handle api source settings state unit now =
      (settleFetched api source settings state existing now fetched).behind
        ((Output.lookUp api state unit.metadata.namespaceText unit.spec.output.name).requests ++
          (fetchLive api state unit).requests) := by
  have hfetched : (fetchLive api state unit).state = state := state_fetchLive hapi
  have hlooked : (Output.lookUp api state unit.metadata.namespaceText
      unit.spec.output.name).state = state := state_lookUp hapi _ _
  unfold handle
  simp only [Projection.outputKey, Output.accessed, hfound, mapError_ok, hlooked, dispatch,
    hlive, hfetched]
  cases fetched with
  | none => simp [settleFetched, Handled.behind]
  | some live => simp [settleFetched, Handled.behind, List.append_assoc]

/-- Two snapshots of one projection, each with the output secret that is stored under the name
that it knows. -/
structure Snapshots (api : Api σ) (state : σ) (first second : Projection)
    (fetched : Option Projection) (firstSecret secondSecret : Option Secret) : Prop where
  space : first.metadata.namespaceName = second.metadata.namespaceName
  name : first.metadata.displayName = second.metadata.displayName
  fetched : (fetchLive api state first).result = .ok fetched
  firstSecret : (Output.lookUp api state first.metadata.namespaceText
    first.spec.output.name).result = .ok firstSecret
  secondSecret : (Output.lookUp api state second.metadata.namespaceText
    second.spec.output.name).result = .ok secondSecret

/-- Two handled events did the same, apart from the look-ups at the start. -/
structure SameWork (first second : Handled ε σ) : Prop where
  action : first.action = second.action
  reads : first.reads = second.reads
  writes : first.writes = second.writes
  state : first.state = second.state

theorem sameWork_behind (done : Handled ε σ) (first second : List Request) :
    SameWork (done.behind first) (done.behind second) := ⟨rfl, rfl, rfl, rfl⟩

/-- Two snapshots of one projection lead to the same course and the same work exactly if, as far
as drift counts for the live projection, the two secrets have drifted alike; and if they name the
same output, to the same handling altogether. -/
theorem snapshots_agree_iff {first second : Projection} {fetched : Option Projection}
    {firstSecret secondSecret : Option Secret} (hapi : api.LookUpsKeepState)
    (h : Snapshots api state first second fetched firstSecret secondSecret) :
    (((forall live, fetched = some live ->
          courseOf settings live firstSecret now = courseOf settings live secondSecret now) ∧
        SameWork (handle api source settings state first now)
          (handle api source settings state second now)) <->
      forall live, fetched = some live -> specChanged live = false ->
        lastAttemptFailed live = false ->
        outputDrifted live firstSecret = outputDrifted live secondSecret) ∧
    (first.spec.output.name = second.spec.output.name ->
      handle api source settings state first now =
        handle api source settings state second now) := by
  have hfetch : fetchLive api state first = fetchLive api state second :=
    fetchLive_congr h.space h.name
  have hspace : first.metadata.namespaceText = second.metadata.namespaceText := by
    unfold Metadata.namespaceText
    rw [h.space]
  have hfirst : handle api source settings state first now = _ :=
    handle_eq hapi h.firstSecret h.fetched
  have hsecond : handle api source settings state second now = _ :=
    handle_eq hapi h.secondSecret (hfetch ▸ h.fetched)
  refine ⟨⟨?_, ?_⟩, ?_⟩
  · rintro ⟨hcourse, _⟩ live hlive
    exact classify_eq_iff.mp (courseOf_eq_iff.mp (hcourse live hlive))
  · intro hdrift
    have hcourse : forall live, fetched = some live ->
        courseOf settings live firstSecret now = courseOf settings live secondSecret now := by
      intro live hlive
      exact courseOf_eq_iff.mpr (classify_eq_iff.mpr (hdrift live hlive))
    have hsettle : settleFetched api source settings state firstSecret now fetched =
        settleFetched api source settings state secondSecret now fetched := by
      cases fetched with
      | none => rfl
      | some live =>
          simp only [settleFetched, settle_eq_perform, hcourse live rfl]
    refine ⟨hcourse, ?_⟩
    rw [hfirst, hsecond, hsettle]
    exact sameWork_behind _ _ _
  · intro houtput
    have hsecret : firstSecret = secondSecret := by
      have hfound := h.firstSecret
      rw [hspace, houtput, h.secondSecret] at hfound
      injection hfound with heq
      exact heq.symm
    rw [hfirst, hsecond, hsecret, hspace, houtput, hfetch]

/-!
## Handling step by step
-/

theorem result_fetchLive {space : String} {fetched : Option Projection}
    (hspace : unit.metadata.namespaceName = some space)
    (h : (Call.get? api state (collection unitsRoot space Projection.plural)
      unit.metadata.displayName unitFormat).result = .ok fetched) :
    (fetchLive api state unit).result = .ok fetched := by
  simp only [fetchLive, unitsPath, hspace, Step.ofCall, h, mapError_ok]

theorem result_recordStatus {space : String} {status : Projection.Status} {updated : Projection}
    (hspace : unit.metadata.namespaceName = some space)
    (h : (Call.sendNamed api state .patch (collection unitsRoot space Projection.plural)
      unit.metadata.displayName "/status" (some (statusPatch status)) unitFormat).result =
        .ok updated) :
    (recordStatus api state unit status).result = .ok updated := by
  simp only [recordStatus, unitsPath, hspace, Step.ofCall, h, mapError_ok]

theorem Handled.action_behind (done : Handled ε σ) (lookups : List Request) :
    (done.behind lookups).action = done.action := rfl

theorem Handled.reads_behind (done : Handled ε σ) (lookups : List Request) :
    (done.behind lookups).reads = done.reads := rfl

theorem reads_finish (outcome : Sync.Outcome ε Request σ) :
    (finish api live outcome).reads = outcome.reads := by
  unfold finish
  cases outcome.status <;> rfl

theorem action_finish {outcome : Sync.Outcome ε Request σ} {status : Projection.Status}
    {updated : Projection} (hstatus : outcome.status = some status)
    (h : (recordStatus api outcome.store live status).result = .ok updated) :
    (finish api live outcome).action = .ok outcome.requeue := by
  simp only [finish, hstatus, h, Except.map]

end Handling

/-!
## A renamed output

The output of the sample projection is now called `new`.  It is stored as it was written, nothing
is planned, and Vault holds nothing any more.  A snapshot that still knows the output as `old`
finds no secret, so that the live projection is read from Vault again, and fails.
-/

namespace Sample

def unitText : String :=
  "\x7b\"metadata\":\x7b\"name\":\"u\",\"namespace\":\"a\"\x7d,\"spec\":\x7b" ++
    "\"vaultSecretDefinitions\":[\x7b\"name\":\"d\",\"authentication\":" ++
    "\x7b\"token\":\x7b\"secretRef\":\x7b\"name\":\"s\"\x7d\x7d\x7d,\"path\":\"p\"\x7d]," ++
    "\"output\":\x7b\"name\":\"new\"\x7d\x7d,\"status\":\x7b\"conditions\":" ++
    "[\x7b\"type\":\"ReconcileSuccessful\"\x7d]," ++
    "\"lastVaultSecretUpdate\":\"1970-01-01T00:00:00Z\"\x7d\x7d"

def secretText : String :=
  "\x7b\"metadata\":\x7b\"annotations\":\x7b\"vaultsecret.redhatcop.redhat.io/data-hash\":\"" ++
    "e3b0c44298fc1c149afbf4c8996fb92427ae41e4649b934ca495991b7852b855\"\x7d\x7d\x7d"

def missingText : String :=
  "\x7b\"status\":\"Failure\",\"code\":404,\"reason\":\"NotFound\"\x7d"

def unitPath : String := "/apis/redhatcop.redhat.io/v1alpha1/namespaces/a/vaultsecrets/u"

def server : Server where
  canned := .ofList [
    ("GET " ++ unitPath, ⟨200, unitText⟩),
    ("PATCH " ++ unitPath ++ "/status", ⟨200, unitText⟩),
    ("GET " ++ secretsPath "a" ++ "/new", ⟨200, secretText⟩),
    ("GET " ++ secretsPath "a" ++ "/old", ⟨404, missingText⟩)]
  objects := .empty
  versions := 0
  delay := .zero

/-- The projection as it is now. -/
def live : Projection where
  metadata := { Metadata.empty with name := some "u", namespaceName := some "a" }
  spec := {
    refreshPeriod := none, refreshThreshold := 90
    definitions := [⟨"d", ⟨none, some ⟨"s", "token"⟩, none⟩, "p"⟩]
    output := ⟨"new", "Opaque", .empty, .empty, .empty⟩ }
  status := some ⟨[⟨.epoch, "", none, "", "", successType⟩], some .epoch, none, []⟩

def secret : Secret where
  data := none
  immutable := none
  metadata := { Metadata.empty with
    annotations := some (.ofList [(Output.hashAnnotation,
      "e3b0c44298fc1c149afbf4c8996fb92427ae41e4649b934ca495991b7852b855")]) }
  stringData := none
  type := none

/-- A snapshot from before the output got its name. -/
def renamed : Projection :=
  { live with spec := { live.spec with output := { live.spec.output with name := "old" } } }

/-- A snapshot from before the first attempt. -/
def untried : Projection :=
  { live with
    metadata := { live.metadata with generation := some 1 }
    spec := { live.spec with definitions := [] }
    status := none }

def settings : Sync.Settings := ⟨.ofSeconds 30, .ofSeconds 30⟩

def source (_ : Server) : SecretSource String String := (⟨.empty, .empty⟩ : Script).toSource

def handled (snapshot : Projection) : Handled String Server :=
  handle Server.api source settings server snapshot .epoch

theorem parse_unitText : unitFormat.parse unitText = .ok live := by
  apply Format.parse_eq_ok
  -- It takes much longer to decode a long text than to decode its pieces one by one.
  unfold unitText
  simp only [String.toList_append]
  decide +kernel

theorem parse_secretText : Output.secretFormat.parse secretText = .ok secret := by
  apply Format.parse_eq_ok
  unfold secretText
  simp only [String.toList_append]
  decide +kernel

theorem reason_missingText :
    (ErrorStatus.ofResponse ⟨404, missingText⟩).reason = Failure.missingReason := by
  decide +kernel

theorem answers :
    server.Answers .get (collection unitsRoot "a" Projection.plural ++ "/" ++ "u" ++ "")
        ⟨200, unitText⟩ ∧
      server.Answers .patch (collection unitsRoot "a" Projection.plural ++ "/" ++ "u" ++ "/status")
        ⟨200, unitText⟩ ∧
      server.Answers .get (secretsPath "a" ++ "/" ++ "new" ++ "") ⟨200, secretText⟩ ∧
      server.Answers .get (secretsPath "a" ++ "/" ++ "old" ++ "") ⟨404, missingText⟩ := by
  refine ⟨⟨?_, ?_⟩, ⟨?_, ?_⟩, ⟨?_, ?_⟩, ⟨?_, ?_⟩⟩ <;> decide +kernel

theorem fetched_live {snapshot : Projection}
    (hspace : snapshot.metadata.namespaceName = some "a")
    (hname : snapshot.metadata.displayName = "u") :
    (fetchLive Server.api server snapshot).result = .ok (some live) := by
  apply result_fetchLive hspace
  rw [hname]
  exact answers.1.result_get?_of_parse (by decide) rfl parse_unitText

theorem found_new {snapshot : Projection}
    (hspace : snapshot.metadata.namespaceName = some "a")
    (houtput : snapshot.spec.output.name = "new") :
    (Output.lookUp Server.api server snapshot.metadata.namespaceText
      snapshot.spec.output.name).result = .ok (some secret) := by
  rw [Metadata.namespaceText, hspace, Option.getD_some, houtput]
  exact answers.2.2.1.result_get?_of_parse (by decide) rfl parse_secretText

theorem found_old {snapshot : Projection}
    (hspace : snapshot.metadata.namespaceName = some "a")
    (houtput : snapshot.spec.output.name = "old") :
    (Output.lookUp Server.api server snapshot.metadata.namespaceText
      snapshot.spec.output.name).result = .ok none := by
  rw [Metadata.namespaceText, hspace, Option.getD_some, houtput]
  exact answers.2.2.2.result_get?_of_missing (by decide) rfl reason_missingText

theorem recorded_live (status : Projection.Status) :
    (recordStatus Server.api server live status).result = .ok live := by
  have hname : live.metadata.displayName = "u" := rfl
  have hread : readResponse unitFormat ⟨200, unitText⟩ = .ok live :=
    readResponse_of_parse rfl parse_unitText
  apply result_recordStatus (show live.metadata.namespaceName = some "a" from rfl)
  rw [hname, ← hread]
  exact answers.2.1.result_sendNamed (by decide) _

theorem courses :
    courseOf settings live (some secret) .epoch = .notDue ∧
      courseOf settings live none .epoch = .syncing (.forced .outputDrift) := by
  decide +kernel

theorem events_gather : (Sync.gather (source server) settings live).events =
    ["auth token:s:token ns=a vaultns=-", "read p as token:s:token"] := by
  have hvalid : (Schedule.validate live.spec).toOption = some () := by decide +kernel
  have hdefinitions : live.spec.definitions =
      [⟨"d", ⟨none, some ⟨"s", "token"⟩, none⟩, "p"⟩] := rfl
  rw [Sync.gather_of_valid (ok_of_toOption hvalid)]
  -- The merge of traces does not compute, but there is only one trace.
  simp only [Sync.reads, Aggregate.read, SecretSource.attempts, hdefinitions, List.zipIdx_cons,
    List.zipIdx_nil, List.map_cons, List.map_nil, Timed.all, Timed.mergeTraces, List.merge_right]
  decide +kernel

theorem attempt_live :
    exists fault accesses,
      Sync.attempt (source server) (Output.clustered Server.api) server settings live =
        ⟨.error fault, ["auth token:s:token ns=a vaultns=-", "read p as token:s:token"],
          accesses, server⟩ := by
  have hstate : (Sync.reconcile (source server) (Output.clustered Server.api) server settings live
      (.forced .outputDrift) .epoch).state = .failed ⟨.notFound, "definition 'd': p"⟩ := by
    decide +kernel
  rcases Sync.reconcile_of_failed hstate with ⟨hresult, _⟩
  rcases Sync.result_attempt_eq_error.mp hresult with ⟨stage, hends⟩
  rcases Sync.attempt_of_endsIn hends with ⟨accesses, hattempt, _⟩
  rw [events_gather] at hattempt
  exact ⟨_, accesses, hattempt⟩

theorem handled_live : (handled live).action = .ok .awaitChange ∧ (handled live).reads = [] := by
  unfold handled
  rw [handle_eq Server.lookUpsKeepState_api (found_new rfl rfl)
    (fetched_live rfl rfl), settleFetched, settle_eq_perform, courses.1]
  exact ⟨rfl, rfl⟩

theorem handled_renamed :
    (handled renamed).action = .ok (.after (.ofSeconds 30)) ∧
      (handled renamed).reads =
        ["auth token:s:token ns=a vaultns=-", "read p as token:s:token"] := by
  rcases attempt_live with ⟨fault, accesses, hattempt⟩
  unfold handled
  rw [handle_eq Server.lookUpsKeepState_api (found_old rfl rfl) (fetched_live rfl rfl),
    settleFetched, settle_eq_perform, courses.2, perform, hattempt,
    Sync.conclude_of_error rfl]
  constructor
  · rw [Handled.action_behind]
    exact action_finish rfl (recorded_live _)
  · rw [Handled.reads_behind, reads_finish]

theorem snapshots_untried :
    Snapshots Server.api server live untried (some live) (some secret) (some secret) where
  space := rfl
  name := rfl
  fetched := fetched_live rfl rfl
  firstSecret := found_new rfl rfl
  secondSecret := found_new rfl rfl

theorem snapshots_renamed :
    Snapshots Server.api server live renamed (some live) (some secret) none where
  space := rfl
  name := rfl
  fetched := fetched_live rfl rfl
  firstSecret := found_new rfl rfl
  secondSecret := found_old rfl rfl

end Sample

theorem untried_snapshot_agrees :
    SameWork (Sample.handled Sample.live) (Sample.handled Sample.untried) :=
  ((snapshots_agree_iff Server.lookUpsKeepState_api Sample.snapshots_untried).1.mpr
    fun _ _ _ _ => rfl).2

/-- Every look-up and the recording succeed, and still the snapshot that knows the old name of the
output leads to a synchronisation that the live projection does not call for. -/
theorem renamed_output_forces_sync :
    Snapshots Server.api Sample.server Sample.live Sample.renamed (some Sample.live)
        (some Sample.secret) none ∧
      courseOf Sample.settings Sample.live (some Sample.secret) .epoch = .notDue ∧
      courseOf Sample.settings Sample.live none .epoch = .syncing (.forced .outputDrift) ∧
      (Sample.handled Sample.live).action = .ok .awaitChange ∧
      (Sample.handled Sample.live).reads = [] ∧
      (Sample.handled Sample.renamed).action = .ok (.after (.ofSeconds 30)) ∧
      (Sample.handled Sample.renamed).reads =
        ["auth token:s:token ns=a vaultns=-", "read p as token:s:token"] :=
  ⟨Sample.snapshots_renamed, Sample.courses.1, Sample.courses.2, Sample.handled_live.1,
    Sample.handled_live.2, Sample.handled_renamed.1, Sample.handled_renamed.2⟩

end Controller

end SecretProjection
