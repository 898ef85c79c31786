import SecretProjection.Proofs.DecodedFields
import SecretProjection.Proofs.Timed
import SecretProjection.Vault.Source

/-!
# Faults of Vault

A fault of Vault tells by its kind what went wrong.  A descriptor that does not name exactly one
mechanism is wrong itself.  Whatever else keeps a session from being granted, at the cluster or at
Vault, is a failed authentication, and a session that is granted has a token.  A read tells apart
a refused session, a path under which nothing is, and a server that could not help.
-/

namespace SecretProjection

universe u v

namespace Vault

open Cluster (coreRoot secretsPath)
open Json Projection

/-!
# Answers to logins
-/

theorem readLogin_eq_ok {status : Nat} {body token : String} :
    readLogin status body = .ok token <->
      isSuccess status = true ∧ token? body = some token ∧ token ≠ "" := by
  unfold readLogin
  by_cases hstatus : isSuccess status = true
  · rw [if_pos hstatus]
    cases htoken : token? body with
    | none => simp
    | some found =>
        by_cases hempty : found = ""
        · simp only [if_pos hempty, reduceCtorEq, Option.some.injEq, false_iff]
          rintro ⟨_, rfl, hne⟩
          exact hne hempty
        · simp only [if_neg hempty, Except.ok.injEq, Option.some.injEq]
          constructor
          · rintro rfl
            exact ⟨hstatus, rfl, hempty⟩
          · rintro ⟨_, rfl, _⟩
            rfl
  · simp [hstatus]

theorem kind_of_readLogin {status : Nat} {body : String} {fault : Fault}
    (h : readLogin status body = .error fault) : fault.kind = .authentication := by
  unfold readLogin at h
  split at h
  · split at h
    · cases h
      rfl
    · split at h
      · cases h
        rfl
      · cases h
  · cases h
    rfl

/-!
# Answers to reads
-/

/-- A decoded answer has an object as its data, or none. -/
theorem data_of_parse {body : String} {value : Json} (h : readShape.parse body = .ok value) :
    value.member? "data" = some .null ∨
      exists members, value.member? "data" = some (.object members) := by
  unfold readShape at h
  rcases Shape.field_of_parse (by decide) h List.mem_cons_self with ⟨found, hfound, hfill | hread⟩
  · cases hfill
    exact .inl hfound
  · rcases Shape.yields_nullable hread with rfl | hmap
    · exact .inl hfound
    · rcases Shape.yields_anyMap hmap with ⟨members, rfl⟩
      exact .inr ⟨members, hfound⟩

/-- The body of an answer can be decoded, with an object or with null as its data. -/
def Decodes (body : String) (data : Json) : Prop :=
  exists value, readShape.parse body = .ok value ∧ value.member? "data" = some data

def Succeeds (status : Nat) : Prop := 200 ≤ status ∧ status < 300

theorem isSuccess_iff {status : Nat} : isSuccess status = true <-> Succeeds status := by
  simp [isSuccess, Succeeds]

theorem Decodes.unique {body : String} {data other : Json} (h : Decodes body data)
    (hother : Decodes body other) : data = other := by
  rcases h with ⟨value, hparse, hdata⟩
  rcases hother with ⟨value', hparse', hdata'⟩
  cases hparse.symm.trans hparse'
  exact Option.some.inj (hdata.symm.trans hdata')

theorem Decodes.cases {body : String} {data : Json} (h : Decodes body data) :
    data = .null ∨ exists payload, data = .object payload := by
  rcases h with ⟨value, hparse, hdata⟩
  rcases data_of_parse hparse with hnull | ⟨payload, hpayload⟩
  · exact .inl (Option.some.inj (hdata.symm.trans hnull))
  · exact .inr ⟨payload, Option.some.inj (hdata.symm.trans hpayload)⟩

section Reads

variable {status : Nat} {body path : String}

theorem readSecret_of_object (path : String) {payload : List (String × Json)}
    (hstatus : Succeeds status) (h : Decodes body (.object payload)) :
    exists reading, readSecret status body path = .ok reading ∧
      reading.value = .ofList payload := by
  rcases h with ⟨value, hparse, hdata⟩
  unfold readSecret
  rw [if_pos (isSuccess_iff.mpr hstatus), hparse]
  simp only [reading?, hdata]
  exact ⟨_, rfl, rfl⟩

theorem readSecret_of_null (path : String) (hstatus : Succeeds status) (h : Decodes body .null) :
    readSecret status body path = .error ⟨.notFound, path ++ ": response has no data"⟩ := by
  rcases h with ⟨value, hparse, hdata⟩
  unfold readSecret
  rw [if_pos (isSuccess_iff.mpr hstatus), hparse]
  simp only [reading?, hdata]
  rfl

theorem readSecret_of_malformed (path : String) (hstatus : Succeeds status)
    (h : forall data, ¬ Decodes body data) :
    exists text, readSecret status body path = .error ⟨.unavailable, text⟩ := by
  unfold readSecret
  rw [if_pos (isSuccess_iff.mpr hstatus)]
  cases hparse : readShape.parse body with
  | error message => exact ⟨_, rfl⟩
  | ok value =>
      rcases data_of_parse hparse with hnull | ⟨payload, hpayload⟩
      · exact absurd ⟨value, hparse, hnull⟩ (h _)
      · exact absurd ⟨value, hparse, hpayload⟩ (h _)

theorem readSecret_of_failure (body path : String) (hstatus : ¬ Succeeds status) :
    readSecret status body path = .error (statusFault status body path) := by
  unfold readSecret
  rw [if_neg]
  rwa [isSuccess_iff]

theorem kind_statusFault :
    (statusFault status body path).kind =
      if status = 404 then .notFound
      else if status = 401 ∨ status = 403 then .authentication
      else .unavailable := by
  unfold statusFault
  split
  · rfl
  · dsimp only
    split <;> rfl

end Reads

/-- A result is a fault of a kind. -/
def FailsAs {α : Type v} (result : Except Fault α) (kind : FaultKind) : Prop :=
  exists fault, result = .error fault ∧ fault.kind = kind

@[simp] theorem failsAs_ok {α : Type v} (value : α) (kind : FaultKind) :
    ¬ FailsAs (.ok value) kind := by
  rintro ⟨_, ⟨⟩, _⟩

@[simp] theorem failsAs_error {α : Type v} (fault : Fault) (kind : FaultKind) :
    FailsAs (.error fault : Except Fault α) kind <-> fault.kind = kind := by
  simp [FailsAs]

/-- What the answer to a read means. -/
structure Classified (status : Nat) (body : String) (result : Except Fault Reading) : Prop where
  reading : (exists reading, result = .ok reading) <->
    Succeeds status ∧ exists payload, Decodes body (.object payload)
  notFound : FailsAs result .notFound <-> status = 404 ∨ (Succeeds status ∧ Decodes body .null)
  authentication : FailsAs result .authentication <-> status = 401 ∨ status = 403
  unavailable : FailsAs result .unavailable <->
    status ≠ 404 ∧ status ≠ 401 ∧ status ≠ 403 ∧
      (Succeeds status -> forall data, ¬ Decodes body data)
  kinds : forall kind, FailsAs result kind ->
    kind = .notFound ∨ kind = .authentication ∨ kind = .unavailable

theorem classified_of_success {status : Nat} (hstatus : Succeeds status) (body path : String) :
    Classified status body (readSecret status body path) := by
  have hother : status ≠ 404 ∧ status ≠ 401 ∧ status ≠ 403 := by
    unfold Succeeds at hstatus
    omega
  by_cases hdecodes : exists data, Decodes body data
  · rcases hdecodes with ⟨data, hdata⟩
    have hsome : ¬ forall data, ¬ Decodes body data := fun hnone => hnone data hdata
    rcases hdata.cases with rfl | ⟨payload, rfl⟩
    · have hobject (payload : List (String × Json)) : ¬ Decodes body (.object payload) := by
        intro hpayload
        cases hdata.unique hpayload
      rw [readSecret_of_null path hstatus hdata]
      constructor <;> simp [hstatus, hother, hdata, hobject, hsome]
    · have hnull : ¬ Decodes body .null := by
        intro hnull
        cases hdata.unique hnull
      rcases readSecret_of_object path hstatus hdata with ⟨reading, hread, _⟩
      have hobject : exists payload, Decodes body (.object payload) := ⟨payload, hdata⟩
      rw [hread]
      constructor <;> simp [hstatus, hother, hnull, hsome, hobject]
  · have hnone : forall data, ¬ Decodes body data := not_exists.mp hdecodes
    rcases readSecret_of_malformed path hstatus hnone with ⟨text, hread⟩
    rw [hread]
    constructor <;> simp [hstatus, hother, hnone]

theorem classified_of_failure {status : Nat} (hstatus : ¬ Succeeds status) (body path : String) :
    Classified status body (readSecret status body path) := by
  rw [readSecret_of_failure body path hstatus]
  by_cases hmissing : status = 404
  · constructor <;> simp [kind_statusFault, hmissing, Succeeds]
  · by_cases hrefused : status = 401 ∨ status = 403
    · rcases hrefused with rfl | rfl
      · constructor <;> simp [kind_statusFault, Succeeds]
      · constructor <;> simp [kind_statusFault, Succeeds]
    · have hkind : (statusFault status body path).kind = .unavailable := by
        rw [kind_statusFault, if_neg hmissing, if_neg hrefused]
      have hother : status ≠ 401 ∧ status ≠ 403 := not_or.mp hrefused
      constructor <;> simp [hkind, hmissing, hother, hstatus]

/-!
# Steps of an authentication
-/

namespace Access

section Steps

variable {σ : Type u} {α : Type v} {access : Access σ}

theorem result_contact_eq_ok {call : Cluster.Call σ α} {fault : Cluster.Failure -> Fault}
    {value : α} :
    (contact call fault).result = .ok value <-> call.result = .ok value := by
  unfold contact
  cases call.result <;> simp [Except.mapError]

theorem result_ask_eq_ok {request : Request} {fault : Failure -> Fault}
    {read : Answer -> Except Fault α} {value : α} :
    (access.ask request fault read).result = .ok value <->
      exists sent answer, request.prepare = .ok sent ∧
        (access.exchange sent).content = .ok answer ∧ read answer = .ok value := by
  unfold ask
  cases hprepare : request.prepare with
  | error failure => simp [Timed.fail]
  | ok sent =>
      simp only [Timed.event, Except.ok.injEq, exists_and_left, exists_eq_left']
      cases (access.exchange sent).content <;> simp

theorem tokenOf_eq_ok {space : String} {key : SecretKey} {secret : Cluster.Secret}
    {token : String} :
    tokenOf space key secret = .ok token <->
      exists bytes text, bytesOf? secret key.key = some bytes ∧
        Text.Utf8.decode bytes = .ok text ∧ token = Text.trimString text ∧ token ≠ "" := by
  unfold tokenOf
  cases bytesOf? secret key.key with
  | none => simp
  | some bytes =>
      simp only [Option.some.injEq, exists_and_left, exists_eq_left']
      cases Text.Utf8.decode bytes with
      | error _ => simp
      | ok text =>
          dsimp only
          by_cases hempty : Text.trimString text = ""
          · simp only [if_pos hempty, reduceCtorEq, Except.ok.injEq, exists_eq_left', false_iff]
            rintro ⟨rfl, hne⟩
            exact hne hempty
          · simp only [if_neg hempty, Except.ok.injEq, exists_eq_left']
            constructor
            · rintro rfl
              exact ⟨rfl, hempty⟩
            · rintro ⟨rfl, _⟩
              rfl

/-- Whatever goes wrong is a failed authentication. -/
def Refuses (attempt : Timed Contact α) : Prop :=
  forall fault, attempt.result = .error fault -> fault.kind = .authentication

theorem Refuses.bind {β : Type v} {first : Timed Contact α} {next : α -> Timed Contact β}
    (hfirst : Refuses first) (hnext : forall value, Refuses (next value)) :
    Refuses (first.bind next) := by
  intro fault hfault
  cases hresult : first.result with
  | error cause =>
      rw [Timed.result_bind_of_error hresult] at hfault
      cases hfault
      exact hfirst _ hresult
  | ok value =>
      rw [Timed.result_bind_of_ok hresult] at hfault
      exact hnext value fault hfault

theorem refuses_fail (text : String) : Refuses (.fail (refusal text) : Timed Contact α) := by
  rintro fault ⟨⟩
  rfl

theorem refuses_contact {call : Cluster.Call σ α} {text : Cluster.Failure -> String} :
    Refuses (contact call fun failure => refusal (text failure)) := by
  intro fault hfault
  unfold contact at hfault
  cases hcall : call.result with
  | error failure =>
      rw [hcall] at hfault
      cases hfault
      rfl
  | ok value =>
      rw [hcall] at hfault
      cases hfault

theorem refuses_tokenOf {space : String} {key : SecretKey} {secret : Cluster.Secret} :
    Refuses (.ofExcept (tokenOf space key secret)) := by
  intro fault hfault
  replace hfault : tokenOf space key secret = .error fault := hfault
  unfold tokenOf at hfault
  dsimp only at hfault
  split at hfault
  · cases hfault
    rfl
  · split at hfault
    · cases hfault
      rfl
    · split at hfault
      · cases hfault
        rfl
      · cases hfault

theorem refuses_requestToken {space account : String} :
    Refuses (access.requestToken space account) := by
  refine refuses_contact.bind fun token => ?_
  split
  · exact refuses_fail _
  · rintro fault ⟨⟩

theorem refuses_storedToken {space : String} {key : SecretKey} :
    Refuses (access.storedToken space key) := by
  refine refuses_contact.bind fun secret => ?_
  cases secret with
  | none => exact refuses_fail _
  | some secret => exact refuses_tokenOf

theorem refuses_ask {request : Request} {fault : Failure -> Fault}
    {read : Answer -> Except Fault α}
    (hfault : forall failure, (fault failure).kind = .authentication)
    (hread : forall answer cause, read answer = .error cause -> cause.kind = .authentication) :
    Refuses (access.ask request fault read) := by
  intro cause hcause
  unfold ask at hcause
  split at hcause
  · cases hcause
    exact hfault _
  · simp only [Timed.event] at hcause
    split at hcause
    · cases hcause
      exact hfault _
    · exact hread _ cause hcause

theorem refuses_login {login : ServiceLogin} {vaultNamespace : Option String} {token : String} :
    Refuses (access.login login vaultNamespace token) := by
  unfold Access.login
  split
  · exact refuses_fail _
  · exact refuses_ask (fun _ => rfl) fun _ _ => kind_of_readLogin

end Steps

/-!
# Tokens of sessions
-/

section Sessions

variable {σ : Type u} {access : Access σ}

/-- The answer of the cluster to a request for a token of a service account. -/
def accountToken (access : Access σ) (space account : String) : Except Cluster.Failure String :=
  (Cluster.Call.sendNamed access.cluster access.state .post
    (Cluster.collection coreRoot space "serviceaccounts") account "/token" (some tokenRequest)
    tokenFormat).result

/-- What the cluster knows of the secret that a token is kept in. -/
def tokenSecret (access : Access σ) (space : String) (key : SecretKey) :
    Except Cluster.Failure (Option Cluster.Secret) :=
  (Cluster.Call.get? access.cluster access.state (secretsPath space) key.name secretFormat).result

/-- The ways to come by a token, for a mechanism.  Neither the token of a service account nor that
of a session is empty. -/
inductive Obtains (access : Access σ) (space : String) (vaultNamespace : Option String) :
    Mechanism -> String -> Prop where
  | login {login : ServiceLogin} {jwt token : String} {address : Url} {sent : Request}
      {answer : Answer} (hjwt : access.accountToken space login.serviceAccount = .ok jwt)
      (jwt_ne_empty : jwt ≠ "")
      (haddress : endpoint access.address (loginPath login.path) = .ok address)
      (hsent : (⟨.post, address, none, vaultNamespace,
        some (.ofMembers [("role", .string login.role), ("jwt", .string jwt)])⟩ :
          Request).prepare = .ok sent)
      (hanswer : (access.exchange sent).content = .ok answer)
      (hstatus : isSuccess answer.status = true) (htoken : token? answer.body = some token)
      (token_ne_empty : token ≠ "") : Obtains access space vaultNamespace (.service login) token
  | stored {key : SecretKey} {secret : Cluster.Secret} {bytes : Bytes} {text : String}
      (hsecret : access.tokenSecret space key = .ok (some secret))
      (hbytes : bytesOf? secret key.key = some bytes) (htext : Text.Utf8.decode bytes = .ok text)
      (token_ne_empty : Text.trimString text ≠ "") :
      Obtains access space vaultNamespace (.token key) (Text.trimString text)

variable {space : String} {vaultNamespace : Option String} {mechanism : Mechanism}
variable {token : String}

theorem Obtains.ne_empty (h : access.Obtains space vaultNamespace mechanism token) :
    token ≠ "" := by
  cases h with
  | login _ _ _ _ _ _ _ hne => exact hne
  | stored _ _ _ hne => exact hne

theorem result_requestToken_eq_ok {account : String} :
    (access.requestToken space account).result = .ok token <->
      access.accountToken space account = .ok token ∧ token ≠ "" := by
  unfold requestToken accountToken
  simp only [Timed.result_bind_eq_ok, result_contact_eq_ok]
  generalize (Cluster.Call.sendNamed access.cluster access.state _ _ _ _ _ _).result = answer
  constructor
  · rintro ⟨found, hfound, htoken⟩
    by_cases hempty : found = ""
    · rw [if_pos hempty] at htoken
      cases htoken
    · rw [if_neg hempty] at htoken
      cases htoken
      exact ⟨hfound, hempty⟩
  · rintro ⟨hfound, hne⟩
    exact ⟨token, hfound, by rw [if_neg hne]; rfl⟩

theorem result_storedToken_eq_ok {key : SecretKey} :
    (access.storedToken space key).result = .ok token <->
      exists secret, access.tokenSecret space key = .ok (some secret) ∧
        tokenOf space key secret = .ok token := by
  unfold storedToken tokenSecret
  simp only [Timed.result_bind_eq_ok, result_contact_eq_ok]
  generalize (Cluster.Call.get? access.cluster access.state _ _ _).result = answer
  constructor
  · rintro ⟨secret, hsecret, htoken⟩
    cases secret with
    | none => cases htoken
    | some secret => exact ⟨secret, hsecret, htoken⟩
  · rintro ⟨secret, hsecret, htoken⟩
    exact ⟨some secret, hsecret, htoken⟩

theorem result_login_eq_ok {login : ServiceLogin} {jwt : String} :
    (access.login login vaultNamespace jwt).result = .ok token <->
      exists address sent answer,
        endpoint access.address (loginPath login.path) = .ok address ∧
        (⟨.post, address, none, vaultNamespace,
          some (.ofMembers [("role", .string login.role), ("jwt", .string jwt)])⟩ :
            Request).prepare = .ok sent ∧
        (access.exchange sent).content = .ok answer ∧
        readLogin answer.status answer.body = .ok token := by
  unfold Access.login
  cases endpoint access.address (loginPath login.path) with
  | error fault => simp [Timed.fail]
  | ok address => simp only [result_ask_eq_ok, Except.ok.injEq, exists_and_left, exists_eq_left']

/-- A token is granted exactly if one can be come by. -/
theorem result_tokenFor_eq_ok :
    (access.tokenFor vaultNamespace space mechanism).result = .ok token <->
      access.Obtains space vaultNamespace mechanism token := by
  cases mechanism with
  | service login =>
      simp only [tokenFor, Timed.result_bind_eq_ok, result_requestToken_eq_ok, result_login_eq_ok,
        readLogin_eq_ok]
      constructor
      · rintro ⟨jwt, ⟨hjwt, hne⟩, address, sent, answer, haddress, hsent, hanswer, hstatus, htoken,
          htokenNe⟩
        exact .login hjwt hne haddress hsent hanswer hstatus htoken htokenNe
      · intro h
        cases h with
        | login hjwt hne haddress hsent hanswer hstatus htoken htokenNe =>
            exact ⟨_, ⟨hjwt, hne⟩, _, _, _, haddress, hsent, hanswer, hstatus, htoken, htokenNe⟩
  | token key =>
      simp only [tokenFor, result_storedToken_eq_ok, tokenOf_eq_ok]
      constructor
      · rintro ⟨secret, hsecret, bytes, text, hbytes, htext, rfl, hne⟩
        exact .stored hsecret hbytes htext hne
      · intro h
        cases h with
        | stored hsecret hbytes htext hne => exact ⟨_, hsecret, _, _, hbytes, htext, rfl, hne⟩

theorem refuses_tokenFor : Refuses (access.tokenFor vaultNamespace space mechanism) := by
  cases mechanism with
  | service login => exact refuses_requestToken.bind fun _ => refuses_login
  | token key => exact refuses_storedToken

/-!
# Authentication
-/

variable {auth : Authentication}

/-- A descriptor names one mechanism, or is refused for naming none or two. -/
theorem mechanism_cases (auth : Authentication) :
    (auth.service.isSome = auth.token.isSome ∧
      exists fault, auth.mechanism = .error fault) ∨
    (auth.service.isSome ≠ auth.token.isSome ∧
      exists mechanism, auth.mechanism = .ok mechanism) := by
  unfold Authentication.mechanism
  cases auth.service <;> cases auth.token <;> simp

theorem result_authenticate_of_error (access : Access σ) (space : String) {fault : SpecFault}
    (h : auth.mechanism = .error fault) :
    (access.authenticate auth space).result = .error fault.toFault := by
  unfold authenticate
  rw [h]
  rfl

theorem result_authenticate_of_ok (access : Access σ) (space : String)
    (h : auth.mechanism = .ok mechanism) :
    (access.authenticate auth space).result =
      (access.tokenFor auth.vaultNamespace space mechanism).result.map fun token =>
        ⟨token, auth.vaultNamespace⟩ := by
  unfold authenticate
  rw [h]
  rfl

/-- The kinds of faults tell what went wrong.  An authentication fails as a wrong spec exactly if
its descriptor does not name one mechanism, and as a failed authentication otherwise; it succeeds
exactly if a token can be come by, which is never empty.  The answer to a read is a secret, a
missing one, a refused session or an unavailable source by its status and its body. -/
theorem faults_tell_what_went_wrong (access : Access σ) (auth : Authentication) (space : String)
    (status : Nat) (body path : String) :
    (FailsAs (access.authenticate auth space).result .invalidSpec <->
      auth.service.isSome = auth.token.isSome) ∧
    (auth.service.isSome ≠ auth.token.isSome ->
      forall kind, FailsAs (access.authenticate auth space).result kind ->
        kind = .authentication) ∧
    (forall session, (access.authenticate auth space).result = .ok session <->
      exists mechanism, auth.mechanism = .ok mechanism ∧
        access.Obtains space auth.vaultNamespace mechanism session.token ∧
        session.vaultNamespace = auth.vaultNamespace) ∧
    (forall session, (access.authenticate auth space).result = .ok session ->
      session.token ≠ "") ∧
    Classified status body (readSecret status body path) := by
  have hread : Classified status body (readSecret status body path) := by
    by_cases hstatus : Succeeds status
    · exact classified_of_success hstatus body path
    · exact classified_of_failure hstatus body path
  rcases mechanism_cases auth with ⟨hwrong, fault, hmechanism⟩ | ⟨hone, mechanism, hmechanism⟩
  · have hresult := result_authenticate_of_error access space hmechanism
    rw [hresult, hmechanism]
    refine ⟨⟨fun _ => hwrong, fun _ => ⟨_, rfl, rfl⟩⟩, fun hone => absurd hwrong hone, ?_, ?_,
      hread⟩
    · intro session
      simp
    · intro session hsession
      cases hsession
  · have hresult := result_authenticate_of_ok access space hmechanism
    have hkind : forall kind, FailsAs (access.authenticate auth space).result kind ->
        kind = .authentication := by
      rintro kind ⟨fault, hfault, rfl⟩
      rw [hresult] at hfault
      cases htoken : (access.tokenFor auth.vaultNamespace space mechanism).result with
      | error cause =>
          rw [htoken] at hfault
          cases hfault
          exact refuses_tokenFor _ htoken
      | ok token =>
          rw [htoken] at hfault
          cases hfault
    have hok : forall session, (access.authenticate auth space).result = .ok session <->
        exists found, auth.mechanism = .ok found ∧
          access.Obtains space auth.vaultNamespace found session.token ∧
          session.vaultNamespace = auth.vaultNamespace := by
      intro session
      rw [hresult, hmechanism]
      simp only [Except.ok.injEq, exists_eq_left', ← result_tokenFor_eq_ok]
      cases (access.tokenFor auth.vaultNamespace space mechanism).result with
      | error cause => simp [Except.map]
      | ok token =>
          rcases session with ⟨granted, vaultNamespace⟩
          simp [Except.map, eq_comm]
    refine ⟨⟨fun hspec => ?_, fun hwrong => absurd hwrong hone⟩, fun _ => hkind, hok, ?_, hread⟩
    · cases hkind _ hspec
    · intro session hsession
      rcases (hok session).mp hsession with ⟨_, _, hobtains, _⟩
      exact hobtains.ne_empty

end Sessions

/-!
A cluster that knows one secret, with a token between blanks or with blanks only, and a Vault that
cannot be reached.
-/

namespace Sample

def keeping (token : String) : Access Unit where
  address :=
    { scheme := "https".toList
      authority := some ⟨[], none, "vault.test".toList, none⟩
      path := .segments [[]]
      query := none
      fragment := none }
  cluster := ⟨fun state _ => (⟨.zero, .ok ⟨200,
    "\x7b\"data\":\x7b\"token\":\"" ++ token ++ "\"\x7d\x7d"⟩⟩, state)⟩
  state := ()
  exchange request := ⟨.zero, .error (.unreachable request.address)⟩

def stored : Authentication := ⟨none, some ⟨"vault", "token"⟩, none⟩

def emptyBody : String := "\x7b\"data\":null\x7d"

end Sample

theorem blank_token_is_refused :
    ((Sample.keeping "IHMuMQo=").authenticate Sample.stored "team-a").result =
        .ok ⟨"s.1", none⟩ ∧
      FailsAs ((Sample.keeping "IAo=").authenticate Sample.stored "team-a").result
        .authentication ∧
      FailsAs (readSecret 200 Sample.emptyBody "kv/db") .notFound := by
  have hgranted : ((Sample.keeping "IHMuMQo=").authenticate Sample.stored "team-a").result =
      .ok ⟨"s.1", none⟩ := by
    decide +kernel
  rcases faults_tell_what_went_wrong (Sample.keeping "IAo=") Sample.stored "team-a" 200
    Sample.emptyBody "kv/db" with ⟨_, hkind, _, _, hread⟩
  refine ⟨hgranted, ?_, hread.notFound.mpr (.inr ⟨⟨by decide, by decide⟩, ?_⟩)⟩
  · have hrefused : ((Sample.keeping "IAo=").authenticate Sample.stored
        "team-a").result.toOption = none := by decide +kernel
    cases hresult : ((Sample.keeping "IAo=").authenticate Sample.stored "team-a").result with
    | ok session =>
        rw [hresult] at hrefused
        cases hrefused
    | error fault =>
        have hfails : FailsAs (Except.error fault : Except Fault Session) fault.kind :=
          ⟨fault, rfl, rfl⟩
        rw [← hresult] at hfails
        rw [← hkind (by decide) _ hfails, ← hresult]
        exact hfails
  · refine ⟨.ofMembers [("data", .null), ("lease_id", .string ""), ("lease_duration", .ofNat 0),
      ("renewable", .bool false)], ?_, rfl⟩
    decide +kernel

end Access

end Vault

end SecretProjection
