import SecretProjection.Cluster.Client
import SecretProjection.Cluster.Shape
import SecretProjection.Source.Basic
import SecretProjection.Text.Blank
import SecretProjection.Vault.Endpoint
import SecretProjection.Vault.Exchange
import SecretProjection.Vault.Response

/-!
# Vault as a secret source

A session of Vault is a token.  It is the answer to a login with a short-lived token of a service
account, or it is kept in a secret of the cluster.  Whatever keeps a session from being granted is
a failed authentication, a wrong descriptor apart.
-/

namespace SecretProjection

universe u v

namespace Vault

open Cluster (Api Call Format coreRoot secretsPath)
open Projection

/-! ## Surroundings -/

inductive Contact where
  | cluster (request : Cluster.Request)
  | vault (request : Request)
  deriving DecidableEq

/-- What a source works with: the address of Vault, the cluster with its state, and the way in
which requests to Vault are answered. -/
structure Access (σ : Type u) where
  address : Url
  cluster : Api σ
  state : σ
  exchange : Request -> Reply

structure Session where
  token : String
  vaultNamespace : Option String
  deriving DecidableEq, Repr

/-- A session in words; the token stays hidden. -/
def Session.describe (session : Session) : String :=
  let space := match session.vaultNamespace with
    | none => "None"
    | some space => "Some(" ++ Text.quoted space ++ ")"
  "VaultSession \x7b token: \"<redacted>\", namespace: " ++ space ++ " \x7d"

def refusal (text : String) : Fault := ⟨.authentication, text⟩

namespace Access

variable {σ : Type u}

def contact {α : Type v} (call : Call σ α) (fault : Cluster.Failure -> Fault) :
    Timed Contact α :=
  ⟨call.requests.map fun request => (.zero, .cluster request), call.elapsed,
    call.result.mapError fault⟩

/-! ## Tokens of service accounts -/

/-- How many seconds a token of a service account lasts. -/
def tokenSeconds : Nat := 600

def tokenVersion : String := "authentication.k8s.io/v1"

def tokenKind : String := "TokenRequest"

def tokenRequest : Json :=
  .ofMembers [("apiVersion", .string tokenVersion), ("kind", .string tokenKind),
    ("metadata", .object []),
    ("spec", .ofMembers [("audiences", .array []), ("expirationSeconds", .ofNat tokenSeconds)])]

/-- How the answer to such a request is read: only its token counts, empty when there is none. -/
def tokenFormat : Format String where
  shape :=
    Cluster.objectShape tokenVersion tokenKind [
      ("spec", Cluster.record "TokenRequestSpec" [("audiences", .list .string),
        ("boundObjectRef", Cluster.record "BoundObjectReference" [("apiVersion", .string),
          ("kind", .string), ("name", .string), ("uid", .string)]),
        ("expirationSeconds", .signed)]),
      ("status", Cluster.record "TokenRequestStatus" [
        ("expirationTimestamp", Cluster.instantShape), ("token", .string)])]
  ofJson? value :=
    some ((value.member? "status" >>= Json.member? "token" >>= Json.string?).getD "")

def requestToken (access : Access σ) (space account : String) : Timed Contact String :=
  let subject := "token request for service account " ++ space ++ "/" ++ account
  let call : Call σ String :=
    .sendNamed access.cluster access.state .post
      (Cluster.collection coreRoot space "serviceaccounts") account "/token" (some tokenRequest)
      tokenFormat
  (contact call fun failure => refusal (subject ++ " failed: " ++ failure.message)).bind
    fun token =>
      if token = "" then .fail (refusal (subject ++ " returned no token")) else .pure token

/-! ## Stored tokens -/

def secretFormat : Format Cluster.Secret := ⟨Cluster.secretShape, Cluster.Secret.ofJson?⟩

/-- The bytes under a key of a secret; text that is still to be merged comes second. -/
def bytesOf? (secret : Cluster.Secret) (key : String) : Option Bytes :=
  (secret.data.bind (·.get? key)).or
    ((secret.stringData.bind (·.get? key)).map Text.Utf8.encode)

def tokenOf (space : String) (key : SecretKey) (secret : Cluster.Secret) :
    Except Fault String :=
  let subject := "token secret " ++ space ++ "/" ++ key.name
  match bytesOf? secret key.key with
  | none => .error (refusal (subject ++ " has no key '" ++ key.key ++ "'"))
  | some bytes =>
      match Text.Utf8.decode bytes with
      | .error _ => .error (refusal "token is not valid UTF-8")
      | .ok text =>
          let token := Text.trimString text
          if token = "" then .error (refusal (subject ++ " key '" ++ key.key ++ "' is empty"))
          else .ok token

def storedToken (access : Access σ) (space : String) (key : SecretKey) : Timed Contact String :=
  let subject := "token secret " ++ space ++ "/" ++ key.name
  let call : Call σ (Option Cluster.Secret) :=
    .get? access.cluster access.state (secretsPath space) key.name secretFormat
  (contact call fun failure =>
      refusal ("failed to read " ++ subject ++ ": " ++ failure.message)).bind fun secret =>
    match secret with
    | none => .fail (refusal (subject ++ " not found"))
    | some secret => .ofExcept (tokenOf space key secret)

/-! ## Vault itself -/

/-- Sends a request to Vault, if it can be sent, and reads the answer. -/
def ask {α : Type v} (access : Access σ) (request : Request) (fault : Failure -> Fault)
    (read : Answer -> Except Fault α) : Timed Contact α :=
  match request.prepare with
  | .error failure => .fail (fault failure)
  | .ok request =>
      let reply := access.exchange request
      .event (.vault request) reply.delay
        (match reply.content with
        | .error failure => .error (fault failure)
        | .ok answer => read answer)

/-- The fault of a login without an answer. -/
def loginFault (failure : Failure) : Fault :=
  refusal ((if failure = .cutOff then "failed to read login response: "
    else "login request failed: ") ++ failure.message)

/-- Logs in with the token of a service account. -/
def login (access : Access σ) (login : ServiceLogin) (vaultNamespace : Option String)
    (token : String) : Timed Contact String :=
  match endpoint access.address (loginPath login.path) with
  | .error fault => .fail (refusal fault.toFault.message)
  | .ok address =>
      let body := Json.ofMembers [("role", .string login.role), ("jwt", .string token)]
      access.ask ⟨.post, address, none, vaultNamespace, some body⟩ loginFault fun answer =>
        readLogin answer.status answer.body

/-- The fault of a read without an answer. -/
def readFault (path : String) (failure : Failure) : Fault :=
  ⟨.unavailable, path ++ ": " ++ failure.message⟩

def read (access : Access σ) (session : Session) (path : String) : Timed Contact Reading :=
  match endpoint access.address path with
  | .error fault => .fail fault.toFault
  | .ok address =>
      access.ask ⟨.get, address, some session.token, session.vaultNamespace, none⟩
        (readFault path) fun answer => readSecret answer.status answer.body path

/-! ## Sessions -/

def tokenFor (access : Access σ) (vaultNamespace : Option String) (space : String) :
    Mechanism -> Timed Contact String
  | .service login =>
      (access.requestToken space login.serviceAccount).bind (access.login login vaultNamespace)
  | .token key => access.storedToken space key

def authenticate (access : Access σ) (auth : Authentication) (space : String) :
    Timed Contact Session :=
  match auth.mechanism with
  | .error fault => .fail fault.toFault
  | .ok mechanism =>
      (access.tokenFor auth.vaultNamespace space mechanism).map fun token =>
        ⟨token, auth.vaultNamespace⟩

def reader (access : Access σ) : SecretReader Contact Session :=
  ⟨access.authenticate, access.read⟩

def toSource (access : Access σ) : SecretSource Contact Session := fun _ => access.reader

end Access

end Vault

end SecretProjection
