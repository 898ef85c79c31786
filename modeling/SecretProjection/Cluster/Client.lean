import SecretProjection.Cluster.Exchange
import SecretProjection.Cluster.StatusCode
import SecretProjection.Json.Shape

/-!
# Calls to the cluster

A call builds a request, sends it, and reads the object that the cluster answers with.  An answer
that tells of a failure carries a record of it; one without such a record is put into a record of
its own.  An object counts as missing when the record gives the reason for it, whatever the status
code.
-/

namespace SecretProjection

universe u v w

namespace Cluster

open Json (Shape)

/-! ## Failures -/

structure ErrorStatus where
  status : String
  message : String
  reason : String
  code : Nat
  deriving DecidableEq, Repr

/-- The wording of a record: its message and reason, and then all of it. -/
def ErrorStatus.text (e : ErrorStatus) : String :=
  e.message ++ ": " ++ e.reason ++ " (ErrorResponse \x7b status: " ++ Text.quoted e.status ++
    ", message: " ++ Text.quoted e.message ++ ", reason: " ++ Text.quoted e.reason ++
    ", code: " ++ toString e.code ++ " \x7d)"

inductive Failure where
  | emptyName
  | badCharacter
  | lost (text : String)
  | refused (status : ErrorStatus)
  | unreadable (text : String)
  deriving DecidableEq, Repr

namespace Failure

def message : Failure -> String
  | .emptyName =>
      "Failed to build request: failed to validate request: A non-empty name is required"
  | .badCharacter =>
      "Failed to build request: failed to build request: invalid uri character"
  | .lost text => text
  | .refused status => "ApiError: " ++ status.text
  | .unreadable text => "Error deserializing response: " ++ text

/-- The reason that a record gives for a missing object. -/
def missingReason : String := "NotFound"

def isMissing : Failure -> Bool
  | .refused status => status.reason == missingReason
  | _ => false

end Failure

def errorShape : Shape :=
  .strict "struct ErrorResponse" [("status", .required, .string),
    ("message", .default (.string ""), .string), ("reason", .default (.string ""), .string),
    ("code", .required, .unsigned 16)]

def ErrorStatus.ofJson? (value : Json) : Option ErrorStatus := do
  let status <- value.member? "status" >>= Json.string?
  let message <- value.member? "message" >>= Json.string?
  let reason <- value.member? "reason" >>= Json.string?
  let code <- value.member? "code" >>= Json.natural? (Nat.pow 2 16)
  return ⟨status, message, reason, code⟩

/-- The record that stands for an answer without one. -/
def ErrorStatus.ofText (code : Nat) (body : String) : ErrorStatus :=
  ⟨statusLine code, Text.quoted body, "Failed to parse error data", code⟩

/-- The record of an answer that tells of a failure. -/
def ErrorStatus.ofResponse (response : Response) : ErrorStatus :=
  match errorShape.parse response.body with
  | .error _ => .ofText response.status response.body
  | .ok value => (ErrorStatus.ofJson? value).getD (.ofText response.status response.body)

/-! ## Reading answers -/

structure Format (α : Type v) where
  shape : Shape
  ofJson? : Json -> Option α

/-- The object of a text, or why there is none. -/
def Format.parse {α : Type v} (format : Format α) (text : String) : Except String α :=
  match format.shape.parse text with
  | .error message => .error message
  | .ok value =>
      match format.ofJson? value with
      | none => .error "data did not match"
      | some object => .ok object

/-- The object that the cluster answers with. -/
def readResponse {α : Type v} (format : Format α) (response : Response) : Except Failure α :=
  if isFailure response.status then .error (.refused (.ofResponse response))
  else (format.parse response.body).mapError .unreadable

/-! ## Calls -/

structure Call (σ : Type u) (α : Type v) where
  /-- The request, if one was sent. -/
  request : Option Request
  elapsed : Duration
  state : σ
  result : Except Failure α

namespace Call

def fail {σ : Type u} {α : Type v} (state : σ) (failure : Failure) : Call σ α :=
  ⟨none, .zero, state, .error failure⟩

def send {σ : Type u} {α : Type v} (api : Api σ) (state : σ) (request : Request)
    (format : Format α) : Call σ α :=
  let (reply, after) := api.send state request
  ⟨some request, reply.delay, after,
    match reply.content with
    | .error text => .error (.lost text)
    | .ok response => readResponse format response⟩

/-- Builds a request for a target and sends it. -/
def sendTo {σ : Type u} {α : Type v} (api : Api σ) (state : σ) (method : Method)
    (target : String) (body : Option Json) (format : Format α) : Call σ α :=
  match Request.of? method target body with
  | none => .fail state .badCharacter
  | some request => .send api state request format

/-- Sends a request for a named object, whose name must not be empty. -/
def sendNamed {σ : Type u} {α : Type v} (api : Api σ) (state : σ) (method : Method)
    (collection name rest : String) (body : Option Json) (format : Format α) : Call σ α :=
  if name = "" then .fail state .emptyName
  else .sendTo api state method (collection ++ "/" ++ name ++ rest) body format

/-- Looks a named object up.  A missing one is no failure. -/
def get? {σ : Type u} {α : Type v} (api : Api σ) (state : σ) (collection name : String)
    (format : Format α) : Call σ (Option α) :=
  let call : Call σ α := .sendNamed api state .get collection name "" none format
  { call with
    result :=
      match call.result with
      | .ok object => .ok (some object)
      | .error failure => if failure.isMissing then .ok none else .error failure }

def requests {σ : Type u} {α : Type v} (call : Call σ α) : List Request := call.request.toList

end Call

/-! ## Collections -/

/-- The path of a collection of a namespace, below the path of its group and version. -/
def collection (root space plural : String) : String :=
  root ++ "/namespaces/" ++ space ++ "/" ++ plural

/-- The path of the interface that every cluster has. -/
def coreRoot : String := "/api/v1"

def secretsPath (space : String) : String := collection coreRoot space "secrets"

end Cluster

end SecretProjection
