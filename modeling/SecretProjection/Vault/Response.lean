import SecretProjection.Json.Shape
import SecretProjection.Source.Basic

/-!
# Answers of Vault

A login answer holds a token, a read answer a payload with its lease, and an answer of any other
status a list of errors.  Whatever goes wrong with a login is a failed authentication; a read
tells apart a refused session, a path without a secret, and a server that cannot help.
-/

namespace SecretProjection

namespace Vault

open Json

/-! ## Shapes -/

def loginShape : Shape :=
  .strict "struct LoginResponse" [
    ("auth", .optional, .nullable (.strict "struct LoginAuth" [
      ("client_token", .required, .string)]))]

def readShape : Shape :=
  .strict "struct ReadResponse" [
    ("data", .optional, .nullable .anyMap),
    ("lease_id", .default (.string ""), .string),
    ("lease_duration", .default (.ofNat 0), .unsigned 64),
    ("renewable", .default (.bool false), .boolean)]

def errorShape : Shape :=
  .strict "struct ErrorResponse" [("errors", .default (.array []), .list .string)]

/-! ## Errors -/

/-- The errors that an answer lists; an answer of another shape lists none. -/
def errors (body : String) : List String :=
  match errorShape.parse body with
  | .error _ => []
  | .ok value => (value.member? "errors" >>= Json.listOf? Json.string?).getD []

def errorText (body : String) : String :=
  match errors body with
  | [] => "no error details"
  | errors => "; ".intercalate errors

/-! ## Logins -/

def token? (body : String) : Option String :=
  match loginShape.parse body with
  | .error _ => none
  | .ok value => do
      let auth <- value.member? "auth"
      let token <- auth.member? "client_token"
      token.string?

def isSuccess (status : Nat) : Bool := 200 ≤ status && status < 300

def readLogin (status : Nat) (body : String) : Except Fault String :=
  if isSuccess status then
    match token? body with
    | none => .error ⟨.authentication, "login response has no client token"⟩
    | some token =>
        if token = "" then .error ⟨.authentication, "login response has no client token"⟩
        else .ok token
  else
    .error ⟨.authentication,
      "login rejected with status " ++ toString status ++ ": " ++ errorText body⟩

/-! ## Reads -/

/-- The reading of a decoded answer, if it has a payload. -/
def reading? (value : Json) : Option Reading := do
  let payload <- value.member? "data"
  let members <- payload.members?
  let leaseId := (value.member? "lease_id" >>= Json.string?).getD ""
  let leaseDuration := (value.member? "lease_duration" >>= Json.natural? (Nat.pow 2 64)).getD 0
  let renewable := (value.member? "renewable" >>= Json.bool?).getD false
  return ⟨Table.ofList members, leaseId, UInt64.ofNat leaseDuration, renewable⟩

/-- The fault of a status without success, for a path. -/
def statusFault (status : Nat) (body path : String) : Fault :=
  if status = 404 then ⟨.notFound, path⟩
  else
    let text := path ++ ": status " ++ toString status ++ ": " ++ errorText body
    if status = 401 ∨ status = 403 then ⟨.authentication, text⟩ else ⟨.unavailable, text⟩

def readSecret (status : Nat) (body path : String) : Except Fault Reading :=
  if isSuccess status then
    match readShape.parse body with
    | .error message => .error ⟨.unavailable, path ++ ": malformed response: " ++ message⟩
    | .ok value =>
        match reading? value with
        | none => .error ⟨.notFound, path ++ ": response has no data"⟩
        | some reading => .ok reading
  else .error (statusFault status body path)

end Vault

end SecretProjection
