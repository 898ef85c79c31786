import SecretProjection.Duration
import SecretProjection.Json.Basic
import SecretProjection.Url.Basic

/-!
# Requests to Vault

A request to Vault has an address, may show a token and name a namespace inside Vault, and may
carry a body.  A request that cannot be sent as it stands is refused before anything happens; one
that is sent is answered after some time, or fails on the way.
-/

namespace SecretProjection

namespace Vault

/-! ## Requests -/

inductive Method where
  | get
  | post
  deriving DecidableEq, Repr

structure Request where
  method : Method
  address : Url
  token : Option String
  vaultNamespace : Option String
  body : Option Json
  deriving DecidableEq

/-! ## Answers -/

inductive Failure where
  | badAddress (address : Url)
  | badHeader
  | unreachable (address : Url)
  /-- The answer broke off. -/
  | cutOff
  deriving DecidableEq, Repr

def Failure.message : Failure -> String
  | .badAddress address => "builder error for url (" ++ address.text ++ ")"
  | .badHeader => "builder error"
  | .unreachable address => "error sending request for url (" ++ address.text ++ ")"
  | .cutOff => "error decoding response body"

structure Answer where
  status : Nat
  body : String
  deriving DecidableEq, Repr

/-- What becomes of a request, and after what time. -/
structure Reply where
  delay : Duration
  content : Except Failure Answer

/-! ## Checks -/

def isHeaderChar (c : Char) : Bool := c == '\t' || (32 ≤ c.toNat && c.toNat != 127)

/-- Whether a text may be the value of a header; no header is fine. -/
def isHeader (value : Option String) : Bool := (value.getD "").toList.all isHeaderChar

def isReachable (scheme : List Char) : Bool := scheme == "http".toList || scheme == "https".toList

/-- The request as it is sent: what the address says about a user is no part of it. -/
def Request.prepare (request : Request) : Except Failure Request :=
  let address := request.address.withoutUser
  if !request.address.hasHost then .error (.badAddress request.address)
  else if !(isHeader request.token && isHeader request.vaultNamespace) then .error .badHeader
  else if !isReachable address.scheme then .error (.badAddress address)
  else .ok { request with address }

end Vault

end SecretProjection
