import SecretProjection.Duration
import SecretProjection.Json.Basic

/-!
# Requests to the cluster

The cluster is reached by requests, each with a method, a target and perhaps a body.  It answers
with a status and a text, after some time, unless the request gets lost on the way.
-/

namespace SecretProjection

universe u

namespace Cluster

/-! ## Requests -/

inductive Method where
  | get
  | post
  | put
  | patch
  deriving DecidableEq, Repr

def Method.text : Method -> String
  | .get => "GET"
  | .post => "POST"
  | .put => "PUT"
  | .patch => "PATCH"

structure Request where
  method : Method
  path : String
  /-- What stands behind the question mark, if anything does. -/
  query : String
  body : Option Json
  deriving DecidableEq

def Request.target (request : Request) : String :=
  if request.query = "" then request.path else request.path ++ "?" ++ request.query

/-! ## Targets -/

def isPathChar (c : Char) : Bool :=
  let n := c.toNat
  n == 0x21 || n == 0x22 || (0x24 ≤ n && n ≤ 0x3B) || n == 0x3D || (0x40 ≤ n && n ≤ 0x5F) ||
    0x61 ≤ n

def isQueryChar (c : Char) : Bool :=
  let n := c.toNat
  n == 0x21 || (0x24 ≤ n && n ≤ 0x3B) || n == 0x3D || 0x3F ≤ n

/-- The query in a text behind a path.  A number sign ends it. -/
def queryOf? (text : List Char) : Option (List Char) :=
  let query := text.takeWhile (· != '#')
  if query.all isQueryChar then some query else none

/-- The path and the query of a target, unless it holds a character that none may hold. -/
def splitTarget? (target : List Char) : Option (List Char × List Char) :=
  let path := target.takeWhile fun c => c != '?' && c != '#'
  if path.all isPathChar then
    match target.drop path.length with
    | '?' :: rest => (queryOf? rest).map fun query => (path, query)
    | _ => some (path, [])
  else none

def Request.of? (method : Method) (target : String) (body : Option Json) : Option Request :=
  (splitTarget? target.toList).map fun parts =>
    ⟨method, String.ofList parts.1, String.ofList parts.2, body⟩

/-! ## Answers -/

structure Response where
  status : Nat
  body : String
  deriving DecidableEq, Repr

/-- What becomes of a request, and after what time.  A request that gets lost is told of in
words. -/
structure Reply where
  delay : Duration
  content : Except String Response

/-- A cluster with states `σ`. -/
structure Api (σ : Type u) where
  send : σ -> Request -> Reply × σ

end Cluster

end SecretProjection
