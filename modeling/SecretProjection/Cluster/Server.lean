import SecretProjection.Cluster.Exchange
import SecretProjection.Json.Patch
import SecretProjection.Json.Printer

/-!
# A cluster in memory

A server that keeps its objects in a table by path.  A new or replaced object gets the next
version; a patch of a status is merged into the object.  Some requests may have canned answers,
which change nothing.
-/

namespace SecretProjection

namespace Cluster

structure Server where
  /-- Answers by method and path. -/
  canned : Table Response
  objects : Table Json
  /-- The number of versions given out. -/
  versions : Nat
  /-- The time that every answer takes. -/
  delay : Duration
  deriving DecidableEq

namespace Server

def cannedKey (request : Request) : String := request.method.text ++ " " ++ request.path

def answer (status : Nat) (object : Json) : Response := ⟨status, object.compact⟩

def failure (code : Nat) (reason message : String) : Response :=
  answer code (.ofMembers [("apiVersion", .string "v1"), ("code", .ofNat code),
    ("kind", .string "Status"), ("message", .string message), ("metadata", .object []),
    ("reason", .string reason), ("status", .string "Failure")])

def missing : Response := failure 404 "NotFound" "not found"

def present : Response := failure 409 "AlreadyExists" "already exists"

/-- The object of a request body with its version set. -/
def versioned (version : Nat) (object : Json) : Json :=
  ((Json.setMember? (.string (toString version)) ["metadata", "resourceVersion"] object)).getD
    object

def nameOf (object : Json) : String :=
  (object.member? "metadata" >>= Json.member? "name" >>= Json.string?).getD ""

/-- Stores an object under a path with the next version. -/
def store (server : Server) (status : Nat) (path : String) (object : Json) :
    Response × Server :=
  let version := server.versions + 1
  let object := versioned version object
  (answer status object,
    { server with objects := server.objects.insert path object, versions := version })

/-- Creates an object in the collection of a path. -/
def create (server : Server) (path : String) (object : Json) : Response × Server :=
  let place := path ++ "/" ++ nameOf object
  if server.objects.contains place then (present, server) else server.store 201 place object

def replace (server : Server) (path : String) (object : Json) : Response × Server :=
  if server.objects.contains path then server.store 200 path object else (missing, server)

/-- Merges the status of a patch into the object of a path. -/
def patchStatus (server : Server) (path : String) (patch : Json) : Response × Server :=
  match server.objects.get? path with
  | none => (missing, server)
  | some object =>
      let change := ((patch.member? "status").map fun status => ("status", status)).toList
      let object := object.mergePatch (.object change)
      (answer 200 object, { server with objects := server.objects.insert path object })

/-- What stands before the end of a path, if the path has that end. -/
def beforeEnd? (ending path : String) : Option String :=
  let (ending, path) := (ending.toList, path.toList)
  if ending.isSuffixOf path then some (String.ofList (path.take (path.length - ending.length)))
  else none

/-- Answers a request that has no canned answer. -/
def handle (server : Server) (request : Request) : Response × Server :=
  let body := request.body.getD .null
  match request.method with
  | .get =>
      match server.objects.get? request.path with
      | none => (missing, server)
      | some object => (answer 200 object, server)
  | .post =>
      match beforeEnd? "/secrets" request.path with
      | none => (missing, server)
      | some _ => server.create request.path body
  | .put => server.replace request.path body
  | .patch =>
      match beforeEnd? "/status" request.path with
      | none => (missing, server)
      | some path => server.patchStatus path body

def send (server : Server) (request : Request) : Reply × Server :=
  match server.canned.get? (cannedKey request) with
  | some response => (⟨server.delay, .ok response⟩, server)
  | none =>
      let (response, after) := server.handle request
      (⟨server.delay, .ok response⟩, after)

def api : Api Server := ⟨send⟩

end Server

end Cluster

end SecretProjection
