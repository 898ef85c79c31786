import SecretProjection.Controller
import SecretProjection.Url.Percent

/-!
# Watches

The controller lists two collections, of one namespace or of all, and then watches them: the
projections, and the secrets that carry the label of the manager.
-/

namespace SecretProjection

namespace Controller

open Cluster

structure Watched where
  root : String
  plural : String
  /-- The one namespace, if not all. -/
  space : Option String
  /-- The label that objects must have, with its value. -/
  label : Option (String × String)
  deriving DecidableEq, Repr

namespace Watched

def path (watched : Watched) : String :=
  match watched.space with
  | none => watched.root ++ "/" ++ watched.plural
  | some space => collection watched.root space watched.plural

/-- Whether a character stands in plain in the value of a parameter. -/
def isPlain (c : Char) : Bool :=
  c.isAlphanum || c == '*' || c == '-' || c == '.' || c == '_'

/-- The value of a parameter as it stands in a query. -/
def parameter (text : String) : String :=
  String.ofList (Url.encode (fun c => !isPlain c) text.toList)

/-- The parameters that select objects by their label. -/
def selector (watched : Watched) : List String :=
  match watched.label with
  | none => []
  | some (label, value) => ["labelSelector=" ++ parameter (label ++ "=" ++ value)]

/-- How many objects a list may have at a time. -/
def pageSize : Nat := 500

/-- How many seconds a watch is kept open. -/
def watchSeconds : Nat := 290

def listRequest (watched : Watched) : Request :=
  ⟨.get, watched.path,
    "&".intercalate (watched.selector ++ ["limit=" ++ toString pageSize]), none⟩

/-- The request for what happens behind a version. -/
def watchRequest (watched : Watched) (version : String) : Request :=
  ⟨.get, watched.path,
    "&".intercalate (["watch=true", "timeoutSeconds=" ++ toString watchSeconds] ++
      watched.selector ++ ["allowWatchBookmarks=true", "resourceVersion=" ++ version]), none⟩

/-- The two parts of the path of an object in the collection: its namespace and its name. -/
def place? (watched : Watched) (path : String) : Option (String × String) :=
  let parts := path.splitOn "/"
  match parts.drop (parts.length - 4) with
  | ["namespaces", space, plural, name] =>
      if "/".intercalate (parts.take (parts.length - 4)) = watched.root ∧
          plural = watched.plural ∧ watched.space.all (· == space) then some (space, name)
      else none
  | _ => none

def isLabelled (watched : Watched) (object : Json) : Bool :=
  match watched.label with
  | none => true
  | some (label, value) =>
      (object.member? "metadata" >>= Json.member? "labels" >>= Json.member? label) ==
        some (.string value)

/-- The objects of a table by path that the collection holds. -/
def objects (watched : Watched) (table : Table Json) : List Json :=
  (table.entries.filter fun entry =>
    (watched.place? entry.1).isSome && watched.isLabelled entry.2).map (·.2)

end Watched

def watchedUnits (space : Option String) : Watched :=
  ⟨unitsRoot, Projection.plural, space, none⟩

def watchedSecrets (space : Option String) : Watched :=
  ⟨coreRoot, "secrets", space, some (Output.managerLabel, Output.managerName)⟩

end Controller

end SecretProjection
