import SecretProjection.Instant.Parser
import SecretProjection.Instant.Printer
import SecretProjection.Json.Record

/-!
# Metadata of cluster objects

Every object of the cluster carries the same kind of metadata.  All of its fields are optional,
an unset field is left out of the written form, and a null counts as unset.
-/

namespace SecretProjection

namespace Json

def instant? : Json -> Option Instant
  | .string text =>
      match Instant.parse text with
      | .ok t => some t
      | .error _ => none
  | _ => none

def ofInstant (t : Instant) : Json := .string t.text

/-- A signed word of 64 bits. -/
def signedWord? (value : Json) : Option Int64 := value.int64?.map Int64.ofInt

def ofSignedWord (n : Int64) : Json := .ofInt n.toInt

end Json

namespace Cluster

/-! ## Owners -/

/-- A reference to an object that owns another one. -/
structure OwnerReference where
  apiVersion : String
  blockOwnerDeletion : Option Bool
  controller : Option Bool
  kind : String
  name : String
  uid : String
  deriving DecidableEq, Repr

def OwnerReference.toJson (owner : OwnerReference) : Json :=
  .ofMembers (
    [("apiVersion", .string owner.apiVersion)] ++
    Json.memberOf .bool "blockOwnerDeletion" owner.blockOwnerDeletion ++
    Json.memberOf .bool "controller" owner.controller ++
    [("kind", .string owner.kind), ("name", .string owner.name), ("uid", .string owner.uid)])

def OwnerReference.ofJson? (value : Json) : Option OwnerReference := do
  let members <- value.members?
  let apiVersion <- Json.lenient Json.string? "" "apiVersion" members
  let blockOwnerDeletion <- Json.optional Json.bool? "blockOwnerDeletion" members
  let controller <- Json.optional Json.bool? "controller" members
  let kind <- Json.lenient Json.string? "" "kind" members
  let name <- Json.lenient Json.string? "" "name" members
  let uid <- Json.lenient Json.string? "" "uid" members
  return { apiVersion, blockOwnerDeletion, controller, kind, name, uid }

/-! ## Field managers -/

/-- Which fields of an object a client manages.  The set of fields is a value of any kind, kept as
it is written. -/
structure ManagedFields where
  apiVersion : Option String
  fieldsType : Option String
  fields : Option Json
  manager : Option String
  operation : Option String
  subresource : Option String
  time : Option Instant
  deriving DecidableEq

def ManagedFields.toJson (entry : ManagedFields) : Json :=
  .ofMembers (
    Json.memberOf .string "apiVersion" entry.apiVersion ++
    Json.memberOf .string "fieldsType" entry.fieldsType ++
    Json.memberOf id "fieldsV1" entry.fields ++
    Json.memberOf .string "manager" entry.manager ++
    Json.memberOf .string "operation" entry.operation ++
    Json.memberOf .string "subresource" entry.subresource ++
    Json.memberOf .ofInstant "time" entry.time)

def ManagedFields.ofJson? (value : Json) : Option ManagedFields := do
  let members <- value.members?
  let apiVersion <- Json.optional Json.string? "apiVersion" members
  let fieldsType <- Json.optional Json.string? "fieldsType" members
  let fields <- Json.optional some "fieldsV1" members
  let manager <- Json.optional Json.string? "manager" members
  let operation <- Json.optional Json.string? "operation" members
  let subresource <- Json.optional Json.string? "subresource" members
  let time <- Json.optional Json.instant? "time" members
  return { apiVersion, fieldsType, fields, manager, operation, subresource, time }

/-! ## Metadata -/

structure Metadata where
  annotations : Option (Table String)
  creationTimestamp : Option Instant
  deletionGracePeriodSeconds : Option Int64
  deletionTimestamp : Option Instant
  finalizers : Option (List String)
  generateName : Option String
  generation : Option Int64
  labels : Option (Table String)
  managedFields : Option (List ManagedFields)
  name : Option String
  namespaceName : Option String
  ownerReferences : Option (List OwnerReference)
  resourceVersion : Option String
  selfLink : Option String
  uid : Option String
  deriving DecidableEq

namespace Metadata

/-- Metadata without any field. -/
def empty : Metadata :=
  ⟨none, none, none, none, none, none, none, none, none, none, none, none, none, none, none⟩

instance : Inhabited Metadata := ⟨empty⟩

/-- The name of an object, or the stem of a name yet to be given, or nothing. -/
def displayName (metadata : Metadata) : String :=
  metadata.name.getD (metadata.generateName.getD "")

/-- The namespace, empty when there is none. -/
def namespaceText (metadata : Metadata) : String := metadata.namespaceName.getD ""

def ofStrings (texts : List String) : Json := .array (texts.map .string)

def toJson (m : Metadata) : Json :=
  .ofMembers (
    Json.memberOf (Json.ofTable .string) "annotations" m.annotations ++
    Json.memberOf .ofInstant "creationTimestamp" m.creationTimestamp ++
    Json.memberOf .ofSignedWord "deletionGracePeriodSeconds" m.deletionGracePeriodSeconds ++
    Json.memberOf .ofInstant "deletionTimestamp" m.deletionTimestamp ++
    Json.memberOf ofStrings "finalizers" m.finalizers ++
    Json.memberOf .string "generateName" m.generateName ++
    Json.memberOf .ofSignedWord "generation" m.generation ++
    Json.memberOf (Json.ofTable .string) "labels" m.labels ++
    Json.memberOf (fun entries => .array (entries.map ManagedFields.toJson)) "managedFields"
      m.managedFields ++
    Json.memberOf .string "name" m.name ++
    Json.memberOf .string "namespace" m.namespaceName ++
    Json.memberOf (fun owners => .array (owners.map OwnerReference.toJson)) "ownerReferences"
      m.ownerReferences ++
    Json.memberOf .string "resourceVersion" m.resourceVersion ++
    Json.memberOf .string "selfLink" m.selfLink ++
    Json.memberOf .string "uid" m.uid)

def ofJson? (value : Json) : Option Metadata := do
  let members <- value.members?
  let annotations <- Json.optional (Json.tableOf? Json.string?) "annotations" members
  let creationTimestamp <- Json.optional Json.instant? "creationTimestamp" members
  let deletionGracePeriodSeconds <-
    Json.optional Json.signedWord? "deletionGracePeriodSeconds" members
  let deletionTimestamp <- Json.optional Json.instant? "deletionTimestamp" members
  let finalizers <- Json.optional (Json.listOf? Json.string?) "finalizers" members
  let generateName <- Json.optional Json.string? "generateName" members
  let generation <- Json.optional Json.signedWord? "generation" members
  let labels <- Json.optional (Json.tableOf? Json.string?) "labels" members
  let managedFields <- Json.optional (Json.listOf? ManagedFields.ofJson?) "managedFields" members
  let name <- Json.optional Json.string? "name" members
  let namespaceName <- Json.optional Json.string? "namespace" members
  let ownerReferences <-
    Json.optional (Json.listOf? OwnerReference.ofJson?) "ownerReferences" members
  let resourceVersion <- Json.optional Json.string? "resourceVersion" members
  let selfLink <- Json.optional Json.string? "selfLink" members
  let uid <- Json.optional Json.string? "uid" members
  return ⟨annotations, creationTimestamp, deletionGracePeriodSeconds, deletionTimestamp,
    finalizers, generateName, generation, labels, managedFields, name, namespaceName,
    ownerReferences, resourceVersion, selfLink, uid⟩

end Metadata

end Cluster

end SecretProjection
