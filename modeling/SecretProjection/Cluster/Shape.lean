import SecretProjection.Cluster.Condition
import SecretProjection.Cluster.Secret
import SecretProjection.Json.Shape

/-!
# Shapes of cluster objects

What a reader expects of the objects of the cluster.  Every field may be left out or null, and of
a repeated field the last one counts; only version and kind, where they are given, have to be
right.
-/

namespace SecretProjection

namespace Cluster

open Json (Shape)

/-! ## Values -/

def checkInstant (text : String) : Except String Unit :=
  match Instant.parse text with
  | .ok _ => .ok ()
  | .error fault => .error fault.message

def instantShape : Shape :=
  .checked "an RFC 3339 formatted date and time string" checkInstant

def checkBytes (spelling : String) : Except String Unit :=
  match Text.Base64.decode (Text.Utf8.encode spelling) with
  | .ok _ => .ok ()
  | .error fault => .error fault.message

def bytesShape : Shape := .nullable (.checked "a base64-encoded string" checkBytes)

/-- The shape of a record all of whose fields may be null. -/
def record (title : String) (fields : List (String × Shape)) : Shape :=
  .loose title (fields.map fun field => (field.1, .nullable field.2))

/-! ## Metadata -/

def ownerShape : Shape :=
  record "OwnerReference" [("apiVersion", .string), ("blockOwnerDeletion", .boolean),
    ("controller", .boolean), ("kind", .string), ("name", .string), ("uid", .string)]

def managedFieldsShape : Shape :=
  record "ManagedFieldsEntry" [("apiVersion", .string), ("fieldsType", .string),
    ("fieldsV1", .any), ("manager", .string), ("operation", .string), ("subresource", .string),
    ("time", instantShape)]

def metadataShape : Shape :=
  record "ObjectMeta" [("annotations", .table .string), ("creationTimestamp", instantShape),
    ("deletionGracePeriodSeconds", .signed), ("deletionTimestamp", instantShape),
    ("finalizers", .list .string), ("generateName", .string), ("generation", .signed),
    ("labels", .table .string), ("managedFields", .list managedFieldsShape), ("name", .string),
    ("namespace", .string), ("ownerReferences", .list ownerShape), ("resourceVersion", .string),
    ("selfLink", .string), ("uid", .string)]

def conditionShape : Shape :=
  record "Condition" [("lastTransitionTime", instantShape), ("message", .string),
    ("observedGeneration", .signed), ("reason", .string), ("status", .string),
    ("type", .string)]

/-! ## Objects -/

/-- The shape of an object of a kind, with the given fields beside its metadata. -/
def objectShape (apiVersion kind : String) (fields : List (String × Shape)) : Shape :=
  .loose kind (
    [("apiVersion", .exactly apiVersion), ("kind", .exactly kind)] ++
    ((("metadata", metadataShape) :: fields).map fun field => (field.1, .nullable field.2)))

def secretShape : Shape :=
  objectShape Secret.apiVersion Secret.kind [("data", .table bytesShape),
    ("immutable", .boolean), ("stringData", .table .string), ("type", .string)]

end Cluster

end SecretProjection
