import SecretProjection.Cluster.Metadata
import SecretProjection.Text.Base64

/-!
# Secrets of the cluster

A cluster secret maps keys to bytes, which are written as base64.  Text that is still to be
merged into the bytes may stand beside them; only a hand-edited secret has it.
-/

namespace SecretProjection

namespace Json

/-- The bytes that a base64 string spells.  A null spells none. -/
def bytes? : Json -> Option Bytes
  | .null => some []
  | .string spelling =>
      match Text.Base64.decode (Text.Utf8.encode spelling) with
      | .ok bytes => some bytes
      | .error _ => none
  | _ => none

def ofBytes (bytes : Bytes) : Json := .string (String.ofList (Text.Base64.encode bytes))

end Json

namespace Cluster

structure Secret where
  data : Option (Table Bytes)
  immutable : Option Bool
  metadata : Metadata
  stringData : Option (Table String)
  type : Option String
  deriving DecidableEq

namespace Secret

/-- The version of the interface that secrets belong to. -/
def apiVersion : String := "v1"

def kind : String := "Secret"

def toJson (secret : Secret) : Json :=
  .ofMembers (
    [("apiVersion", .string apiVersion), ("kind", .string kind)] ++
    Json.memberOf (Json.ofTable .ofBytes) "data" secret.data ++
    Json.memberOf .bool "immutable" secret.immutable ++
    [("metadata", secret.metadata.toJson)] ++
    Json.memberOf (Json.ofTable .string) "stringData" secret.stringData ++
    Json.memberOf .string "type" secret.type)

/-- Accepts one string only. -/
def only? (text : String) (value : Json) : Option Unit :=
  if value = .string text then some () else none

/-- The secret of a written form.  Version and kind may be left out. -/
def ofJson? (value : Json) : Option Secret := do
  let members <- value.members?
  Json.defaulted (only? apiVersion) () "apiVersion" members
  Json.defaulted (only? kind) () "kind" members
  let data <- Json.optional (Json.tableOf? Json.bytes?) "data" members
  let immutable <- Json.optional Json.bool? "immutable" members
  let metadata <- Json.lenient Metadata.ofJson? .empty "metadata" members
  let stringData <- Json.optional (Json.tableOf? Json.string?) "stringData" members
  let type <- Json.optional Json.string? "type" members
  return { data, immutable, metadata, stringData, type }

/-- The namespace and the name under which a secret is stored. -/
def key (secret : Secret) : String × String :=
  (secret.metadata.namespaceText, secret.metadata.displayName)

end Secret

end Cluster

end SecretProjection
