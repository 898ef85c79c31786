import SecretProjection.Projection.Basic

/-!
# Written projections

Specs and statuses are records with defaults: an absent field falls back to its default, a null
does so only where the field is optional.  Reading what was written gives the same spec, and the
same status with its times cut to whole seconds.
-/

namespace SecretProjection

namespace Json

/-- An unsigned word of 32 bits. -/
def word32? (value : Json) : Option UInt32 := (value.natural? (Nat.pow 2 32)).map UInt32.ofNat

/-- An unsigned word of 64 bits. -/
def word64? (value : Json) : Option UInt64 := (value.natural? (Nat.pow 2 64)).map UInt64.ofNat

end Json

namespace Projection

def ofTexts (table : Table String) : Json := Json.ofTable .string table

def texts? (value : Json) : Option (Table String) := Json.tableOf? Json.string? value

/-- The member of a table, left out when the table is empty. -/
def textsMember (key : String) (table : Table String) : List (String × Json) :=
  if table.isEmpty then [] else [(key, ofTexts table)]

/-! ## Authentication -/

def ofName (name : String) : Json := .ofMembers [("name", .string name)]

def name? (value : Json) : Option String := do
  let fields <- value.fields? ["name"] 1
  Json.required Json.string? "name" fields

/-- The service account that is used when none is named. -/
def defaultServiceAccount : String := "default"

/-- The mount that is used when none is named. -/
def defaultLoginPath : String := "kubernetes"

/-- The key of a token secret that is used when none is named. -/
def defaultTokenKey : String := "token"

namespace ServiceLogin

def toJson (login : ServiceLogin) : Json :=
  .ofMembers [("path", .string login.path), ("role", .string login.role),
    ("serviceAccount", ofName login.serviceAccount)]

def ofJson? (value : Json) : Option ServiceLogin := do
  let fields <- value.fields? ["path", "role", "serviceAccount"] 2
  let path <- Json.defaulted Json.string? defaultLoginPath "path" fields
  let role <- Json.required Json.string? "role" fields
  let serviceAccount <- Json.defaulted name? defaultServiceAccount "serviceAccount" fields
  return { path, role, serviceAccount }

end ServiceLogin

namespace SecretKey

def toJson (key : SecretKey) : Json :=
  .ofMembers [("name", .string key.name), ("key", .string key.key)]

def ofJson? (value : Json) : Option SecretKey := do
  let fields <- value.fields? ["name", "key"] 1
  let name <- Json.required Json.string? "name" fields
  let key <- Json.defaulted Json.string? defaultTokenKey "key" fields
  return { name, key }

end SecretKey

namespace Authentication

def ofToken (key : SecretKey) : Json := .ofMembers [("secretRef", key.toJson)]

def token? (value : Json) : Option SecretKey := do
  let fields <- value.fields? ["secretRef"] 1
  Json.required SecretKey.ofJson? "secretRef" fields

def toJson (auth : Authentication) : Json :=
  .ofMembers (
    Json.memberOf ServiceLogin.toJson "kubernetes" auth.service ++
    Json.memberOf ofToken "token" auth.token ++
    Json.memberOf .string "namespace" auth.vaultNamespace)

def ofJson? (value : Json) : Option Authentication := do
  let fields <- value.fields? ["kubernetes", "token", "namespace"] 0
  let service <- Json.optional ServiceLogin.ofJson? "kubernetes" fields
  let token <- Json.optional token? "token" fields
  let vaultNamespace <- Json.optional Json.string? "namespace" fields
  return { service, token, vaultNamespace }

end Authentication

/-! ## Specs -/

namespace Definition

def toJson (d : Definition) : Json :=
  .ofMembers [("name", .string d.name), ("authentication", d.authentication.toJson),
    ("path", .string d.path)]

def ofJson? (value : Json) : Option Definition := do
  let fields <- value.fields? ["name", "authentication", "path"] 3
  let name <- Json.required Json.string? "name" fields
  let authentication <- Json.required Authentication.ofJson? "authentication" fields
  let path <- Json.required Json.string? "path" fields
  return { name, authentication, path }

end Definition

namespace OutputSpec

/-- The type of a secret whose spec names none. -/
def defaultType : String := "Opaque"

def toJson (output : OutputSpec) : Json :=
  .ofMembers (
    [("name", .string output.name), ("type", .string output.type),
      ("stringData", ofTexts output.stringData)] ++
    textsMember "labels" output.labels ++ textsMember "annotations" output.annotations)

def ofJson? (value : Json) : Option OutputSpec := do
  let fields <- value.fields? ["name", "type", "stringData", "labels", "annotations"] 1
  let name <- Json.required Json.string? "name" fields
  let type <- Json.defaulted Json.string? defaultType "type" fields
  let stringData <- Json.defaulted texts? .empty "stringData" fields
  let labels <- Json.defaulted texts? .empty "labels" fields
  let annotations <- Json.defaulted texts? .empty "annotations" fields
  return { name, type, stringData, labels, annotations }

end OutputSpec

namespace Spec

/-- The threshold of a spec that names none. -/
def defaultThreshold : UInt32 := 90

def toJson (spec : Spec) : Json :=
  .ofMembers (
    Json.memberOf .string "refreshPeriod" spec.refreshPeriod ++
    [("refreshThreshold", .ofNat spec.refreshThreshold.toNat),
      ("vaultSecretDefinitions", .array (spec.definitions.map Definition.toJson)),
      ("output", spec.output.toJson)])

def ofJson? (value : Json) : Option Spec := do
  let fields <-
    value.fields? ["refreshPeriod", "refreshThreshold", "vaultSecretDefinitions", "output"] 4
  let refreshPeriod <- Json.optional Json.string? "refreshPeriod" fields
  let refreshThreshold <-
    Json.defaulted Json.word32? defaultThreshold "refreshThreshold" fields
  let definitions <-
    Json.defaulted (Json.listOf? Definition.ofJson?) [] "vaultSecretDefinitions" fields
  let output <- Json.required OutputSpec.ofJson? "output" fields
  return { refreshPeriod, refreshThreshold, definitions, output }

end Spec

/-! ## Statuses -/

namespace Lease

def toJson (lease : Lease) : Json :=
  .ofMembers [("name", .string lease.name), ("leaseId", .string lease.leaseId),
    ("leaseDuration", .ofNat lease.leaseDuration.toNat), ("renewable", .bool lease.renewable)]

def ofJson? (value : Json) : Option Lease := do
  let fields <- value.fields? ["name", "leaseId", "leaseDuration", "renewable"] 1
  let name <- Json.required Json.string? "name" fields
  let leaseId <- Json.defaulted Json.string? "" "leaseId" fields
  let leaseDuration <- Json.defaulted Json.word64? 0 "leaseDuration" fields
  let renewable <- Json.defaulted Json.bool? false "renewable" fields
  return { name, leaseId, leaseDuration, renewable }

end Lease

namespace Status

/-- The member of the conditions, left out when there are none. -/
def conditionsMember (conditions : List Cluster.Condition) : List (String × Json) :=
  if conditions = [] then []
  else [("conditions", .array (conditions.map Cluster.Condition.toJson))]

def ofInstant? : Option Instant -> Json
  | none => .null
  | some t => .ofInstant t

/-- The written form of a status.  The time of the next update is always there, if only as
null. -/
def toJson (status : Status) : Json :=
  .ofMembers (
    conditionsMember status.conditions ++
    Json.memberOf .ofInstant "lastVaultSecretUpdate" status.lastUpdate ++
    [("nextVaultSecretUpdate", ofInstant? status.nextUpdate),
      ("vaultSecretDefinitionsStatus", .array (status.leases.map Lease.toJson))])

def ofJson? (value : Json) : Option Status := do
  let fields <- value.fields? ["conditions", "lastVaultSecretUpdate", "nextVaultSecretUpdate",
    "vaultSecretDefinitionsStatus"] 0
  let conditions <-
    Json.defaulted (Json.listOf? Cluster.Condition.ofJson?) [] "conditions" fields
  let lastUpdate <- Json.optional Json.instant? "lastVaultSecretUpdate" fields
  let nextUpdate <- Json.optional Json.instant? "nextVaultSecretUpdate" fields
  let leases <-
    Json.defaulted (Json.listOf? Lease.ofJson?) [] "vaultSecretDefinitionsStatus" fields
  return { conditions, lastUpdate, nextUpdate, leases }

end Status

/-! ## Projections -/

/-- The group of the interface that projections belong to. -/
def group : String := "redhatcop.redhat.io"

def version : String := "v1alpha1"

def apiVersion : String := group ++ "/" ++ version

/-- The kind under which projections are written. -/
def kind : String := "VaultSecret"

def plural : String := "vaultsecrets"

def toJson (unit : Projection) : Json :=
  .ofMembers (
    [("apiVersion", .string apiVersion), ("kind", .string kind),
      ("metadata", unit.metadata.toJson), ("spec", unit.spec.toJson)] ++
    Json.memberOf Status.toJson "status" unit.status)

/-- The projection of a written form.  Version and kind are not looked at. -/
def ofJson? (value : Json) : Option Projection := do
  let fields <- value.fields? ["metadata", "spec", "status"] 3
  let metadata <- Json.required Cluster.Metadata.ofJson? "metadata" fields
  let spec <- Json.required Spec.ofJson? "spec" fields
  let status <- Json.optional Status.ofJson? "status" fields
  return { metadata, spec, status }

end Projection

end SecretProjection
