import SecretProjection.Projection.Codec

/-!
# The definition of the resource

The object that makes projections known to a cluster: their names, the columns in which they are
listed, and the schema of spec and status.
-/

namespace SecretProjection

namespace Projection

namespace Schema

/-! ## Schemas -/

abbrev Members := List (String × Json)

def ofType (type : String) : Members := [("type", .string type)]

def text : Members := ofType "string"

def truth : Members := ofType "boolean"

def instant : Members := ("format", .string "date-time") :: text

def number (format : String) : Members := ("format", .string format) :: ofType "integer"

def fractionalZero : Json := .number (.float false Binary64.zero)

/-- The schema of numbers of a format that are never negative. -/
def natural (format : String) : Members := ("minimum", fractionalZero) :: number format

def list (items : Members) : Members := ("items", .ofMembers items) :: ofType "array"

def table (values : Members) : Members :=
  ("additionalProperties", .ofMembers values) :: ofType "object"

/-- The member that names the fields that must be there. -/
def requiredMember : List String -> Members
  | [] => []
  | names => [("required", .array (names.map .string))]

def fields (properties : List (String × Members)) (names : List String) : Members :=
  requiredMember names ++
    ("properties", .ofMembers (properties.map fun property =>
      (property.1, .ofMembers property.2))) :: ofType "object"

def about (description : String) (schema : Members) : Members :=
  ("description", .string description) :: schema

def orNull (schema : Members) : Members := ("nullable", .bool true) :: schema

def defaulting (value : Json) (schema : Members) : Members := ("default", value) :: schema

/-! ## Specs -/

def login : Members :=
  orNull (fields
    [("path", about "Mount path of the kubernetes auth method"
        (defaulting (.string defaultLoginPath) text)),
      ("role", text),
      ("serviceAccount", defaulting (ofName defaultServiceAccount)
        (fields [("name", text)] ["name"]))]
    ["role"])

def token : Members :=
  orNull (fields
    [("secretRef", fields
        [("key", defaulting (.string defaultTokenKey) text), ("name", text)] ["name"])]
    ["secretRef"])

def authentication : Members :=
  about
    "How to obtain a Vault token for one definition. Exactly one mechanism must be set."
    (fields
      [("kubernetes", login),
        ("namespace", about "Vault Enterprise namespace used for login and reads" (orNull text)),
        ("token", token)]
      [])

def definition : Members :=
  fields
    [("authentication", authentication),
      ("name", about
        "Unique name within the VaultSecret, used as the top-level key when templating" text),
      ("path", about "Vault API path of the secret, without the \x60/v1/\x60 prefix" text)]
    ["authentication", "name", "path"]

def output : Members :=
  about "Describes the Kubernetes Secret produced from the Vault data."
    (fields
      [("annotations", table text), ("labels", table text), ("name", text),
        ("stringData", about
          "Output keys mapped to templates evaluated against the merged Vault data"
          (defaulting (.object []) (table text))),
        ("type", defaulting (.string OutputSpec.defaultType) text)]
      ["name"])

def spec : Members :=
  about "Keeps one Kubernetes Secret rendered from one or more Vault secrets."
    (fields
      [("output", output),
        ("refreshPeriod", about
          ("Fixed refresh period (Go duration, e.g. \"90s\", \"1h30m\"); " ++
            "overrides lease-based scheduling") (orNull text)),
        ("refreshThreshold", about
          "Percentage of the shortest lease after which the secret is refreshed"
          (defaulting (.ofNat Spec.defaultThreshold.toNat) (natural "uint32"))),
        ("vaultSecretDefinitions", defaulting (.array []) (list definition))]
      ["output"])

/-! ## Statuses -/

def condition : Members :=
  about "Condition contains details for one aspect of the current state of this API Resource."
    (fields
      [("lastTransitionTime", about
          ("lastTransitionTime is the last time the condition transitioned from one status to " ++
            "another. This should be when the underlying condition changed.  If that is not " ++
            "known, then using the time when the API field changed is acceptable.") instant),
        ("message", about
          ("message is a human readable message indicating details about the transition. This " ++
            "may be an empty string.") text),
        ("observedGeneration", about
          ("observedGeneration represents the .metadata.generation that the condition was set " ++
            "based upon. For instance, if .metadata.generation is currently 12, but the " ++
            ".status.conditions[x].observedGeneration is 9, the condition is out of date with " ++
            "respect to the current state of the instance.") (number "int64")),
        ("reason", about
          ("reason contains a programmatic identifier indicating the reason for the condition's " ++
            "last transition. Producers of specific condition types may define expected values " ++
            "and meanings for this field, and whether the values are considered a guaranteed " ++
            "API. The value should be a CamelCase string. This field may not be empty.") text),
        ("status", about "status of the condition, one of True, False, Unknown." text),
        ("type", about "type of condition in CamelCase or in foo.example.com/CamelCase." text)]
      ["lastTransitionTime", "message", "reason", "status", "type"])

def lease : Members :=
  about "Lease metadata observed for one definition on the last successful sync"
    (fields
      [("leaseDuration", about "Lease length in seconds, 0 for static secrets"
          (defaulting (.ofNat 0) (natural "uint64"))),
        ("leaseId", about "Empty for static secrets" (defaulting (.string "") text)),
        ("name", text),
        ("renewable", defaulting (.bool false) truth)]
      ["name"])

def status : Members :=
  orNull (fields
    [("conditions", list condition),
      ("lastVaultSecretUpdate", about
        ("Time is a wrapper around time.Time which supports correct marshaling to YAML and " ++
          "JSON.  Wrappers are provided for many of the factory methods that the time package " ++
          "offers.") (orNull instant)),
      ("nextVaultSecretUpdate", about "Null when no periodic schedule could be determined"
        (orNull instant)),
      ("vaultSecretDefinitionsStatus", defaulting (.array []) (list lease))]
    [])

/-! ## The resource -/

/-- The name of one projection in the interface. -/
def singular : String := "vaultsecret"

def shortName : String := "vsec"

def unit : Members :=
  ("title", .string kind) ::
    about "Auto-generated derived type for VaultSecretSpec via \x60CustomResource\x60"
      (fields [("spec", spec), ("status", status)] ["spec"])

def column (name field : String) : Json :=
  .ofMembers [("jsonPath", .string (".status." ++ field)), ("name", .string name),
    ("type", .string "date")]

def versionEntry : Json :=
  .ofMembers [
    ("additionalPrinterColumns", .array [column "Last Sync" "lastVaultSecretUpdate",
      column "Next Sync" "nextVaultSecretUpdate"]),
    ("name", .string version),
    ("schema", .ofMembers [("openAPIV3Schema", .ofMembers unit)]),
    ("served", .bool true),
    ("storage", .bool true),
    ("subresources", .ofMembers [("status", .object [])])]

def names : Json :=
  .ofMembers [("categories", .array []), ("kind", .string kind), ("plural", .string plural),
    ("shortNames", .array [.string shortName]), ("singular", .string singular)]

end Schema

def resourceDefinition : Json :=
  .ofMembers [
    ("apiVersion", .string "apiextensions.k8s.io/v1"),
    ("kind", .string "CustomResourceDefinition"),
    ("metadata", ofName (plural ++ "." ++ group)),
    ("spec", .ofMembers [
      ("group", .string group),
      ("names", Schema.names),
      ("scope", .string "Namespaced"),
      ("versions", .array [Schema.versionEntry])])]

end Projection

end SecretProjection
