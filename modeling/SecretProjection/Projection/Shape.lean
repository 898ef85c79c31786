import SecretProjection.Cluster.Shape
import SecretProjection.Projection.Codec

/-!
# Shapes of projections

What a reader expects of a written projection.  Unlike the objects that every cluster knows, a
projection refuses a repeated field, and only a field with a default may be left out.
-/

namespace SecretProjection

namespace Projection

open Json (Shape)

def noMembers : Json := .object []

def accountShape : Shape := .strict "struct ServiceAccountRef" [("name", .required, .string)]

def loginShape : Shape :=
  .strict "struct KubernetesAuth" [
    ("path", .default (.string defaultLoginPath), .string),
    ("role", .required, .string),
    ("serviceAccount", .default (ofName defaultServiceAccount), accountShape)]

def secretKeyShape : Shape :=
  .strict "struct SecretKeyRef" [
    ("name", .required, .string),
    ("key", .default (.string defaultTokenKey), .string)]

def tokenShape : Shape := .strict "struct TokenAuth" [("secretRef", .required, secretKeyShape)]

def authenticationShape : Shape :=
  .strict "struct Authentication" [
    ("kubernetes", .default .null, .nullable loginShape),
    ("token", .default .null, .nullable tokenShape),
    ("namespace", .default .null, .nullable .string)]

def definitionShape : Shape :=
  .strict "struct VaultSecretDefinition" [
    ("name", .required, .string),
    ("authentication", .required, authenticationShape),
    ("path", .required, .string)]

def outputShape : Shape :=
  .strict "struct TemplatizedK8sSecret" [
    ("name", .required, .string),
    ("type", .default (.string OutputSpec.defaultType), .string),
    ("stringData", .default noMembers, .table .string),
    ("labels", .default noMembers, .table .string),
    ("annotations", .default noMembers, .table .string)]

def specShape : Shape :=
  .strict "struct VaultSecretSpec" [
    ("refreshPeriod", .default .null, .nullable .string),
    ("refreshThreshold", .default (.ofNat Spec.defaultThreshold.toNat), .unsigned 32),
    ("vaultSecretDefinitions", .default (.array []), .list definitionShape),
    ("output", .required, outputShape)]

def leaseShape : Shape :=
  .strict "struct LeaseStatus" [
    ("name", .required, .string),
    ("leaseId", .default (.string ""), .string),
    ("leaseDuration", .default (.ofNat 0), .unsigned 64),
    ("renewable", .default (.bool false), .boolean)]

def statusShape : Shape :=
  .strict "struct VaultSecretStatus" [
    ("conditions", .default (.array []), .list Cluster.conditionShape),
    ("lastVaultSecretUpdate", .default .null, .nullable Cluster.instantShape),
    ("nextVaultSecretUpdate", .default .null, .nullable Cluster.instantShape),
    ("vaultSecretDefinitionsStatus", .default (.array []), .list leaseShape)]

def shape : Shape :=
  .strict "struct VaultSecret" [
    ("metadata", .required, Cluster.metadataShape),
    ("spec", .required, specShape),
    ("status", .optional, .nullable statusShape)]

end Projection

end SecretProjection
