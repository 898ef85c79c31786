import SecretProjection.Cluster.Condition
import SecretProjection.Duration.Parser
import SecretProjection.Fault
import SecretProjection.Url.Basic

/-!
# Projections

A projection keeps one secret of the cluster equal to a document rendered from secrets of Vault.
Its spec names the Vault secrets, how to get at them, and the templates of the document; its
status records the last synchronisation.
-/

namespace SecretProjection

namespace Projection

/-! ## Definitions -/

/-- A login with the identity of a service account. -/
structure ServiceLogin where
  path : String
  role : String
  serviceAccount : String
  deriving DecidableEq, Repr

structure SecretKey where
  name : String
  key : String
  deriving DecidableEq, Repr

/-- How to obtain a Vault token.  Exactly one of the two ways has to be set. -/
structure Authentication where
  service : Option ServiceLogin
  token : Option SecretKey
  /-- The namespace inside Vault, for the login and for the reads. -/
  vaultNamespace : Option String
  deriving DecidableEq, Repr

inductive Mechanism where
  | service (login : ServiceLogin)
  | token (key : SecretKey)
  deriving DecidableEq, Repr

structure Definition where
  /-- The key of the payload in the data of the templates. -/
  name : String
  authentication : Authentication
  path : String
  deriving DecidableEq, Repr

/-! ## Specs -/

/-- The secret to be written, with a template for each of its keys. -/
structure OutputSpec where
  name : String
  type : String
  stringData : Table String
  labels : Table String
  annotations : Table String
  deriving DecidableEq

structure Spec where
  /-- A fixed period, which takes the place of the schedule by leases. -/
  refreshPeriod : Option String
  /-- The percentage of the shortest lease after which to read again. -/
  refreshThreshold : UInt32
  definitions : List Definition
  output : OutputSpec
  deriving DecidableEq

/-! ## Statuses -/

/-- What the last read of a definition said about its lease. -/
structure Lease where
  name : String
  leaseId : String
  leaseDuration : UInt64
  renewable : Bool
  deriving DecidableEq, Repr

structure Status where
  conditions : List Cluster.Condition
  lastUpdate : Option Instant
  nextUpdate : Option Instant
  leases : List Lease
  deriving DecidableEq

/-- The status without any record. -/
def Status.empty : Status := ⟨[], none, none, []⟩

instance : Inhabited Status := ⟨.empty⟩

end Projection

structure Projection where
  metadata : Cluster.Metadata
  spec : Projection.Spec
  status : Option Projection.Status
  deriving DecidableEq

namespace Projection

/-! ## Recorded facts -/

/-- The time of the last successful synchronisation. -/
def lastSync (unit : Projection) : Option Instant := unit.status.bind (·.lastUpdate)

/-- The time planned for the next synchronisation. -/
def nextSync (unit : Projection) : Option Instant := unit.status.bind (·.nextUpdate)

/-- The leases of the last successful synchronisation. -/
def leases (unit : Projection) : List Lease := (unit.status.map (·.leases)).getD []

/-- The condition recorded last. -/
def lastCondition (unit : Projection) : Option Cluster.Condition :=
  unit.status.bind fun status => status.conditions.getLast?

/-- The namespace and name under which the document is stored. -/
def outputKey (unit : Projection) : String × String :=
  (unit.metadata.namespaceText, unit.spec.output.name)

/-! ## Faults of a spec -/

inductive SpecFault where
  | thresholdOutOfRange (threshold : UInt32)
  | badDuration (text : String)
  | zeroPeriod
  | noMechanism
  | twoMechanisms
  | repeatedName (name : String)
  /-- A definition asks for no mechanism or for two. -/
  | inDefinition (name : String) (fault : SpecFault)
  | noNamespace
  | badPath (path : String) (fault : Url.Fault)
  deriving DecidableEq, Repr

def SpecFault.text : SpecFault -> String
  | .thresholdOutOfRange threshold =>
      "refreshThreshold must be between 1 and 100, got " ++ toString threshold.toNat
  | .badDuration text =>
      "invalid duration '" ++ text ++ "': expected e.g. '30s', '5m', '1h30m'"
  | .zeroPeriod => "refreshPeriod must be greater than zero"
  | .noMechanism => "authentication must configure one of kubernetes or token"
  | .twoMechanisms => "authentication must configure only one of kubernetes or token"
  | .repeatedName name => "duplicate vaultSecretDefinition name '" ++ name ++ "'"
  | .inDefinition name fault =>
      "definition '" ++ name ++ "': " ++ FaultKind.invalidSpec.heading ++ fault.text
  | .noNamespace => "VaultSecret has no namespace"
  | .badPath path fault => "invalid Vault path '" ++ path ++ "': " ++ fault.message

/-- The fault of a synchronisation with a wrong spec. -/
def SpecFault.toFault (fault : SpecFault) : Fault := ⟨.invalidSpec, fault.text⟩

/-! ## Mechanisms -/

def Authentication.mechanism (auth : Authentication) : Except SpecFault Mechanism :=
  match auth.service, auth.token with
  | some login, none => .ok (.service login)
  | none, some key => .ok (.token key)
  | none, none => .error .noMechanism
  | some _, some _ => .error .twoMechanisms

end Projection

end SecretProjection
