/-!
# Faults of a synchronisation

A synchronisation fails in one of eight ways.  What went wrong in particular is told in words,
because most faults come from collaborators: the cluster, the secret source, the output store.
-/

namespace SecretProjection

inductive FaultKind where
  | cluster
  | authentication
  | notFound
  | unavailable
  | template
  | outputWrite
  | invalidSpec
  | deadline
  deriving DecidableEq, Repr

def FaultKind.heading : FaultKind -> String
  | .cluster => "Kubernetes API error: "
  | .authentication => "Authentication failed: "
  | .notFound => "Secret not found: "
  | .unavailable => "Secret source unavailable: "
  | .template => "Template error: "
  | .outputWrite => "Output write failed: "
  | .invalidSpec => "Invalid spec: "
  | .deadline => "Deadline exceeded: "

def FaultKind.reason : FaultKind -> String
  | .cluster => "KubernetesApiError"
  | .authentication => "AuthenticationFailed"
  | .notFound => "SecretNotFound"
  | .unavailable => "SourceUnavailable"
  | .template => "TemplateFailed"
  | .outputWrite => "OutputWriteFailed"
  | .invalidSpec => "InvalidSpec"
  | .deadline => "DeadlineExceeded"

structure Fault where
  kind : FaultKind
  text : String
  deriving DecidableEq, Repr

namespace Fault

def reason (fault : Fault) : String := fault.kind.reason

def message (fault : Fault) : String := fault.kind.heading ++ fault.text

/-- Whether a fault may speak of one definition only. -/
def isOfSource (fault : Fault) : Bool :=
  fault.kind == .authentication || fault.kind == .notFound || fault.kind == .unavailable ||
    fault.kind == .invalidSpec

/-- Names the definition that a fault of the source belongs to.  Other faults stay as they
are. -/
def ofDefinition (name : String) (fault : Fault) : Fault :=
  if fault.isOfSource then { fault with text := "definition '" ++ name ++ "': " ++ fault.text }
  else fault

end Fault

end SecretProjection
