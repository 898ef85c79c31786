import SecretProjection.Cluster.Metadata

/-!
# Conditions

A condition tells in words and in terms of the interface how an object stands, and which
generation of the object it speaks of.
-/

namespace SecretProjection

namespace Cluster

structure Condition where
  lastTransitionTime : Instant
  message : String
  observedGeneration : Option Int64
  reason : String
  status : String
  type : String
  deriving DecidableEq

namespace Condition

def toJson (c : Condition) : Json :=
  .ofMembers (
    [("lastTransitionTime", .ofInstant c.lastTransitionTime), ("message", .string c.message)] ++
    Json.memberOf .ofSignedWord "observedGeneration" c.observedGeneration ++
    [("reason", .string c.reason), ("status", .string c.status), ("type", .string c.type)])

/-- The condition of a written form.  An absent text is empty and an absent time the epoch. -/
def ofJson? (value : Json) : Option Condition := do
  let members <- value.members?
  let lastTransitionTime <- Json.lenient Json.instant? .epoch "lastTransitionTime" members
  let message <- Json.lenient Json.string? "" "message" members
  let observedGeneration <- Json.optional Json.signedWord? "observedGeneration" members
  let reason <- Json.lenient Json.string? "" "reason" members
  let status <- Json.lenient Json.string? "" "status" members
  let type <- Json.lenient Json.string? "" "type" members
  return { lastTransitionTime, message, observedGeneration, reason, status, type }

end Condition

end Cluster

end SecretProjection
