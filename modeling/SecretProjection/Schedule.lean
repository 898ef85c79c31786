import SecretProjection.Projection.Basic

/-!
# Schedules

The time between two synchronisations is the refresh period of the spec, or else a percentage of
the shortest lease that expires at all, or else nothing: then only a change leads to a
synchronisation.  The percentage is taken exactly, in milliseconds.
-/

namespace SecretProjection

namespace Schedule

open Projection

/-! ## Intervals -/

def period (text : String) : Except SpecFault Duration :=
  match Duration.parse? text with
  | some d => .ok d
  | none => .error (.badDuration text)

def percentage (threshold : UInt32) : Except SpecFault Nat :=
  if 1 ≤ threshold.toNat ∧ threshold.toNat ≤ 100 then .ok threshold.toNat
  else .error (.thresholdOutOfRange threshold)

def least? : List Nat -> Option Nat
  | [] => none
  | n :: rest =>
      match least? rest with
      | none => some n
      | some m => some (min n m)

/-- The length in seconds of the shortest lease that expires. -/
def shortestLease (leases : List Lease) : Option Nat :=
  least? ((leases.map (·.leaseDuration.toNat)).filter (0 < ·))

/-- The largest number of milliseconds that is counted. -/
def maxMilliseconds : Nat := Nat.pow 2 64 - 1

/-- A percentage of a number of seconds, unless it has too many milliseconds. -/
def share (seconds percent : Nat) : Duration :=
  .ofMilliseconds (min maxMilliseconds (min maxMilliseconds (seconds * percent) * 10))

def interval (spec : Spec) (leases : List Lease) : Except SpecFault (Option Duration) :=
  match spec.refreshPeriod with
  | some text => (period text).map some
  | none =>
      match shortestLease leases with
      | none => .ok none
      | some seconds => (percentage spec.refreshThreshold).map fun p => some (share seconds p)

/-! ## Instants -/

/-- The time planned for the next synchronisation, if the last one and the interval are known and
the time lies within the range of instants. -/
def next (interval : Option Duration) (last : Option Instant) : Option Instant :=
  match last, interval with
  | some last, some interval => last.after? interval
  | _, _ => none

def isDue (interval : Option Duration) (last : Option Instant) (now : Instant) : Bool :=
  match last, next interval last with
  | none, _ => true
  | some _, none => false
  | some _, some next => decide (next ≤ now)

def shortestWait : Duration := .ofSeconds 1

def wait (next now : Instant) : Duration := (now.timeTo next).longer shortestWait

/-! ## Validation -/

def checkPeriod (spec : Spec) : Except SpecFault Unit :=
  match spec.refreshPeriod with
  | none => .ok ()
  | some text =>
      match period text with
      | .error fault => .error fault
      | .ok d => if d = .zero then .error .zeroPeriod else .ok ()

/-- Checks that every definition asks for one mechanism. -/
def checkMechanisms : List Definition -> Except SpecFault Unit
  | [] => .ok ()
  | definition :: rest =>
      match definition.authentication.mechanism with
      | .error fault => .error (.inDefinition definition.name fault)
      | .ok _ => checkMechanisms rest

/-- Checks that a spec can be followed.  The first fault counts. -/
def validate (spec : Spec) : Except SpecFault Unit :=
  match percentage spec.refreshThreshold with
  | .error fault => .error fault
  | .ok _ =>
      match checkPeriod spec with
      | .error fault => .error fault
      | .ok () => checkMechanisms spec.definitions

end Schedule

end SecretProjection
