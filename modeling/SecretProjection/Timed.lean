import SecretProjection.Duration
import SecretProjection.Fault

/-!
# Timed attempts

An attempt takes time, leaves a trace of timed events, and ends in a value or a fault.  Attempts
run one after another, side by side, or under a deadline.

Side by side they all start at the same moment.  The first fault in time ends the whole, at equal
times the one that comes first in the list; what the others did up to then stays in the trace, and
of two events at the same moment the one of the earlier attempt comes first.
-/

namespace SecretProjection

universe u v w

/-- An attempt, told by what happens when nothing stops it.  The times of the trace are counted
from its start and do not decrease. -/
structure Timed (ε : Type u) (α : Type v) where
  trace : List (Duration × ε)
  elapsed : Duration
  result : Except Fault α

namespace Timed

/-! ## One after another -/

def pure {ε : Type u} {α : Type v} (value : α) : Timed ε α := ⟨[], .zero, .ok value⟩

def fail {ε : Type u} {α : Type v} (fault : Fault) : Timed ε α := ⟨[], .zero, .error fault⟩

def ofExcept {ε : Type u} {α : Type v} (result : Except Fault α) : Timed ε α :=
  ⟨[], .zero, result⟩

def event {ε : Type u} {α : Type v} (happening : ε) (delay : Duration)
    (result : Except Fault α) : Timed ε α :=
  ⟨[(.zero, happening)], delay, result⟩

/-- A trace that starts later. -/
def later {ε : Type u} (start : Duration) (trace : List (Duration × ε)) : List (Duration × ε) :=
  trace.map fun entry => (start + entry.1, entry.2)

def bind {ε : Type u} {α : Type v} {β : Type w} (first : Timed ε α) (next : α -> Timed ε β) :
    Timed ε β :=
  match first.result with
  | .error fault => ⟨first.trace, first.elapsed, .error fault⟩
  | .ok value =>
      let second := next value
      ⟨first.trace ++ later first.elapsed second.trace, first.elapsed + second.elapsed,
        second.result⟩

def map {ε : Type u} {α : Type v} {β : Type w} (f : α -> β) (attempt : Timed ε α) : Timed ε β :=
  ⟨attempt.trace, attempt.elapsed, attempt.result.map f⟩

def mapFault {ε : Type u} {α : Type v} (f : Fault -> Fault) (attempt : Timed ε α) : Timed ε α :=
  ⟨attempt.trace, attempt.elapsed, attempt.result.mapError f⟩

/-- The events in order, without their times. -/
def events {ε : Type u} {α : Type v} (attempt : Timed ε α) : List ε := attempt.trace.map (·.2)

/-! ## Under a deadline -/

/-- Cuts an attempt at a limit.  What ends exactly at the limit counts as done. -/
def within {ε : Type u} {α : Type v} (limit : Duration) (late : Fault) (attempt : Timed ε α) :
    Timed ε α :=
  if attempt.elapsed ≤ limit then attempt
  else ⟨attempt.trace.filter fun entry => decide (entry.1 ≤ limit), limit, .error late⟩

/-! ## Side by side -/

/-- A fault with the time and the position of the attempt it ends. -/
structure Failure where
  time : Duration
  index : Nat
  fault : Fault
  deriving DecidableEq, Repr

/-- The fault that comes first; `index` is the position of the first attempt. -/
def firstFailure {ε : Type u} {α : Type v} (index : Nat) : List (Timed ε α) -> Option Failure
  | [] => none
  | attempt :: rest =>
      match attempt.result, firstFailure (index + 1) rest with
      | .ok _, other => other
      | .error fault, none => some ⟨attempt.elapsed, index, fault⟩
      | .error fault, some other =>
          if attempt.elapsed ≤ other.time then some ⟨attempt.elapsed, index, fault⟩
          else some other

/-- Whether an event of the attempt at `index` happens before a failure ends everything. -/
def Failure.allows (failure : Failure) (index : Nat) (time : Duration) : Bool :=
  if index ≤ failure.index then decide (time ≤ failure.time) else decide (time < failure.time)

/-- The traces of attempts as far as `keep` allows, merged by time. -/
def mergeTraces {ε : Type u} {α : Type v} (keep : Nat -> Duration -> Bool) (index : Nat) :
    List (Timed ε α) -> List (Duration × ε)
  | [] => []
  | attempt :: rest =>
      List.merge (attempt.trace.filter fun entry => keep index entry.1)
        (mergeTraces keep (index + 1) rest) fun a b => decide (a.1 ≤ b.1)

def values {ε : Type u} {α : Type v} : List (Timed ε α) -> List α
  | [] => []
  | attempt :: rest =>
      match attempt.result with
      | .ok value => value :: values rest
      | .error _ => values rest

def longest {ε : Type u} {α : Type v} : List (Timed ε α) -> Duration
  | [] => .zero
  | attempt :: rest => attempt.elapsed.longer (longest rest)

def all {ε : Type u} {α : Type v} (attempts : List (Timed ε α)) : Timed ε (List α) :=
  match firstFailure 0 attempts with
  | none => ⟨mergeTraces (fun _ _ => true) 0 attempts, longest attempts, .ok (values attempts)⟩
  | some failure =>
      ⟨mergeTraces failure.allows 0 attempts, failure.time, .error failure.fault⟩

end Timed

end SecretProjection
