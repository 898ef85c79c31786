import SecretProjection.Projection.Basic
import SecretProjection.Timed

/-!
# Secret sources

A secret source grants sessions and reads payloads under paths.  A definition is read with a
session of its own, which nothing else uses.  All definitions of a projection are read side by
side, and either every one of them succeeds or there is no result.

Definitions that ask for the same thing need not be answered alike, so that a source answers
each position of a projection by a reader of its own.
-/

namespace SecretProjection

universe u v

open Projection

/-! ## Sources -/

structure Reading where
  value : Table Json
  leaseId : String
  leaseDuration : UInt64
  renewable : Bool
  deriving DecidableEq

/-- How the requests of one definition are answered, with sessions `σ` and events `ε`. -/
structure SecretReader (ε : Type u) (σ : Type v) where
  /-- Asks for a session; the second argument is the namespace of the projection. -/
  authenticate : Authentication -> String -> Timed ε σ
  read : σ -> String -> Timed ε Reading

/-- A source of secrets: a reader for each position of the definitions. -/
abbrev SecretSource (ε : Type u) (σ : Type v) := Nat -> SecretReader ε σ

def Reading.payload (reading : Reading) : Json := .object reading.value.entries

/-- The lease of a reading under the name of its definition. -/
def Reading.lease (name : String) (reading : Reading) : Lease :=
  ⟨name, reading.leaseId, reading.leaseDuration, reading.renewable⟩

def SecretReader.readDefinition {ε : Type u} {σ : Type v} (reader : SecretReader ε σ)
    (space : String) (definition : Definition) : Timed ε Reading :=
  ((reader.authenticate definition.authentication space).bind fun session =>
    reader.read session definition.path).mapFault (.ofDefinition definition.name)

/-- The attempts to read some definitions, each at its position. -/
def SecretSource.attempts {ε : Type u} {σ : Type v} (source : SecretSource ε σ) (space : String)
    (definitions : List Definition) : List (Timed ε Reading) :=
  definitions.zipIdx.map fun request => (source request.2).readDefinition space request.1

/-! ## Aggregates -/

/-- The payloads of all definitions by name, and their leases in the order of the definitions. -/
structure Aggregate where
  merged : Table Json
  leases : List Lease
  deriving DecidableEq

namespace Aggregate

/-- The aggregate without definitions. -/
def empty : Aggregate := ⟨.empty, []⟩

def addAll (aggregate : Aggregate) : List (Definition × Reading) -> Aggregate
  | [] => aggregate
  | (definition, reading) :: rest =>
      addAll ⟨aggregate.merged.insert definition.name reading.payload,
        aggregate.leases ++ [reading.lease definition.name]⟩ rest

/-- The first name that a row of definitions repeats; `seen` holds the names before the row. -/
def repeatedName? (seen : List String) : List Definition -> Option String
  | [] => none
  | definition :: rest =>
      if definition.name ∈ seen then some definition.name
      else repeatedName? (definition.name :: seen) rest

/-- Reads all definitions side by side.  A repeated name is refused before anything is read. -/
def read {ε : Type u} {σ : Type v} (source : SecretSource ε σ) (space : String)
    (definitions : List Definition) : Timed ε Aggregate :=
  match repeatedName? [] definitions with
  | some name => .fail (SpecFault.repeatedName name).toFault
  | none =>
      (Timed.all (source.attempts space definitions)).map fun readings =>
        empty.addAll (definitions.zip readings)

end Aggregate

end SecretProjection
