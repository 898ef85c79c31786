import SecretProjection.Output.Basic

/-!
# Secrets in memory

A store that keeps its secrets in a table under `namespace/name`.  Each write gives the secret the
next version.  Both operations may be slowed down or made to fail, and leave a line in the log.
A write that fails, or that a deadline cuts off, stores nothing.
-/

namespace SecretProjection

namespace Output

open Cluster

structure Behaviour where
  delay : Duration
  /-- The fault to end in, if any. -/
  fault : Option Fault
  deriving DecidableEq

def Behaviour.plain : Behaviour := ⟨.zero, none⟩

structure Memory where
  secrets : Table Secret
  writes : Nat
  onGet : Behaviour
  onWrite : Behaviour
  deriving DecidableEq

namespace Memory

/-- The store without secrets. -/
def empty : Memory := ⟨.empty, 0, .plain, .plain⟩

def keyOf (space name : String) : String := space ++ "/" ++ name

def keyOfSecret (secret : Secret) : String := keyOf secret.key.1 secret.key.2

/-- The result of an operation under a behaviour. -/
def resultOf {α : Type} (behaviour : Behaviour) (value : α) : Except Fault α :=
  match behaviour.fault with
  | some fault => .error fault
  | none => .ok value

def get (memory : Memory) (space name : String) : Timed String (Option Secret) :=
  let key := keyOf space name
  .event ("get " ++ key) memory.onGet.delay (resultOf memory.onGet (memory.secrets.get? key))

def writeLine (secret : Secret) : String :=
  match secret.metadata.resourceVersion with
  | none => "create " ++ keyOfSecret secret
  | some version => "replace " ++ keyOfSecret secret ++ " at " ++ version

def put (memory : Memory) (secret : Secret) : Memory :=
  let version := memory.writes + 1
  let stored := { secret with
    metadata := { secret.metadata with resourceVersion := some (toString version) } }
  { memory with
    secrets := memory.secrets.insert (keyOfSecret secret) stored
    writes := version }

def write (memory : Memory) (secret : Secret) : Timed String Memory :=
  .event (writeLine secret) memory.onWrite.delay (resultOf memory.onWrite (memory.put secret))

def toStore : Store String Memory := ⟨get, write⟩

end Memory

end Output

end SecretProjection
