import SecretProjection.Source.Basic

/-!
# Scripted sources

A scripted source answers from two tables: one entry for each identity that asks for a session and
one for each path.  An entry has a delay and an outcome, whichever definition the request is for.
Every request leaves a line in the log.
An identity without an entry is let in, a path without an entry holds nothing.
-/

namespace SecretProjection

open Projection

structure ScriptEntry where
  delay : Duration
  /-- The fault to end in, if any. -/
  fault : Option Fault
  reading : Reading
  deriving DecidableEq

structure Script where
  identities : Table ScriptEntry
  paths : Table ScriptEntry
  deriving DecidableEq

namespace Script

def identity : Mechanism -> String
  | .service login =>
      "k8s:" ++ login.path ++ ":" ++ login.role ++ ":" ++ login.serviceAccount
  | .token key => "token:" ++ key.name ++ ":" ++ key.key

def authLine (identity space : String) (vaultNamespace : Option String) : String :=
  "auth " ++ identity ++ " ns=" ++ space ++ " vaultns=" ++ vaultNamespace.getD "-"

def readLine (path identity : String) : String := "read " ++ path ++ " as " ++ identity

def authenticate (script : Script) (auth : Authentication) (space : String) :
    Timed String String :=
  match auth.mechanism with
  | .error fault => .fail fault.toFault
  | .ok mechanism =>
      let identity := identity mechanism
      let line := authLine identity space auth.vaultNamespace
      match script.identities.get? identity with
      | none => .event line .zero (.ok identity)
      | some entry =>
          match entry.fault with
          | some fault => .event line entry.delay (.error fault)
          | none => .event line entry.delay (.ok identity)

def read (script : Script) (session path : String) : Timed String Reading :=
  let line := readLine path session
  match script.paths.get? path with
  | none => .event line .zero (.error ⟨.notFound, path⟩)
  | some entry =>
      match entry.fault with
      | some fault => .event line entry.delay (.error fault)
      | none => .event line entry.delay (.ok entry.reading)

def reader (script : Script) : SecretReader String String :=
  ⟨script.authenticate, script.read⟩

def toSource (script : Script) : SecretSource String String := fun _ => script.reader

end Script

end SecretProjection
