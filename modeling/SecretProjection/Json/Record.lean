import SecretProjection.Json.Basic

/-!
# Records in JSON

Typed values are read from the members of an object.  A record may also be given as an array that
lists its fields in the order of their declaration; the fields that come last may then be left
out.  A field is required, optional (absent or null), or has a default that only an absent member
falls back to.
-/

namespace SecretProjection

universe u

namespace Json

/-- The fields of a record.  `leading` fields must be there when they are given as an array. -/
def fields? (names : List String) (leading : Nat) : Json -> Option (List (String × Json))
  | .object members => some members
  | .array items =>
      if leading ≤ items.length ∧ items.length ≤ names.length then some (names.zip items) else none
  | _ => none

def listOf? {α : Type u} (decode : Json -> Option α) : Json -> Option (List α)
  | .array items => items.mapM decode
  | _ => none

def tableOf? {α : Type u} (decode : Json -> Option α) : Json -> Option (Table α)
  | .object members =>
      (members.mapM fun entry => (decode entry.2).map fun value => (entry.1, value)).map
        Table.ofList
  | _ => none

def required {α : Type u} (decode : Json -> Option α) (key : String)
    (fields : List (String × Json)) : Option α :=
  (Entries.find? key fields).bind decode

/-- A field that may be absent or null. -/
def optional {α : Type u} (decode : Json -> Option α) (key : String)
    (fields : List (String × Json)) : Option (Option α) :=
  match Entries.find? key fields with
  | none => some none
  | some .null => some none
  | some value => (decode value).map some

def defaulted {α : Type u} (decode : Json -> Option α) (fallback : α) (key : String)
    (fields : List (String × Json)) : Option α :=
  match Entries.find? key fields with
  | none => some fallback
  | some value => decode value

/-- A field with a default for its absence and for null. -/
def lenient {α : Type u} (decode : Json -> Option α) (fallback : α) (key : String)
    (fields : List (String × Json)) : Option α :=
  (optional decode key fields).map fun value => value.getD fallback

/-- The member of an optional field, left out when it is unset. -/
def memberOf {α : Type u} (encode : α -> Json) (key : String) (value : Option α) :
    List (String × Json) :=
  match value with
  | none => []
  | some value => [(key, encode value)]

end Json

end SecretProjection
