import SecretProjection.Binary64
import SecretProjection.Table

/-!
# JSON values

Numbers are either integers that fit 64 bits or floating point numbers.  The members of an object
are kept in the order of their keys, each key once: reading and building go through
`Entries.insert`.
-/

namespace SecretProjection

universe u

inductive JsonNumber where
  | integer (value : Int)
  | float (negative : Bool) (magnitude : Binary64)
  deriving DecidableEq, Repr

inductive Json where
  | null
  | bool (value : Bool)
  | number (value : JsonNumber)
  | string (value : String)
  | array (items : List Json)
  | object (members : List (String × Json))
  deriving Repr

namespace Json

instance : Inhabited Json := ⟨.null⟩

/-! ## Building -/

def ofNat (n : Nat) : Json := .number (.integer n)

def ofInt (n : Int) : Json := .number (.integer n)

/-- The object with the given members; the last of equal keys wins. -/
def ofMembers (members : List (String × Json)) : Json := .object (Entries.ofList members)

def ofTable {α : Type u} (f : α -> Json) (table : Table α) : Json :=
  .object (table.entries.map fun entry => (entry.1, f entry.2))

/-! ## Equality -/

mutual

def same : Json -> Json -> Bool
  | .null, .null => true
  | .bool a, .bool b => a == b
  | .number a, .number b => decide (a = b)
  | .string a, .string b => a == b
  | .array a, .array b => sameItems a b
  | .object a, .object b => sameMembers a b
  | _, _ => false

def sameItems : List Json -> List Json -> Bool
  | [], [] => true
  | a :: as, b :: bs => same a b && sameItems as bs
  | _, _ => false

def sameMembers : List (String × Json) -> List (String × Json) -> Bool
  | [], [] => true
  | (k, a) :: as, (l, b) :: bs => k == l && same a b && sameMembers as bs
  | _, _ => false

end

mutual

theorem same_iff : (a b : Json) -> (same a b = true <-> a = b)
  | .null, b => by cases b <;> simp [same]
  | .bool _, b => by cases b <;> simp [same]
  | .number _, b => by cases b <;> simp [same]
  | .string _, b => by cases b <;> simp [same]
  | .array as, b => by
      cases b with
      | array bs => simpa [same] using sameItems_iff as bs
      | _ => simp [same]
  | .object as, b => by
      cases b with
      | object bs => simpa [same] using sameMembers_iff as bs
      | _ => simp [same]

theorem sameItems_iff : (a b : List Json) -> (sameItems a b = true <-> a = b)
  | [], b => by cases b <;> simp [sameItems]
  | x :: xs, b => by
      cases b with
      | nil => simp [sameItems]
      | cons y ys => simp [sameItems, same_iff x y, sameItems_iff xs ys]

theorem sameMembers_iff : (a b : List (String × Json)) -> (sameMembers a b = true <-> a = b)
  | [], b => by cases b <;> simp [sameMembers]
  | (k, x) :: xs, b => by
      cases b with
      | nil => simp [sameMembers]
      | cons y ys =>
          rcases y with ⟨l, y⟩
          simp [sameMembers, same_iff x y, sameMembers_iff xs ys, and_assoc]

end

instance : DecidableEq Json := fun a b =>
  decidable_of_iff (same a b = true) (same_iff a b)

/-! ## Looking inside -/

def member? (key : String) : Json -> Option Json
  | .object members => Entries.find? key members
  | _ => none

def string? : Json -> Option String
  | .string s => some s
  | _ => none

def bool? : Json -> Option Bool
  | .bool b => some b
  | _ => none

def members? : Json -> Option (List (String × Json))
  | .object members => some members
  | _ => none

def items? : Json -> Option (List Json)
  | .array items => some items
  | _ => none

/-- An integer of at least `low` and below `bound`. -/
def integer? (low bound : Int) : Json -> Option Int
  | .number (.integer n) => if low ≤ n ∧ n < bound then some n else none
  | _ => none

def natural? (bound : Nat) (value : Json) : Option Nat :=
  (value.integer? 0 bound).map Int.toNat

/-- A signed integer of 64 bits. -/
def int64? (value : Json) : Option Int := value.integer? (-Int.pow 2 63) (Int.pow 2 63)

end Json

end SecretProjection
