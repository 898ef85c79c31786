import SecretProjection.Text.Digits

/-!
# Versions of an interface

The versions of a group have an order of preference: stable versions come first, then beta, then
alpha versions, in each of these the higher number first; names that follow no such scheme come
last, in the order of their letters.
-/

namespace SecretProjection

namespace Cluster

/-- How far a version has come. -/
inductive Stability where
  | alpha
  | beta
  | stable
  deriving DecidableEq, Repr

/-- A stage as a number, the stable one as the largest. -/
def Stability.rank : Stability -> Nat
  | .alpha => 0
  | .beta => 1
  | .stable => 2

inductive ApiVersion where
  /-- A major number, a stage and a number within the stage. -/
  | regular (major : Nat) (stage : Stability) (minor : Option Nat)
  | other (name : String)
  deriving DecidableEq, Repr

namespace ApiVersion

/-- A number of 32 bits, perhaps behind a plus sign. -/
def number? (text : List Char) : Option Nat :=
  let digits := match text with
    | '+' :: digits => digits
    | digits => digits
  (Text.natural? digits).filter (· < Nat.pow 2 32)

/-- The number behind the word for a stage, which may be left out. -/
def minor? (text : List Char) : Option (Option Nat) :=
  match text with
  | [] => some none
  | text => (number? text).map some

/-- Drops the given characters from the start of a text. -/
def behind? : List Char -> List Char -> Option (List Char)
  | [], text => some text
  | c :: word, d :: text => if c = d then behind? word text else none
  | _ :: _, [] => none

/-- The version of a name that follows the scheme. -/
def regular? (name : List Char) : Option ApiVersion := do
  let rest <- behind? ['v'] name
  let major <- number? (rest.takeWhile Text.isDigit)
  let stage := rest.dropWhile Text.isDigit
  if stage = [] then return .regular major .stable none
  match behind? "alpha".toList stage with
  | some rest => return .regular major .alpha (<- minor? rest)
  | none =>
      let rest <- behind? "beta".toList stage
      return .regular major .beta (<- minor? rest)

def ofName (name : String) : ApiVersion := (regular? name.toList).getD (.other name)

/-- A number that may be missing, as a number. -/
def minorRank : Option Nat -> Nat
  | none => 0
  | some n => n + 1

/-- Whether a version is at least as good as another one. -/
def precedes : ApiVersion -> ApiVersion -> Bool
  | .regular a s m, .regular b t n =>
      if s.rank ≠ t.rank then decide (t.rank < s.rank)
      else if a ≠ b then decide (b < a)
      else decide (minorRank n ≤ minorRank m)
  | .regular _ _ _, .other _ => true
  | .other _, .regular _ _ _ => false
  | .other a, .other b => decide (a ≤ b)

end ApiVersion

end Cluster

end SecretProjection
