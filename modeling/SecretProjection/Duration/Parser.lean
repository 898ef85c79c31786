import SecretProjection.Binary64
import SecretProjection.Duration
import SecretProjection.Text.Blank
import SecretProjection.Text.Digits

/-!
# Reading durations

A written duration is a row of terms, each a decimal number with a unit, such as `1h30m` or
`1.5h`; a lone `0` needs no unit.  White space is allowed around the row and nowhere inside.

A term is worth the product of its number and its unit, taken in binary floating point and
rounded to whole nanoseconds, and the terms are added in binary floating point.  The sum has to
stay below `2 ^ 64` nanoseconds.
-/

namespace SecretProjection

namespace Duration

/-! ## Terms -/

inductive TimeUnit where
  | nanosecond
  | microsecond
  | millisecond
  | second
  | minute
  | hour
  deriving DecidableEq, Repr

def TimeUnit.nanoseconds : TimeUnit -> Nat
  | .nanosecond => 1
  | .microsecond => 1000
  | .millisecond => 1000000
  | .second => 1000000000
  | .minute => 60000000000
  | .hour => 3600000000000

/-- The unit at the start of a text and what follows it.  A unit that another one starts with
wins only when the longer one does not fit. -/
def TimeUnit.read? : List Char -> Option (TimeUnit × List Char)
  | 'n' :: 's' :: rest => some (.nanosecond, rest)
  | 'u' :: 's' :: rest => some (.microsecond, rest)
  | 'µ' :: 's' :: rest => some (.microsecond, rest)
  | 'm' :: 's' :: rest => some (.millisecond, rest)
  | 's' :: rest => some (.second, rest)
  | 'm' :: rest => some (.minute, rest)
  | 'h' :: rest => some (.hour, rest)
  | _ => none

/-- A decimal number with a unit.  `fraction` holds the digits behind the point. -/
structure Term where
  whole : List Char
  fraction : List Char
  unit : TimeUnit
  deriving DecidableEq, Repr

/-- The digits of a fraction and what follows them.  Without a point there are none; a point
needs a digit behind it. -/
def Term.readFraction? : List Char -> Option (List Char × List Char)
  | '.' :: rest =>
      if rest.takeWhile Text.isDigit = [] then none
      else some (rest.takeWhile Text.isDigit, rest.dropWhile Text.isDigit)
  | text => some ([], text)

/-- The term at the start of a text and what follows it. -/
def Term.read? (text : List Char) : Option (Term × List Char) :=
  let whole := text.takeWhile Text.isDigit
  if whole = [] then none
  else
    match Term.readFraction? (text.dropWhile Text.isDigit) with
    | none => none
    | some (fraction, rest) =>
        (TimeUnit.read? rest).map fun found => (⟨whole, fraction, found.1⟩, found.2)

/-! ## What is left is shorter -/

theorem TimeUnit.length_read? {text rest : List Char} {unit : TimeUnit}
    (h : TimeUnit.read? text = some (unit, rest)) : rest.length < text.length := by
  unfold TimeUnit.read? at h
  split at h <;> simp at h <;> rcases h with ⟨-, rfl⟩ <;> simp +arith

theorem Term.length_readFraction? {text digits rest : List Char}
    (h : Term.readFraction? text = some (digits, rest)) : rest.length ≤ text.length := by
  unfold Term.readFraction? at h
  split at h
  · split at h
    · simp at h
    · simp only [Option.some.injEq, Prod.mk.injEq] at h
      rcases h with ⟨-, rfl⟩
      exact Nat.le_succ_of_le (List.dropWhile_sublist Text.isDigit).length_le
  · simp only [Option.some.injEq, Prod.mk.injEq] at h
    rcases h with ⟨-, rfl⟩
    exact Nat.le_refl _

theorem Term.length_read? {text rest : List Char} {term : Term}
    (h : Term.read? text = some (term, rest)) : rest.length < text.length := by
  unfold Term.read? at h
  simp only at h
  split at h
  · simp at h
  · split at h
    · simp at h
    · rename_i fraction after hfraction
      rcases Option.map_eq_some_iff.mp h with ⟨found, hfound, heq⟩
      simp only [Prod.mk.injEq] at heq
      rcases heq with ⟨-, rfl⟩
      have h1 := TimeUnit.length_read? hfound
      have h2 := Term.length_readFraction? hfraction
      have h3 := (List.dropWhile_sublist Text.isDigit (l := text)).length_le
      omega

/-! ## Rows of terms -/

/-- The terms of a text that consists of terms only. -/
def terms? (text : List Char) : Option (List Term) :=
  match text with
  | [] => some []
  | c :: rest =>
      match _ : Term.read? (c :: rest) with
      | none => none
      | some (term, after) => (terms? after).map (term :: ·)
termination_by text.length
decreasing_by exact Term.length_read? ‹_›

/-! ## Values -/

/-- The whole nanoseconds of a term, unless they lie beyond the floating point range. -/
def Term.nanoseconds (term : Term) : Option Nat :=
  let digits := Text.digitsValue (term.whole ++ term.fraction)
  ((Binary64.ofDecimal digits (-term.fraction.length)).bind fun number =>
    number.scaleBy term.unit.nanoseconds).map Binary64.round

/-- The sum of the terms on top of a total. -/
def total (sum : Nat) : List Term -> Option Nat
  | [] => some sum
  | term :: rest =>
      match term.nanoseconds with
      | none => none
      | some n =>
          match Binary64.addWhole sum n with
          | none => none
          | some sum => total sum rest

/-- The duration of a row of terms, unless it has `2 ^ 64` nanoseconds or more. -/
def ofTerms? (terms : List Term) : Option Duration :=
  match total 0 terms with
  | none => none
  | some n => if n < Nat.pow 2 64 then some ⟨n⟩ else none

/-- The duration that a text without outer white space spells. -/
def ofChars? : List Char -> Option Duration
  | [] => none
  | ['0'] => some zero
  | text => (terms? text).bind ofTerms?

def parse? (text : String) : Option Duration := ofChars? (Text.trim text.toList)

end Duration

end SecretProjection
