import SecretProjection.Duration.Parser

/-!
# Searching durations

Another way to read a written duration is to search it for terms: from left to right, each search
going on behind the match before it, until nothing more is found.  A match may start anywhere, so
that a gap in front of it and a rest behind the last one have to be refused afterwards.

The pattern of a term is a row of digits, perhaps a point with more digits, and a unit.  It can be
met in several ways.  More digits are tried before fewer, a fraction before none, and the units in
the order in which they are listed; the first way that leads to the end of the pattern counts.
Which characters pass for digits is left open.  A match with a digit that is none of the ASCII ones
has a number that cannot be read.
-/

namespace SecretProjection

namespace Duration

/-- The units as they are written, in the order in which they are tried. -/
def TimeUnit.spellings : List (TimeUnit × List Char) :=
  [(.nanosecond, ['n', 's']), (.microsecond, ['u', 's']), (.microsecond, ['µ', 's']),
    (.millisecond, ['m', 's']), (.second, ['s']), (.minute, ['m']), (.hour, ['h'])]

namespace Search

/-! ## Matches -/

/-- What a match of the pattern holds: the digits before the point, those behind it if there is
one, and the unit. -/
structure Capture where
  whole : List Char
  fraction : Option (List Char)
  unit : TimeUnit
  deriving DecidableEq, Repr

/-- The ways to take digits off the start of a text, at least one, and what is left behind them.
The longest comes first. -/
def digitRuns (digit : Char -> Bool) : List Char -> List (List Char × List Char)
  | [] => []
  | c :: rest =>
      if digit c then
        (digitRuns digit rest).map (fun run => (c :: run.1, run.2)) ++ [([c], rest)]
      else []

/-- The ways to take a point with digits off the start of a text, and last the way to take
nothing. -/
def fractions (digit : Char -> Bool) (text : List Char) :
    List (Option (List Char) × List Char) :=
  (match text with
  | '.' :: rest => (digitRuns digit rest).map fun run => (some run.1, run.2)
  | _ => []) ++ [(none, text)]

/-- The units that a text starts with. -/
def units (text : List Char) : List (TimeUnit × List Char) :=
  TimeUnit.spellings.filterMap fun entry =>
    if entry.2.isPrefixOf text then some (entry.1, text.drop entry.2.length) else none

/-- The matches at the start of a text with what is left behind each, in the order of
preference. -/
def matchesAt (digit : Char -> Bool) (text : List Char) : List (Capture × List Char) :=
  (digitRuns digit text).flatMap fun whole =>
    (fractions digit whole.2).flatMap fun fraction =>
      (units fraction.2).map fun unit => (⟨whole.1, fraction.1, unit.1⟩, unit.2)

/-- A match somewhere in a text. -/
structure Found where
  /-- How many characters stand before it. -/
  start : Nat
  capture : Capture
  rest : List Char
  deriving DecidableEq, Repr

/-- The leftmost match in a text; of several at the same place the preferred one. -/
def find? (digit : Char -> Bool) : List Char -> Option Found
  | [] => none
  | c :: text =>
      match (matchesAt digit (c :: text)).head? with
      | some (capture, rest) => some ⟨0, capture, rest⟩
      | none => (find? digit text).map fun found => { found with start := found.start + 1 }

/-! ## What is left is shorter -/

theorem length_digitRuns {digit : Char -> Bool} {text : List Char} {run : List Char × List Char}
    (h : run ∈ digitRuns digit text) : run.2.length < text.length := by
  induction text generalizing run with
  | nil => cases h
  | cons c text ih =>
      by_cases hdigit : digit c = true
      · simp only [digitRuns, hdigit, if_true, List.mem_append, List.mem_map,
          List.mem_singleton] at h
        rcases h with ⟨shorter, hmem, rfl⟩ | rfl
        · have hshorter := ih hmem
          exact Nat.lt_succ_of_lt hshorter
        · exact Nat.lt_succ_self _
      · simp [digitRuns, hdigit] at h

theorem length_fractions {digit : Char -> Bool} {text : List Char}
    {fraction : Option (List Char) × List Char} (h : fraction ∈ fractions digit text) :
    fraction.2.length ≤ text.length := by
  unfold fractions at h
  rcases List.mem_append.mp h with hpoint | hnone
  · split at hpoint
    · rcases List.mem_map.mp hpoint with ⟨run, hmem, rfl⟩
      exact Nat.le_succ_of_le (Nat.le_of_lt (length_digitRuns hmem))
    · cases hpoint
  · cases List.mem_singleton.mp hnone
    exact Nat.le_refl _

theorem length_units {text : List Char} {unit : TimeUnit × List Char} (h : unit ∈ units text) :
    unit.2.length ≤ text.length := by
  rcases List.mem_filterMap.mp h with ⟨entry, _, hentry⟩
  split at hentry
  · cases hentry
    simp
  · cases hentry

theorem length_matchesAt {digit : Char -> Bool} {text : List Char} {found : Capture × List Char}
    (h : found ∈ matchesAt digit text) : found.2.length < text.length := by
  rcases List.mem_flatMap.mp h with ⟨whole, hwhole, h⟩
  rcases List.mem_flatMap.mp h with ⟨fraction, hfraction, h⟩
  rcases List.mem_map.mp h with ⟨unit, hunit, rfl⟩
  have hdigits := length_digitRuns hwhole
  have hpoint := length_fractions hfraction
  have hletters := length_units hunit
  exact Nat.lt_of_le_of_lt (Nat.le_trans hletters hpoint) hdigits

theorem length_find? {digit : Char -> Bool} {text : List Char} {found : Found}
    (h : find? digit text = some found) : found.rest.length < text.length := by
  induction text generalizing found with
  | nil => cases h
  | cons c text ih =>
      unfold find? at h
      split at h
      · rename_i capture rest hhead
        cases h
        exact length_matchesAt (List.mem_of_head? hhead)
      · rcases Option.map_eq_some_iff.mp h with ⟨later, hlater, rfl⟩
        have hshorter := ih hlater
        exact Nat.lt_succ_of_lt hshorter

/-! ## Sums -/

/-- The term of a match, if all of its digits are ASCII ones. -/
def Capture.term? (capture : Capture) : Option Term :=
  if (capture.whole ++ capture.fraction.getD []).all Text.isDigit then
    some ⟨capture.whole, capture.fraction.getD [], capture.unit⟩
  else none

/-- A sum of terms, which is lost once it leaves the floating point range. -/
def addTerm (sum : Option Nat) (term : Term) : Option Nat :=
  sum.bind fun sum => term.nanoseconds.bind fun n => Binary64.addWhole sum n

/-- Adds the terms that are found in a text.  There is no result when a match does not start where
the one before it ended, or has a number that cannot be read.  The second part of the result is
the text behind the last match. -/
def sumFrom? (digit : Char -> Bool) (sum : Option Nat) (text : List Char) :
    Option (Option Nat × List Char) :=
  match _ : find? digit text with
  | none => some (sum, text)
  | some found =>
      if found.start ≠ 0 then none
      else
        match found.capture.term? with
        | none => none
        | some term => sumFrom? digit (addTerm sum term) found.rest
termination_by text.length
decreasing_by exact length_find? ‹_›

/-- The duration that a text spells, found by searching it for terms. -/
def parse? (digit : Char -> Bool) (text : String) : Option Duration :=
  let trimmed := Text.trim text.toList
  if trimmed = ['0'] then some zero
  else if trimmed = [] then none
  else
    match sumFrom? digit (some 0) trimmed with
    | some (some sum, []) => if sum < Nat.pow 2 64 then some ⟨sum⟩ else none
    | _ => none

end Search

end Duration

end SecretProjection
