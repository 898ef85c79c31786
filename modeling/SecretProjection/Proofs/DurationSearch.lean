import SecretProjection.Proofs.WrittenDurations
import SecretProjection.Schedule

/-!
# Searches and the grammar of durations

The search for terms can meet its pattern in several ways, anywhere in the text, and with digits
that are none.  None of this shows: a run of digits can only be taken as a whole, because neither
a point nor a unit starts with a digit, and where the first match is no term the rest of the text
is refused in one way or another.  So the search finds the durations of the grammar, whatever
passes for a digit.
-/

namespace SecretProjection

namespace Duration

/-!
# Sums
-/

namespace Search

theorem foldl_addTerm (n : Nat) (terms : List Term) :
    terms.foldl addTerm (some n) = total n terms := by
  have hnone (terms : List Term) : terms.foldl addTerm none = none := by
    induction terms with
    | nil => rfl
    | cons term terms ih => exact ih
  induction terms generalizing n with
  | nil => rfl
  | cons term terms ih =>
      rw [List.foldl_cons, total]
      cases hvalue : term.nanoseconds with
      | none => simp only [addTerm, hvalue, Option.bind_some, Option.bind_none, hnone]
      | some value =>
          cases hsum : Binary64.addWhole n value with
          | none => simp only [addTerm, hvalue, hsum, Option.bind_some, hnone]
          | some sum => simp only [addTerm, hvalue, hsum, Option.bind_some, ih]

/-!
# Classes of digits
-/

/-- What has to hold of the characters that pass for digits.  All ASCII digits are among them; the
point and the letters of the units are not. -/
structure DigitClass (digit : Char -> Bool) : Prop where
  ascii : forall c, Text.isDigit c = true -> digit c = true
  point : digit '.' = false
  letter : forall c, c ∈ TimeUnit.letters -> digit c = false

section Matches

variable {digit : Char -> Bool}

theorem DigitClass.not_mem_letters (h : DigitClass digit) {c : Char} (hc : digit c = true) :
    c ∉ TimeUnit.letters := by
  intro hmem
  rw [h.letter c hmem] at hc
  cases hc

theorem DigitClass.ne_point (h : DigitClass digit) {c : Char} (hc : digit c = true) :
    c ≠ '.' := by
  rintro rfl
  rw [h.point] at hc
  cases hc

/-- Either a run of digits holds ASCII digits only, or reading these stops at another digit. -/
theorem DigitClass.run_cases (h : DigitClass digit) (text : List Char) :
    ((text.takeWhile digit).all Text.isDigit = true ∧
      text.takeWhile Text.isDigit = text.takeWhile digit ∧
      text.dropWhile Text.isDigit = text.dropWhile digit) ∨
    ((text.takeWhile digit).all Text.isDigit = false ∧
      exists c rest, text.dropWhile Text.isDigit = c :: rest ∧ digit c = true) := by
  induction text with
  | nil => exact .inl ⟨rfl, rfl, rfl⟩
  | cons c text ih =>
      by_cases hascii : Text.isDigit c = true
      · have hdigit := h.ascii c hascii
        simpa [hascii, hdigit] using ih
      · rw [Bool.not_eq_true] at hascii
        by_cases hdigit : digit c = true
        · exact .inr ⟨by simp [hascii, hdigit], c, text, by simp [hascii], hdigit⟩
        · rw [Bool.not_eq_true] at hdigit
          exact .inl ⟨by simp [hdigit], by simp [hascii, hdigit], by simp [hascii, hdigit]⟩

/-!
# Units
-/

theorem units_cons_eq_nil {c : Char} (h : c ∉ TimeUnit.letters) (rest : List Char) :
    units (c :: rest) = [] := by
  unfold units
  rw [List.filterMap_eq_nil_iff]
  rintro ⟨unit, spelling⟩ hmem
  rw [if_neg]
  intro hprefix
  rcases List.isPrefixOf_iff_prefix.mp hprefix with ⟨tail, htail⟩
  exact h (TimeUnit.head_spelling hmem (congrArg List.head? htail))

/-- The first unit of the list that fits is the one that is read. -/
theorem head_units (text : List Char) : (units text).head? = TimeUnit.read? text := by
  cases text with
  | nil => rfl
  | cons c rest =>
      by_cases hc : c ∈ TimeUnit.letters
      · simp only [TimeUnit.letters, List.mem_cons, List.not_mem_nil, or_false] at hc
        rcases hc with rfl | rfl | rfl | rfl | rfl | rfl
        all_goals
          cases rest with
          | nil => rfl
          | cons d rest =>
              by_cases hd : d = 's'
              · subst hd
                rfl
              · simp [units, TimeUnit.spellings, TimeUnit.read?, Ne.symm hd, hd]
      · rw [units_cons_eq_nil hc, TimeUnit.read?_eq_none hc]
        rfl

/-!
# Matches
-/

/-- A run that is cut short leads nowhere, so only the whole run counts. -/
theorem flatMap_digitRuns {α : Type} {f : List Char × List Char -> List α}
    (hstop : forall run c rest, digit c = true -> f (run, c :: rest) = []) (text : List Char) :
    (digitRuns digit text).flatMap f =
      if text.takeWhile digit = [] then [] else f (text.takeWhile digit, text.dropWhile digit) := by
  induction text generalizing f with
  | nil => rfl
  | cons c text ih =>
      by_cases hc : digit c = true
      · have hrest := ih (f := fun run => f (c :: run.1, run.2)) fun run => hstop (c :: run)
        rw [digitRuns, if_pos hc, List.flatMap_append, List.flatMap_map, hrest,
          List.flatMap_singleton, List.takeWhile_cons_of_pos hc, List.dropWhile_cons_of_pos hc,
          if_neg (List.cons_ne_nil _ _)]
        cases text with
        | nil => rfl
        | cons d text =>
            by_cases hd : digit d = true
            · rw [hstop [c] d text hd, List.takeWhile_cons_of_pos hd,
                if_neg (List.cons_ne_nil _ _), List.append_nil]
            · rw [List.takeWhile_cons_of_neg hd, List.dropWhile_cons_of_neg hd, if_pos rfl,
                List.nil_append]
      · rw [digitRuns, if_neg hc, List.takeWhile_cons_of_neg hc, if_pos rfl]
        rfl

/-- Goes on behind the digits in front of the point: with the longest fraction and a unit. -/
def fraction? (digit : Char -> Bool) (whole : List Char) :
    List Char -> Option (Capture × List Char)
  | '.' :: rest =>
      if rest.takeWhile digit = [] then none
      else
        (TimeUnit.read? (rest.dropWhile digit)).map fun unit =>
          (⟨whole, some (rest.takeWhile digit), unit.1⟩, unit.2)
  | rest => (TimeUnit.read? rest).map fun unit => (⟨whole, none, unit.1⟩, unit.2)

/-- Takes the longest number off the start of a text, and a unit behind it. -/
def capture? (digit : Char -> Bool) (text : List Char) : Option (Capture × List Char) :=
  if text.takeWhile digit = [] then none
  else fraction? digit (text.takeWhile digit) (text.dropWhile digit)

theorem fraction?_of_ne_point {c : Char} (h : c ≠ '.') (whole rest : List Char) :
    fraction? digit whole (c :: rest) =
      (TimeUnit.read? (c :: rest)).map fun unit => (⟨whole, none, unit.1⟩, unit.2) := by
  simp [fraction?, h]

theorem fractions_of_ne_point {c : Char} (h : c ≠ '.') (rest : List Char) :
    fractions digit (c :: rest) = [(none, c :: rest)] := by
  simp [fractions, h]

theorem head_fractions (h : DigitClass digit) (whole text : List Char) :
    ((fractions digit text).flatMap fun fraction =>
      (units fraction.2).map fun unit => ((⟨whole, fraction.1, unit.1⟩ : Capture), unit.2)).head? =
      fraction? digit whole text := by
  have hunit {α : Type} (f : TimeUnit × List Char -> α) (text : List Char) :
      ((units text).map f).head? = (TimeUnit.read? text).map f := by
    rw [List.head?_map, head_units]
  cases text with
  | nil => rfl
  | cons c rest =>
      by_cases hpoint : c = '.'
      · subst hpoint
        have hletter : '.' ∉ TimeUnit.letters := by decide
        rw [fractions, List.flatMap_append, List.flatMap_map, List.flatMap_singleton,
          units_cons_eq_nil hletter, List.map_nil, List.append_nil, flatMap_digitRuns, fraction?]
        · split
          · rfl
          · exact hunit _ _
        · intro run c rest hc
          rw [units_cons_eq_nil (h.not_mem_letters hc), List.map_nil]
      · rw [fractions_of_ne_point hpoint, List.flatMap_singleton, fraction?_of_ne_point hpoint]
        exact hunit _ _

/-- Of all matches at a place, the preferred one is that with the longest numbers. -/
theorem head_matchesAt (h : DigitClass digit) (text : List Char) :
    (matchesAt digit text).head? = capture? digit text := by
  unfold matchesAt capture?
  rw [flatMap_digitRuns]
  · split
    · rfl
    · exact head_fractions h _ _
  · intro run c rest hc
    rw [fractions_of_ne_point (h.ne_point hc), List.flatMap_singleton,
      units_cons_eq_nil (h.not_mem_letters hc), List.map_nil]

/-!
# Matches that are terms
-/

/-- The term of a match, with what is left behind the match. -/
def termOf? (found : Capture × List Char) : Option (Term × List Char) :=
  found.1.term?.map fun term => (term, found.2)

theorem bind_termOf? (whole : List Char) (fraction : Option (List Char)) (text : List Char) :
    ((TimeUnit.read? text).map fun unit => (⟨whole, fraction, unit.1⟩, unit.2)).bind termOf? =
      if (whole ++ fraction.getD []).all Text.isDigit then
        (TimeUnit.read? text).map fun unit => (⟨whole, fraction.getD [], unit.1⟩, unit.2)
      else none := by
  cases TimeUnit.read? text with
  | none => simp
  | some unit =>
      simp only [Option.map_some, Option.bind_some, termOf?, Capture.term?]
      split <;> rfl

theorem fraction?_termOf? (h : DigitClass digit) {whole : List Char}
    (hwhole : whole.all Text.isDigit = true) (text : List Char) :
    (fraction? digit whole text).bind termOf? =
      (Term.readFraction? text).bind fun fraction =>
        (TimeUnit.read? fraction.2).map fun unit => (⟨whole, fraction.1, unit.1⟩, unit.2) := by
  cases text with
  | nil => rfl
  | cons c rest =>
      by_cases hpoint : c = '.'
      · subst hpoint
        rw [fraction?, Term.readFraction?]
        rcases h.run_cases rest with ⟨hall, htake, hdrop⟩ | ⟨hall, d, tail, hdrop, hd⟩
        · rw [htake, hdrop]
          split
          · rfl
          · rw [bind_termOf?, Option.getD_some, List.all_append, hwhole, hall]
            rfl
        · -- reading stops in the middle of the run, where no unit can follow
          have hsearch : ((TimeUnit.read? (rest.dropWhile digit)).map fun unit =>
              (⟨whole, some (rest.takeWhile digit), unit.1⟩, unit.2)).bind termOf? = none := by
            rw [bind_termOf?, Option.getD_some, List.all_append, hwhole, hall]
            rfl
          have hunit := TimeUnit.read?_eq_none (h.not_mem_letters hd) tail
          rw [hdrop]
          split <;> split <;> simp [hsearch, hunit]
      · rw [fraction?_of_ne_point hpoint, bind_termOf?]
        simp [Term.readFraction?, hpoint, hwhole]

theorem termOf?_of_capture? {text : List Char} {found : Capture × List Char}
    (hfound : capture? digit text = some found)
    (hall : (text.takeWhile digit).all Text.isDigit = false) : termOf? found = none := by
  have hwhole : found.1.whole = text.takeWhile digit := by
    unfold capture? at hfound
    split at hfound
    case isTrue => cases hfound
    case isFalse =>
      unfold fraction? at hfound
      split at hfound
      · split at hfound
        · cases hfound
        · rcases Option.map_eq_some_iff.mp hfound with ⟨unit, _, rfl⟩
          rfl
      · rcases Option.map_eq_some_iff.mp hfound with ⟨unit, _, rfl⟩
        rfl
  rw [termOf?, Capture.term?, hwhole, List.all_append, hall]
  rfl

/-- The preferred match is a term exactly if a term can be read there. -/
theorem capture?_termOf? (h : DigitClass digit) (text : List Char) :
    (capture? digit text).bind termOf? = Term.read? text := by
  rcases h.run_cases text with ⟨hall, htake, hdrop⟩ | ⟨hall, c, rest, hdrop, hc⟩
  · unfold capture? Term.read?
    dsimp only
    rw [htake, hdrop]
    split
    · rfl
    · rw [fraction?_termOf? h hall]
      cases Term.readFraction? (text.dropWhile digit) with
      | none => rfl
      | some fraction => rfl
  · have hsearch : (capture? digit text).bind termOf? = none :=
      Option.bind_eq_none_iff.mpr fun found hfound => termOf?_of_capture? hfound hall
    have hread : Term.readFraction? (c :: rest) = some ([], c :: rest) := by
      simp [Term.readFraction?, h.ne_point hc]
    have hunit := TimeUnit.read?_eq_none (h.not_mem_letters hc) rest
    simp [hsearch, Term.read?, hdrop, hread, hunit]

/-!
# Searches
-/

/-- Where a term can be read, the search finds it at once. -/
theorem find?_of_read? (h : DigitClass digit) {text rest : List Char} {term : Term}
    (hread : Term.read? text = some (term, rest)) :
    exists capture, find? digit text = some ⟨0, capture, rest⟩ ∧ capture.term? = some term := by
  rw [← capture?_termOf? h] at hread
  rcases Option.bind_eq_some_iff.mp hread with ⟨⟨capture, behind⟩, hcapture, hterm⟩
  rcases Option.map_eq_some_iff.mp hterm with ⟨_, hvalue, heq⟩
  cases heq
  refine ⟨capture, ?_, hvalue⟩
  cases text with
  | nil => cases hcapture
  | cons c text =>
      unfold find?
      rw [head_matchesAt h, hcapture]

/-- Where no term can be read, a match at the start has a number that cannot be read. -/
theorem term?_of_find? (h : DigitClass digit) {text : List Char} {found : Found}
    (hread : Term.read? text = none) (hfind : find? digit text = some found)
    (hstart : found.start = 0) : found.capture.term? = none := by
  cases text with
  | nil => cases hfind
  | cons c text =>
      unfold find? at hfind
      rw [head_matchesAt h] at hfind
      split at hfind
      case h_1 capture rest hcapture =>
        cases hfind
        rw [← capture?_termOf? h, hcapture] at hread
        exact Option.map_eq_none_iff.mp hread
      case h_2 =>
        rcases Option.map_eq_some_iff.mp hfind with ⟨later, _, rfl⟩
        cases hstart

theorem sumFrom?_of_read? (h : DigitClass digit) {text rest : List Char} {term : Term}
    (hread : Term.read? text = some (term, rest)) (sum : Option Nat) :
    sumFrom? digit sum text = sumFrom? digit (addTerm sum term) rest := by
  rcases find?_of_read? h hread with ⟨capture, hfind, hterm⟩
  rw [sumFrom?]
  split
  case h_1 hnone => cases hfind.symm.trans hnone
  case h_2 hsome =>
    cases hfind.symm.trans hsome
    simp [hterm]

/-- A text that consists of terms is added up, with nothing left behind. -/
theorem sumFrom?_of_terms? (h : DigitClass digit) {text : List Char} {terms : List Term}
    (hterms : terms? text = some terms) (sum : Option Nat) :
    sumFrom? digit sum text = some (terms.foldl addTerm sum, []) := by
  induction text using terms?.induct generalizing terms sum with
  | case1 =>
      rw [terms?] at hterms
      cases hterms
      rw [sumFrom?]
      rfl
  | case2 c rest hnone =>
      rw [terms?_of_read?_none hnone] at hterms
      cases hterms
  | case3 c rest term after hsome ih =>
      rw [terms?_of_read? hsome] at hterms
      rcases Option.map_eq_some_iff.mp hterms with ⟨later, hlater, rfl⟩
      rw [sumFrom?_of_read? h hsome, ih hlater, List.foldl_cons]

/-- Any other text is refused on the way, or something of it is left. -/
theorem rest_of_sumFrom? (h : DigitClass digit) {text rest : List Char} {sum result : Option Nat}
    (hterms : terms? text = none) (hsum : sumFrom? digit sum text = some (result, rest)) :
    rest ≠ [] := by
  induction text using terms?.induct generalizing sum with
  | case1 =>
      rw [terms?] at hterms
      cases hterms
  | case2 c behind hnone =>
      rw [sumFrom?] at hsum
      split at hsum
      case h_1 =>
        cases hsum
        exact List.cons_ne_nil _ _
      case h_2 found hfind =>
        split at hsum
        case isTrue => cases hsum
        case isFalse hstart =>
          rw [term?_of_find? h hnone hfind (not_not.mp hstart)] at hsum
          cases hsum
  | case3 c behind term after hsome ih =>
      rw [terms?_of_read? hsome] at hterms
      rw [sumFrom?_of_read? h hsome] at hsum
      exact ih (Option.map_eq_none_iff.mp hterms) hsum

/-- The search and the reader find the same durations. -/
theorem parse?_eq (h : DigitClass digit) (text : String) :
    parse? digit text = Duration.parse? text := by
  unfold parse? Duration.parse?
  dsimp only
  generalize Text.trim text.toList = trimmed
  by_cases hzero : trimmed = ['0']
  · rw [if_pos hzero, hzero]
    rfl
  by_cases hnil : trimmed = []
  · rw [if_neg hzero, if_pos hnil, hnil]
    rfl
  have hchars : ofChars? trimmed = (terms? trimmed).bind ofTerms? := by
    unfold ofChars?
    split
    · exact absurd rfl hnil
    · exact absurd rfl hzero
    · rfl
  rw [if_neg hzero, if_neg hnil, hchars]
  cases hterms : terms? trimmed with
  | none =>
      split
      case h_1 hsum => exact absurd rfl (rest_of_sumFrom? h hterms hsum)
      case h_2 => rfl
  | some terms =>
      rw [sumFrom?_of_terms? h hterms, foldl_addTerm, Option.bind_some, ofTerms?]
      cases total 0 terms with
      | none => rfl
      | some sum => rfl

end Matches

end Search

/-!
# Periods
-/

/-- The texts that pass as a period are those of the grammar, and the period is the duration that
they stand for.  All others are refused as faults of the spec.  Searching a text for terms, with any
characters as digits besides the ASCII ones, comes to the same. -/
theorem periods_follow_grammar (text : String) :
    (forall d, Schedule.period text = .ok d <-> Spells text d) ∧
    ((¬ exists d, Spells text d) ->
      Schedule.period text = .error (.badDuration text) ∧
        (Projection.SpecFault.badDuration text).toFault.kind = .invalidSpec) ∧
    forall digit : Char -> Bool, Search.DigitClass digit ->
      Search.parse? digit text = parse? text := by
  have hperiod (d : Duration) : Schedule.period text = .ok d <-> Spells text d := by
    rw [← parse?_eq_some_iff]
    unfold Schedule.period
    cases parse? text <;> simp
  refine ⟨hperiod, ?_, fun digit hdigit => Search.parse?_eq hdigit text⟩
  intro hnone
  refine ⟨?_, rfl⟩
  cases hresult : Schedule.period text with
  | ok d => exact absurd ⟨d, (hperiod d).mp hresult⟩ hnone
  | error fault =>
      unfold Schedule.period at hresult
      split at hresult
      · cases hresult
      · exact hresult.symm

namespace Sample

/-- The ASCII and the Arabic digits. -/
def isDigit (c : Char) : Bool := Text.isDigit c || ('\u0660' ≤ c && c ≤ '\u0669')

end Sample

theorem arabic_digits_are_refused :
    (Schedule.period " 1h30m" = .ok (.ofSeconds 5400) ∧
      Search.parse? Sample.isDigit " 1h30m" = some (.ofSeconds 5400)) ∧
    ((Search.matchesAt Sample.isDigit "1\u0663s".toList).length = 1 ∧
      Search.parse? Sample.isDigit "1\u0663s" = none ∧
      Schedule.period "1\u0663s" = .error (.badDuration "1\u0663s")) := by
  have hclass : Search.DigitClass Sample.isDigit := by
    refine ⟨?_, rfl, fun c => TimeUnit.eq_false_of_mem_letters rfl⟩
    intro c hc
    rw [Sample.isDigit, hc, Bool.true_or]
  have haccepted : parse? " 1h30m" = some (.ofSeconds 5400) := by decide +kernel
  have hrefused : parse? "1\u0663s" = none := by decide +kernel
  have hspells : Spells " 1h30m" (.ofSeconds 5400) := parse?_eq_some_iff.mp haccepted
  have hnone : ¬ exists d, Spells "1\u0663s" d := by
    rintro ⟨d, hd⟩
    cases hrefused.symm.trans (parse?_eq_some_iff.mpr hd)
  refine ⟨⟨((periods_follow_grammar _).1 _).mpr hspells, ?_⟩, by decide, ?_,
    ((periods_follow_grammar _).2.1 hnone).1⟩
  · rw [(periods_follow_grammar _).2.2 _ hclass, haccepted]
  · rw [(periods_follow_grammar _).2.2 _ hclass, hrefused]

end Duration

end SecretProjection
