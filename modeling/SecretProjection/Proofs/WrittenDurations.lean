import SecretProjection.Duration.Search
import SecretProjection.Proofs.Blanks
import SecretProjection.Proofs.Digits

/-!
# Written durations

A grammar for durations, given apart from the reader.  A term is a number and the spelling of a
unit, a row is any number of terms with nothing between them, and a duration is spelled by a row
that is not empty, or by a lone `0`, with blanks around it.  The reader accepts exactly the texts
of the grammar.
-/

namespace SecretProjection

namespace Duration

/-!
# The grammar
-/

/-- A row of digits, at least one. -/
structure Digits (text : List Char) : Prop where
  ne_nil : text ≠ []
  isDigit : forall c, c ∈ text -> Text.isDigit c = true

inductive Term.Written : Term -> List Char -> Prop
  | plain {whole spelling : List Char} {unit : TimeUnit} (hwhole : Digits whole)
      (hunit : (unit, spelling) ∈ TimeUnit.spellings) :
      Written ⟨whole, [], unit⟩ (whole ++ spelling)
  | pointed {whole fraction spelling : List Char} {unit : TimeUnit} (hwhole : Digits whole)
      (hfraction : Digits fraction) (hunit : (unit, spelling) ∈ TimeUnit.spellings) :
      Written ⟨whole, fraction, unit⟩ (whole ++ '.' :: (fraction ++ spelling))

inductive Row : List Term -> List Char -> Prop
  | nil : Row [] []
  | cons {term : Term} {terms : List Term} {text rest : List Char} (hterm : term.Written text)
      (hrest : Row terms rest) : Row (term :: terms) (text ++ rest)

/-- The durations without the blanks around them. -/
inductive Core : List Char -> Duration -> Prop
  | zero : Core ['0'] Duration.zero
  | row {terms : List Term} {text : List Char} {n : Nat} (hne : terms ≠ [])
      (hrow : Row terms text) (htotal : total 0 terms = some n) (hbound : n < 2 ^ 64) :
      Core text ⟨n⟩

/-- A text stands for a duration. -/
def Spells (text : String) (d : Duration) : Prop :=
  exists before core after, text.toList = before ++ core ++ after ∧
    (forall c, c ∈ before -> Text.isBlank c = true) ∧
    (forall c, c ∈ after -> Text.isBlank c = true) ∧ Core core d

/-!
# Rows of digits
-/

theorem Digits.takeWhile {text : List Char} (h : text.takeWhile Text.isDigit ≠ []) :
    Digits (text.takeWhile Text.isDigit) :=
  ⟨h, fun _ hmem => List.mem_takeWhile_imp hmem⟩

/-- A row of digits starts with one. -/
theorem Digits.exists_cons {text : List Char} (h : Digits text) :
    exists c tail, text = c :: tail ∧ Text.isDigit c = true := by
  cases text with
  | nil => exact absurd rfl h.ne_nil
  | cons c tail => exact ⟨c, tail, rfl, h.isDigit c (List.mem_cons_self ..)⟩

/-!
# Units
-/

/-- The characters that units are spelled with. -/
def TimeUnit.letters : List Char := ['n', 'u', 'µ', 'm', 's', 'h']

theorem TimeUnit.mem_letters {unit : TimeUnit} {spelling : List Char}
    (h : (unit, spelling) ∈ spellings) {c : Char} (hc : c ∈ spelling) : c ∈ letters := by
  have hall : spellings.all (fun entry => entry.2.all fun c => letters.contains c) = true := rfl
  have hspelling := List.all_eq_true.mp (List.all_eq_true.mp hall _ h) c hc
  exact List.contains_iff_mem.mp hspelling

/-- What none of the letters is can be seen by looking at each of them. -/
theorem TimeUnit.eq_false_of_mem_letters {p : Char -> Bool}
    (hall : letters.all (fun c => !p c) = true) {c : Char} (h : c ∈ letters) : p c = false :=
  (Bool.not_eq_true' _).mp (List.all_eq_true.mp hall c h)

theorem TimeUnit.not_isDigit_of_mem_letters {c : Char} (h : c ∈ letters) :
    Text.isDigit c = false := eq_false_of_mem_letters rfl h

theorem TimeUnit.not_isBlank_of_mem_letters {c : Char} (h : c ∈ letters) :
    Text.isBlank c = false := eq_false_of_mem_letters rfl h

theorem TimeUnit.spelling_ne_nil {unit : TimeUnit} {spelling : List Char}
    (h : (unit, spelling) ∈ spellings) : spelling ≠ [] := by
  have hall : forall entry, entry ∈ spellings -> entry.2 ≠ [] := by decide
  exact hall _ h

/-- A unit starts with a letter, and so does what is put behind a number. -/
theorem TimeUnit.head_spelling {unit : TimeUnit} {spelling rest : List Char}
    (h : (unit, spelling) ∈ spellings) {c : Char} (hc : (spelling ++ rest).head? = some c) :
    c ∈ letters := by
  cases spelling with
  | nil => exact absurd rfl (spelling_ne_nil h)
  | cons d tail =>
      cases hc
      exact mem_letters h (List.mem_cons_self ..)

/-- A spelling is read as its unit, unless an `s` behind it makes another unit out of it. -/
theorem TimeUnit.read?_spelling {unit : TimeUnit} {spelling rest : List Char}
    (h : (unit, spelling) ∈ spellings) (hrest : rest.head? ≠ some 's') :
    read? (spelling ++ rest) = some (unit, rest) := by
  have hminute : read? ('m' :: rest) = some (.minute, rest) := by
    cases rest with
    | nil => rfl
    | cons c rest =>
        have hc : c ≠ 's' := fun heq => hrest (congrArg some heq)
        simp [read?, hc]
  simp only [spellings, List.mem_cons, List.not_mem_nil, or_false, Prod.mk.injEq] at h
  rcases h with ⟨rfl, rfl⟩ | ⟨rfl, rfl⟩ | ⟨rfl, rfl⟩ | ⟨rfl, rfl⟩ | ⟨rfl, rfl⟩ | ⟨rfl, rfl⟩ |
    ⟨rfl, rfl⟩
  case inr.inr.inr.inr.inr.inl => exact hminute
  all_goals rfl

theorem TimeUnit.spelling_of_read? {text rest : List Char} {unit : TimeUnit}
    (h : read? text = some (unit, rest)) :
    exists spelling, (unit, spelling) ∈ spellings ∧ text = spelling ++ rest := by
  unfold read? at h
  split at h
  all_goals cases h
  exacts [⟨['n', 's'], by decide, rfl⟩, ⟨['u', 's'], by decide, rfl⟩,
    ⟨['µ', 's'], by decide, rfl⟩, ⟨['m', 's'], by decide, rfl⟩, ⟨['s'], by decide, rfl⟩,
    ⟨['m'], by decide, rfl⟩, ⟨['h'], by decide, rfl⟩]

theorem TimeUnit.read?_eq_none {c : Char} (h : c ∉ letters) (rest : List Char) :
    read? (c :: rest) = none := by
  cases hread : read? (c :: rest) with
  | none => rfl
  | some found =>
      rcases spelling_of_read? hread with ⟨spelling, hunit, htext⟩
      exact absurd (head_spelling hunit (congrArg List.head? htext.symm)) h

/-!
# Terms
-/

namespace Term

theorem readFraction?_of_letter {text : List Char}
    (h : forall c, text.head? = some c -> c ∈ TimeUnit.letters) :
    readFraction? text = some ([], text) := by
  cases text with
  | nil => rfl
  | cons c rest =>
      have hpoint : c ≠ '.' := by
        rintro rfl
        exact absurd (h _ rfl) (by decide)
      simp [readFraction?, hpoint]

/-- What is written as a term is read as that term. -/
theorem read?_of_written {term : Term} {text rest : List Char} (h : term.Written text)
    (hrest : rest.head? ≠ some 's') : read? (text ++ rest) = some (term, rest) := by
  cases h with
  | @plain whole spelling unit hwhole hunit =>
      have hletter : forall c, (spelling ++ rest).head? = some c -> c ∈ TimeUnit.letters :=
        fun c hc => TimeUnit.head_spelling hunit hc
      have hstop : forall c, (spelling ++ rest).head? = some c -> Text.isDigit c = false :=
        fun c hc => TimeUnit.not_isDigit_of_mem_letters (hletter c hc)
      unfold read?
      simp only [List.append_assoc, Text.takeWhile_run hwhole.isDigit hstop,
        Text.dropWhile_run hwhole.isDigit hstop, if_neg hwhole.ne_nil,
        readFraction?_of_letter hletter, TimeUnit.read?_spelling hunit hrest, Option.map_some]
  | @pointed whole fraction spelling unit hwhole hfraction hunit =>
      have hstop : forall c, (spelling ++ rest).head? = some c -> Text.isDigit c = false :=
        fun c hc => TimeUnit.not_isDigit_of_mem_letters (TimeUnit.head_spelling hunit hc)
      have hpoint : forall c, ('.' :: (fraction ++ (spelling ++ rest))).head? = some c ->
          Text.isDigit c = false := by
        rintro c ⟨⟩
        rfl
      have hread : readFraction? ('.' :: (fraction ++ (spelling ++ rest))) =
          some (fraction, spelling ++ rest) := by
        simp only [readFraction?, Text.takeWhile_run hfraction.isDigit hstop,
          Text.dropWhile_run hfraction.isDigit hstop, if_neg hfraction.ne_nil]
      unfold read?
      simp only [List.append_assoc, List.cons_append, Text.takeWhile_run hwhole.isDigit hpoint,
        Text.dropWhile_run hwhole.isDigit hpoint, if_neg hwhole.ne_nil, hread,
        TimeUnit.read?_spelling hunit hrest, Option.map_some]

theorem fraction_of_read {text fraction rest : List Char}
    (h : readFraction? text = some (fraction, rest)) :
    (fraction = [] ∧ text = rest) ∨ (Digits fraction ∧ text = '.' :: (fraction ++ rest)) := by
  unfold readFraction? at h
  split at h
  · split at h
    case isTrue => cases h
    case isFalse tail hne =>
      cases h
      refine .inr ⟨.takeWhile hne, ?_⟩
      rw [List.takeWhile_append_dropWhile]
  · cases h
    exact .inl ⟨rfl, rfl⟩

/-- What is read as a term is written as that term. -/
theorem written_of_read? {term : Term} {text rest : List Char}
    (h : read? text = some (term, rest)) :
    exists front, term.Written front ∧ text = front ++ rest := by
  unfold read? at h
  simp only at h
  split at h
  case isTrue => cases h
  case isFalse hne =>
    have hwhole := Digits.takeWhile hne
    have htext := List.takeWhile_append_dropWhile (p := Text.isDigit) (l := text)
    split at h
    case h_1 => cases h
    case h_2 fraction behind hfraction =>
      rcases Option.map_eq_some_iff.mp h with ⟨⟨unit, tail⟩, hread, heq⟩
      cases heq
      rcases TimeUnit.spelling_of_read? hread with ⟨spelling, hunit, hbehind⟩
      rcases fraction_of_read hfraction with ⟨rfl, hdrop⟩ | ⟨hdigits, hdrop⟩
      · refine ⟨_, .plain hwhole hunit, ?_⟩
        rw [List.append_assoc, ← hbehind, ← hdrop, htext]
      · refine ⟨_, .pointed hwhole hdigits hunit, ?_⟩
        rw [List.append_assoc, List.cons_append, List.append_assoc, ← hbehind, ← hdrop, htext]

/-- A term starts with a digit and ends with the letter of a unit. -/
theorem Written.ends {term : Term} {text : List Char} (h : term.Written text) :
    (exists c tail, text = c :: tail ∧ Text.isDigit c = true) ∧
      exists front c, text = front ++ [c] ∧ c ∈ TimeUnit.letters := by
  have hunit {unit : TimeUnit} {spelling : List Char} (front : List Char)
      (h : (unit, spelling) ∈ TimeUnit.spellings) :
      exists before c, front ++ spelling = before ++ [c] ∧ c ∈ TimeUnit.letters := by
    have hne := TimeUnit.spelling_ne_nil h
    refine ⟨front ++ spelling.dropLast, spelling.getLast hne, ?_,
      TimeUnit.mem_letters h (List.getLast_mem hne)⟩
    rw [List.append_assoc, List.dropLast_concat_getLast hne]
  cases h with
  | plain hwhole hspelling =>
      rcases hwhole.exists_cons with ⟨c, tail, rfl, hc⟩
      exact ⟨⟨c, _, rfl, hc⟩, hunit _ hspelling⟩
  | @pointed whole fraction spelling unit hwhole _ hspelling =>
      rcases hwhole.exists_cons with ⟨c, tail, rfl, hc⟩
      refine ⟨⟨c, _, rfl, hc⟩, ?_⟩
      have hlast := hunit (c :: tail ++ '.' :: fraction) hspelling
      rwa [List.append_assoc] at hlast

end Term

/-!
# Rows
-/

theorem Row.exists_cons {terms : List Term} {text : List Char} (h : Row terms text)
    (hne : terms ≠ []) : exists c tail, text = c :: tail ∧ Text.isDigit c = true := by
  cases h with
  | nil => exact absurd rfl hne
  | cons hterm _ =>
      rcases hterm.ends.1 with ⟨c, tail, rfl, hc⟩
      exact ⟨c, _, rfl, hc⟩

theorem Row.exists_concat {terms : List Term} {text : List Char} (h : Row terms text)
    (hne : terms ≠ []) : exists front c, text = front ++ [c] ∧ c ∈ TimeUnit.letters := by
  induction h with
  | nil => exact absurd rfl hne
  | @cons term terms text rest hterm hrest ih =>
      cases terms with
      | nil =>
          cases hrest
          rw [List.append_nil]
          exact hterm.ends.2
      | cons next terms =>
          rcases ih (List.cons_ne_nil _ _) with ⟨front, c, rfl, hc⟩
          exact ⟨text ++ front, c, (List.append_assoc ..).symm, hc⟩

/-- Behind a term, a row goes on with a digit. -/
theorem Row.head_ne_s {terms : List Term} {text : List Char} (h : Row terms text) :
    text.head? ≠ some 's' := by
  cases terms with
  | nil =>
      cases h
      simp
  | cons term terms =>
      rcases h.exists_cons (List.cons_ne_nil _ _) with ⟨c, tail, rfl, hc⟩
      rintro ⟨⟩
      exact absurd hc (by decide)

theorem terms?_of_read? {text rest : List Char} {term : Term}
    (h : Term.read? text = some (term, rest)) : terms? text = (terms? rest).map (term :: ·) := by
  cases text with
  | nil => cases h
  | cons c text =>
      rw [terms?]
      split
      case h_1 hnone => cases h.symm.trans hnone
      case h_2 hsome =>
        cases h.symm.trans hsome
        rfl

theorem terms?_of_read?_none {c : Char} {rest : List Char} (h : Term.read? (c :: rest) = none) :
    terms? (c :: rest) = none := by
  rw [terms?]
  split
  case h_1 => rfl
  case h_2 hsome => cases h.symm.trans hsome

theorem Row.terms? {terms : List Term} {text : List Char} (h : Row terms text) :
    Duration.terms? text = some terms := by
  induction h with
  | nil => rw [Duration.terms?]
  | @cons term terms text rest hterm hrest ih =>
      rw [terms?_of_read? (Term.read?_of_written hterm hrest.head_ne_s), ih, Option.map_some]

theorem row_of_terms? {terms : List Term} {text : List Char} (h : terms? text = some terms) :
    Row terms text := by
  induction text using terms?.induct generalizing terms with
  | case1 =>
      rw [terms?] at h
      cases h
      exact .nil
  | case2 c rest hnone =>
      rw [terms?_of_read?_none hnone] at h
      cases h
  | case3 c rest term after hsome ih =>
      rw [terms?_of_read? hsome] at h
      rcases Option.map_eq_some_iff.mp h with ⟨later, hlater, rfl⟩
      rcases Term.written_of_read? hsome with ⟨front, hterm, htext⟩
      rw [htext]
      exact .cons hterm (ih hlater)

theorem terms?_eq_some_iff {terms : List Term} {text : List Char} :
    terms? text = some terms <-> Row terms text :=
  ⟨row_of_terms?, Row.terms?⟩

/-!
# Durations
-/

theorem ofTerms?_eq_some_iff {terms : List Term} {d : Duration} :
    ofTerms? terms = some d <-> total 0 terms = some d.nanoseconds ∧ d.nanoseconds < 2 ^ 64 := by
  unfold ofTerms?
  cases total 0 terms with
  | none => simp
  | some n =>
      rw [← Nat.pow_eq]
      by_cases hbound : n < Nat.pow 2 64
      · simp only [if_pos hbound, Option.some.injEq]
        constructor
        · rintro rfl
          exact ⟨rfl, hbound⟩
        · rintro ⟨rfl, _⟩
          rfl
      · simp only [if_neg hbound, Option.some.injEq, reduceCtorEq, false_iff]
        rintro ⟨rfl, hlt⟩
        exact hbound hlt

theorem Core.blankFree {core : List Char} {d : Duration} (h : Core core d) :
    Text.BlankFree core := by
  cases h with
  | zero => exact ⟨'0', '0', [], [], rfl, rfl, rfl, rfl⟩
  | row hne hrow _ _ =>
      rcases hrow.exists_cons hne with ⟨c, tail, hstart, hc⟩
      rcases hrow.exists_concat hne with ⟨front, d, hend, hd⟩
      exact ⟨c, d, front, tail, hstart, hend, Text.not_isBlank_of_isDigit hc,
        TimeUnit.not_isBlank_of_mem_letters hd⟩

/-- A lone `0` is no row, as it has no unit. -/
theorem terms?_zero : terms? ['0'] = none := terms?_of_read?_none rfl

theorem ofChars?_eq_some_iff {core : List Char} {d : Duration} :
    ofChars? core = some d <-> Core core d := by
  have hrow {core : List Char} : (terms? core).bind ofTerms? = some d <->
      exists terms, Row terms core ∧ total 0 terms = some d.nanoseconds ∧
        d.nanoseconds < 2 ^ 64 := by
    simp only [Option.bind_eq_some_iff, terms?_eq_some_iff, ofTerms?_eq_some_iff]
  constructor
  · intro h
    unfold ofChars? at h
    split at h
    case h_1 => cases h
    case h_2 =>
      cases h
      exact .zero
    case h_3 hnil _ =>
      rcases hrow.mp h with ⟨terms, hterms, htotal, hbound⟩
      refine .row ?_ hterms htotal hbound
      rintro rfl
      cases hterms
      exact hnil rfl
  · intro h
    cases h with
    | zero => rfl
    | @row terms _ n hne hterms htotal hbound =>
        have hbind := hrow.mpr ⟨terms, hterms, htotal, hbound⟩
        unfold ofChars?
        split
        · cases terms with
          | nil => exact absurd rfl hne
          | cons term terms =>
              rcases hterms.exists_cons (List.cons_ne_nil _ _) with ⟨c, tail, heq, _⟩
              cases heq
        · rw [terms?_zero] at hbind
          cases hbind
        · exact hbind

/-- The reader accepts the texts of the grammar, with the durations that they stand for. -/
theorem parse?_eq_some_iff {text : String} {d : Duration} :
    parse? text = some d <-> Spells text d := by
  unfold parse?
  rw [ofChars?_eq_some_iff]
  constructor
  · intro h
    rcases Text.exists_trim text.toList with ⟨before, after, htext, hbefore, hafter⟩
    exact ⟨before, _, after, htext, hbefore, hafter, h⟩
  · rintro ⟨before, core, after, htext, hbefore, hafter, h⟩
    rw [htext, Text.trim_append h.blankFree hbefore hafter]
    exact h

/-- A text stands for one duration at most, although its blanks and its terms could be told apart
in several ways. -/
theorem Spells.unique {text : String} {d e : Duration} (hd : Spells text d) (he : Spells text e) :
    d = e := by
  rw [← parse?_eq_some_iff] at hd he
  exact Option.some.inj (hd.symm.trans he)

end Duration

end SecretProjection
