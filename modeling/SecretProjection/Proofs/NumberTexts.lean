import SecretProjection.Proofs.JsonTexts

/-!
# Texts of numbers

The text of a number does not say itself where it ends.  Whatever is put behind it that does not go
on with the number, a reader gets as far as before and finds the same number.

So a floating point number whose text is read back on its own is read back everywhere.  Others are
not, since a reader rounds after each of its steps.
-/

namespace SecretProjection

namespace Json

/-- A reader that gets through a text does the same if something is put behind the text. -/
structure Undisturbed {α : Type} (rest : List Char) (reader : Cursor -> Read α) : Prop where
  behind : forall {text offset found left later},
    reader ⟨text, offset⟩ = .ok (found, ⟨left, later⟩) ->
    forall start, exists stop, reader ⟨text ++ rest, start⟩ = .ok (found, ⟨left ++ rest, stop⟩)

section Behind

variable {rest : List Char}

/-!
## Digits
-/

theorem takeDigits_behind (hrest : EndsNumber rest) (text : List Char) (offset start : Nat) :
    exists stop, takeDigits ⟨text ++ rest, start⟩ =
      ((takeDigits ⟨text, offset⟩).1, ⟨(takeDigits ⟨text, offset⟩).2.rest ++ rest, stop⟩) := by
  induction text generalizing offset start with
  | nil => exact ⟨_, takeDigits_append (List.forall_mem_nil _) hrest start⟩
  | cons c text ih =>
      rcases ih offset start with ⟨stop, h⟩
      unfold takeDigits at h ⊢
      cases hc : Text.isDigit c with
      | true =>
          simp at h
          simp [hc, h]
      | false => simp [hc]

theorem readExponentDigits_behind (hrest : EndsNumber rest) (text : List Char)
    (value offset start : Nat) :
    exists stop, readExponentDigits value start (text ++ rest) =
      ((readExponentDigits value offset text).1,
        ⟨(readExponentDigits value offset text).2.1.rest ++ rest, stop⟩,
        (readExponentDigits value offset text).2.2) := by
  induction text generalizing value offset start with
  | nil =>
      cases rest with
      | nil => exact ⟨_, rfl⟩
      | cons c rest =>
          have hc := (hrest c rfl).1
          refine ⟨start, ?_⟩
          simp [readExponentDigits, hc]
  | cons c text ih =>
      rw [List.cons_append]
      unfold readExponentDigits
      split
      · dsimp only
        split
        · exact ⟨_, rfl⟩
        · exact ih _ _ _
      · exact ⟨_, rfl⟩

theorem startsExponent_append (hrest : EndsNumber rest) (text : List Char) (offset start : Nat) :
    startsExponent ⟨text ++ rest, start⟩ = startsExponent ⟨text, offset⟩ := by
  unfold startsExponent
  cases text with
  | nil =>
      cases rest with
      | nil => rfl
      | cons c rest =>
          rcases hrest c rfl with ⟨_, _, he, hE⟩
          simp [he, hE]
  | cons c text =>
      by_cases he : c = 'e'
      · rw [he]
        rfl
      · by_cases hE : c = 'E'
        · rw [hE]
          rfl
        · simp [he, hE]

/-!
## Literals
-/

theorem undisturbed_ok {α : Type} (found : α) :
    Undisturbed rest fun cursor => .ok (found, cursor) := by
  constructor
  intro text offset found left later h start
  cases h
  exact ⟨_, rfl⟩

/-- A choice that does not depend on the text. -/
theorem undisturbed_ite {α : Type} {p : Prop} [Decidable p] {first second : Cursor -> Read α}
    (hfirst : Undisturbed rest first) (hsecond : Undisturbed rest second) :
    Undisturbed rest fun cursor => if p then first cursor else second cursor := by
  by_cases hp : p
  · simpa only [if_pos hp] using hfirst
  · simpa only [if_neg hp] using hsecond

theorem undisturbed_floatOf (negative : Bool) (digits : Nat) (exponent : Int) :
    Undisturbed rest (floatOf negative digits exponent) := by
  constructor
  intro text offset found left later h start
  unfold floatOf at h ⊢
  cases hvalue : Binary64.ofDecimalInSteps digits exponent with
  | none =>
      rw [hvalue] at h
      cases h
  | some magnitude =>
      rw [hvalue] at h
      cases h
      exact ⟨_, rfl⟩

theorem undisturbed_integerLiteral (negative : Bool) (digits : Nat) :
    Undisturbed rest (integerLiteral negative digits) :=
  undisturbed_ite (undisturbed_ite (undisturbed_ok _) (undisturbed_floatOf true digits 0))
    (undisturbed_ok _)

/-!
## Exponents and fractions
-/

theorem undisturbed_readExponentValue (hrest : EndsNumber rest) (negative : Bool) (digits : Nat)
    (exponent : Int) (minus : Bool) :
    Undisturbed rest (readExponentValue .keep negative digits exponent minus) := by
  constructor
  intro text offset found left later h start
  cases text with
  | nil => cases h
  | cons c text =>
      rcases readExponentDigits_behind hrest (c :: text) 0 offset start with ⟨middle, hdigits⟩
      unfold readExponentValue at h ⊢
      dsimp only [List.cons_append] at h hdigits ⊢
      rw [hdigits]
      generalize readExponentDigits 0 offset (c :: text) = taken at h ⊢
      rcases taken with ⟨value, ⟨behind, place⟩, overflow⟩
      by_cases hc : Text.isDigit c = true
      · rw [if_pos hc] at h ⊢
        dsimp only at h ⊢
        simp only [reduceCtorEq, if_false] at h ⊢
        cases overflow with
        | true =>
            -- The exponent has passed 31 bits, and the digits that are left are taken off at once.
            rcases takeDigits_behind hrest behind place middle with ⟨stop, htake⟩
            rw [if_pos rfl] at h ⊢
            by_cases hrange : digits ≠ 0 ∧ (!minus) = true
            · rw [if_pos hrange] at h
              cases h
            · rw [if_neg hrange] at h ⊢
              rw [htake]
              injection h with h
              rw [Prod.mk.injEq] at h
              refine ⟨stop, ?_⟩
              rw [h.1, h.2]
        | false => exact (undisturbed_floatOf _ _ _).behind h _
      · rw [if_neg hc] at h
        cases h

/-- An exponent without a sign. -/
theorem readExponent_of_ne (mode : Mode) (negative : Bool) (digits : Nat) (exponent : Int)
    (letter : Char) {c : Char} (hplus : c ≠ '+') (hminus : c ≠ '-') (text : List Char)
    (offset : Nat) :
    readExponent mode negative digits exponent ⟨letter :: c :: text, offset⟩ =
      readExponentValue mode negative digits exponent false
        ⟨c :: text, offset + letter.utf8Size⟩ := by
  unfold readExponent Cursor.advance
  simp [Cursor.skip, hplus, hminus]

theorem undisturbed_readExponent (hrest : EndsNumber rest) (negative : Bool) (digits : Nat)
    (exponent : Int) : Undisturbed rest (readExponent .keep negative digits exponent) := by
  have hvalue := undisturbed_readExponentValue hrest negative digits exponent
  constructor
  intro text offset found left later h start
  rcases text with _ | ⟨letter, _ | ⟨c, text⟩⟩
  · cases h
  · cases h
  · by_cases hplus : c = '+'
    · subst hplus
      exact (hvalue false).behind h _
    · by_cases hminus : c = '-'
      · subst hminus
        exact (hvalue true).behind h _
      · rw [List.cons_append, List.cons_append]
        rw [readExponent_of_ne _ _ _ _ _ hplus hminus] at h ⊢
        exact (hvalue false).behind h _

/-- An exponent is read if there is one. -/
theorem undisturbed_exponentOr (hrest : EndsNumber rest) (negative : Bool) (digits : Nat)
    (exponent : Int) {plain : Cursor -> Read JsonNumber} (hplain : Undisturbed rest plain) :
    Undisturbed rest fun cursor =>
      if startsExponent cursor then readExponent .keep negative digits exponent cursor
      else plain cursor := by
  constructor
  intro text offset found left later h start
  rw [startsExponent_append hrest text offset]
  by_cases hletter : startsExponent ⟨text, offset⟩ = true
  · rw [if_pos hletter] at h ⊢
    exact (undisturbed_readExponent hrest negative digits exponent).behind h start
  · rw [if_neg hletter] at h ⊢
    exact hplain.behind h start

theorem undisturbed_readFraction_point (hrest : EndsNumber rest) (negative : Bool)
    (whole : List Char) {text : List Char} {offset : Nat} {found : JsonNumber} {left : List Char}
    {later : Nat}
    (h : readFraction .keep negative whole ⟨'.' :: text, offset⟩ = .ok (found, ⟨left, later⟩))
    (start : Nat) :
    exists stop, readFraction .keep negative whole ⟨'.' :: (text ++ rest), start⟩ =
      .ok (found, ⟨left ++ rest, stop⟩) := by
  rcases takeDigits_behind hrest text (offset + '.'.utf8Size) (start + '.'.utf8Size) with
    ⟨middle, htake⟩
  unfold readFraction Cursor.advance Cursor.skip at h ⊢
  dsimp only at h ⊢
  rw [htake]
  generalize takeDigits ⟨text, offset + '.'.utf8Size⟩ = taken at h ⊢
  rcases taken with ⟨fraction, ⟨behind, place⟩⟩
  dsimp only at h ⊢
  by_cases hempty : fraction = []
  · -- Without digits behind the point there is a fault, whatever its words.
    rw [if_pos hempty] at h
    cases hend : behind.isEmpty with
    | true =>
        rw [hend] at h
        cases h
    | false =>
        rw [hend] at h
        cases h
  · rw [if_neg hempty] at h ⊢
    simp only [reduceCtorEq, if_false] at h ⊢
    exact (undisturbed_exponentOr hrest _ _ _ (undisturbed_floatOf negative _ _)).behind h middle

/-- A number without a fraction. -/
theorem readFraction_of_ne (mode : Mode) (negative : Bool) (whole : List Char)
    {text : List Char} (hpoint : text.head? ≠ some '.') (offset : Nat) :
    readFraction mode negative whole ⟨text, offset⟩ =
      if startsExponent ⟨text, offset⟩ then
        readExponent mode negative (takeWord 0 whole).1 (takeWord 0 whole).2.length ⟨text, offset⟩
      else if mode = .skip then .ok (.integer 0, ⟨text, offset⟩)
      else if (takeWord 0 whole).2 = [] then
        integerLiteral negative (takeWord 0 whole).1 ⟨text, offset⟩
      else floatOf negative (takeWord 0 whole).1 (takeWord 0 whole).2.length ⟨text, offset⟩ := by
  unfold readFraction
  cases text with
  | nil => rfl
  | cons c text =>
      have hc : c ≠ '.' := fun hc => hpoint (congrArg some hc)
      simp [hc]

theorem undisturbed_readFraction (hrest : EndsNumber rest) (negative : Bool) (whole : List Char) :
    Undisturbed rest (readFraction .keep negative whole) := by
  constructor
  intro text offset found left later h start
  by_cases hpoint : text.head? = some '.'
  · cases text with
    | nil => cases hpoint
    | cons c text =>
        cases hpoint
        exact undisturbed_readFraction_point hrest negative whole h start
  · have hbehind : (text ++ rest).head? ≠ some '.' := by
      cases text with
      | nil => exact fun hc => (hrest _ hc).2.1 rfl
      | cons c text => exact hpoint
    rw [readFraction_of_ne _ _ _ hpoint] at h
    rw [readFraction_of_ne _ _ _ hbehind]
    simp only [reduceCtorEq, if_false] at h ⊢
    have hplain : Undisturbed rest fun cursor =>
        if (takeWord 0 whole).2 = [] then integerLiteral negative (takeWord 0 whole).1 cursor
        else floatOf negative (takeWord 0 whole).1 (takeWord 0 whole).2.length cursor :=
      undisturbed_ite (undisturbed_integerLiteral _ _) (undisturbed_floatOf _ _ _)
    exact (undisturbed_exponentOr hrest _ _ _ hplain).behind h start

/-!
## Numbers
-/

theorem undisturbed_readNumber (hrest : EndsNumber rest) (negative : Bool) :
    Undisturbed rest (readNumber .keep negative) := by
  constructor
  intro text offset found left later h start
  cases text with
  | nil => cases h
  | cons c text =>
      unfold readNumber at h ⊢
      dsimp only [List.cons_append] at h ⊢
      by_cases hzero : c = '0'
      · rw [if_pos hzero] at h ⊢
        cases text with
        | nil =>
            cases rest with
            | nil => exact (undisturbed_readFraction hrest _ _).behind h _
            | cons d rest =>
                have hd := (hrest d rfl).1
                dsimp only [List.nil_append]
                rw [if_neg (Bool.eq_false_iff.mp hd)]
                exact (undisturbed_readFraction hrest _ _).behind h _
        | cons d text =>
            dsimp only [List.cons_append] at h ⊢
            by_cases hd : Text.isDigit d = true
            · rw [if_pos hd] at h
              cases h
            · rw [if_neg hd] at h ⊢
              exact (undisturbed_readFraction hrest _ _).behind h _
      · rw [if_neg hzero] at h ⊢
        by_cases hc : Text.isDigit c = true
        · rw [if_pos hc] at h ⊢
          rcases takeDigits_behind hrest (c :: text) offset start with ⟨middle, htake⟩
          rw [List.cons_append] at htake
          rw [htake]
          exact (undisturbed_readFraction hrest _ _).behind h _
        · rw [if_neg hc] at h
          cases h

end Behind

/-!
## Floating point numbers
-/

section Floats

variable {negative : Bool} {magnitude : Binary64}

/-- Behind its sign, the text of a floating point number is read to its end, as that number.  Not
every number has such a text, as a reader rounds after each of its steps. -/
def FloatReadsBack (negative : Bool) (magnitude : Binary64) : Prop :=
  exists later, readNumber .keep negative (.start (JsonNumber.magnitudeText magnitude)) =
    .ok (.float negative magnitude, ⟨[], later⟩)

theorem FloatReadsBack.opens (h : FloatReadsBack negative magnitude) :
    exists c tail, JsonNumber.magnitudeText magnitude = c :: tail ∧ Text.isDigit c = true := by
  rcases h with ⟨later, h⟩
  cases htext : JsonNumber.magnitudeText magnitude with
  | nil =>
      rw [htext] at h
      cases h
  | cons c tail =>
      refine ⟨c, tail, rfl, ?_⟩
      by_contra hc
      have hzero : c ≠ '0' := by
        rintro rfl
        exact hc rfl
      rw [htext] at h
      unfold readNumber Cursor.start at h
      dsimp only at h
      rw [if_neg hzero, if_neg hc] at h
      cases h

theorem print_float (negative : Bool) (magnitude : Binary64) :
    print (.number (.float negative magnitude)) =
      if negative then '-' :: JsonNumber.magnitudeText magnitude
      else JsonNumber.magnitudeText magnitude := by
  simp [print, JsonNumber.text]

theorem FloatReadsBack.print_eq_cons (h : FloatReadsBack negative magnitude) :
    exists c tail, print (.number (.float negative magnitude)) = c :: tail ∧ OpensNumber c := by
  rw [print_float]
  cases negative with
  | true => exact ⟨_, _, rfl, .inl rfl⟩
  | false =>
      rcases h.opens with ⟨c, tail, htext, hc⟩
      exact ⟨c, tail, htext, .inr hc⟩

theorem FloatReadsBack.readValue (h : FloatReadsBack negative magnitude) (fuel depth : Nat)
    {rest : List Char} (hrest : EndsNumber rest) (offset : Nat) :
    exists later, readValue .keep (fuel + 1) depth
        ⟨print (.number (.float negative magnitude)) ++ rest, offset⟩ =
      .ok (.number (.float negative magnitude), ⟨rest, later⟩) := by
  rcases h with ⟨first, hread⟩
  rw [print_float]
  cases negative with
  | true =>
      rcases (undisturbed_readNumber hrest true).behind hread (offset + 1) with ⟨later, hnumber⟩
      refine ⟨later, ?_⟩
      rw [if_pos rfl, List.cons_append, readValue_minus, hnumber]
      rfl
  | false =>
      rcases FloatReadsBack.opens ⟨first, hread⟩ with ⟨c, tail, htext, hc⟩
      rcases (undisturbed_readNumber hrest false).behind hread offset with ⟨later, hnumber⟩
      rw [htext, List.cons_append] at hnumber
      refine ⟨later, ?_⟩
      rw [if_neg Bool.false_ne_true, htext, List.cons_append, readValue_digit fuel depth hc,
        hnumber]
      rfl

end Floats

end Json

end SecretProjection
