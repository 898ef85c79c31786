import SecretProjection.Json.Shape
import SecretProjection.Proofs.Digits
import SecretProjection.Proofs.StringLiterals

/-!
# Texts of values

What the reader does with the parts of a printed value: with literals and numbers, and with the
commas, colons and brackets between the values.  Of an offset only the faults depend, so that these
statements leave it open.

A number is the only value that does not say itself where it ends, so that something has to be
known about what stands behind it.
-/

namespace SecretProjection

namespace Json

/-!
## Places between values
-/

/-- What may stand behind a number: nothing that could belong to it. -/
def EndsNumber (rest : List Char) : Prop :=
  forall c, rest.head? = some c -> Text.isDigit c = false ∧ c ≠ '.' ∧ c ≠ 'e' ∧ c ≠ 'E'

theorem endsNumber_cons {c : Char} (rest : List Char)
    (h : c = ',' ∨ c = ']' ∨ c = '\x7d') : EndsNumber (c :: rest) := by
  intro d hd
  cases hd
  rcases h with rfl | rfl | rfl <;> decide

theorem endsNumber_nil : EndsNumber [] := nofun

theorem Cursor.skipBlank_cons {c : Char} (h : isJsonBlank c = false) (rest : List Char)
    (offset : Nat) : (⟨c :: rest, offset⟩ : Cursor).skipBlank = ⟨c :: rest, offset⟩ := by
  simp [skipBlank, h]

/-- What stands in front of an item or a member. -/
def separator (first : Bool) : List Char := if first then [] else [',']

theorem nextItem_open (first : Bool) {c : Char} (hblank : Cursor.isJsonBlank c = false)
    (hclose : c ≠ ']') (rest : List Char) (offset : Nat) :
    exists later, nextItem .keep first ⟨separator first ++ c :: rest, offset⟩ =
      .ok (some ⟨c :: rest, later⟩) := by
  cases first with
  | true =>
      refine ⟨offset, ?_⟩
      unfold nextItem separator
      simp [Cursor.skipBlank_cons hblank, hclose]
  | false =>
      have hafter : ((⟨',' :: c :: rest, offset⟩ : Cursor).skip ',' (c :: rest)).skipBlank =
          ⟨c :: rest, offset + 1⟩ := Cursor.skipBlank_cons hblank _ _
      have hcomma : (⟨',' :: c :: rest, offset⟩ : Cursor).skipBlank = ⟨',' :: c :: rest, offset⟩ :=
        Cursor.skipBlank_cons (by decide) _ _
      refine ⟨offset + 1, ?_⟩
      unfold nextItem separator
      simp [hcomma, hafter, hclose]

theorem nextItem_close (first : Bool) (rest : List Char) (offset : Nat) :
    nextItem .keep first ⟨']' :: rest, offset⟩ = .ok none := by
  unfold nextItem
  rw [Cursor.skipBlank_cons (by decide)]
  rfl

theorem nextKey_open (first : Bool) (rest : List Char) (offset : Nat) :
    exists later, nextKey .keep first ⟨separator first ++ '"' :: rest, offset⟩ =
      .ok (some ⟨rest, later⟩) := by
  cases first with
  | true => exact ⟨_, rfl⟩
  | false => exact ⟨_, rfl⟩

theorem nextKey_close (first : Bool) (rest : List Char) (offset : Nat) :
    nextKey .keep first ⟨'\x7d' :: rest, offset⟩ = .ok none := rfl

theorem readColon_colon (rest : List Char) (offset : Nat) :
    readColon ⟨':' :: rest, offset⟩ = .ok ⟨rest, offset + 1⟩ := rfl

theorem checkDepth_of_lt {depth : Nat} (h : 1 < depth) (cursor : Cursor) :
    checkDepth .keep depth cursor = .ok () := by
  unfold checkDepth
  rw [if_neg (by omega)]

/-!
## Literals
-/

theorem readValue_quote (fuel depth : Nat) (text : String) (rest : List Char) (offset : Nat) :
    exists later, readValue .keep (fuel + 1) depth ⟨quote text ++ rest, offset⟩ =
      .ok (.string text, ⟨rest, later⟩) := by
  rcases readString_escaped text rest (offset + 1) with ⟨later, hread⟩
  have hliteral : quote text ++ rest = '"' :: (text.toList.flatMap escapeChar ++ '"' :: rest) := by
    simp [quote]
  refine ⟨later, ?_⟩
  rw [hliteral, readValue, Cursor.skipBlank_cons (by decide)]
  exact congrArg (Except.map fun (pair : String × Cursor) => (Json.string pair.1, pair.2)) hread

theorem readValue_null (fuel depth : Nat) (rest : List Char) (offset : Nat) :
    exists later, readValue .keep (fuel + 1) depth ⟨['n', 'u', 'l', 'l'] ++ rest, offset⟩ =
      .ok (.null, ⟨rest, later⟩) :=
  ⟨_, rfl⟩

theorem readValue_bool (fuel depth : Nat) (b : Bool) (rest : List Char) (offset : Nat) :
    exists later, readValue .keep (fuel + 1) depth ⟨print (.bool b) ++ rest, offset⟩ =
      .ok (.bool b, ⟨rest, later⟩) := by
  cases b with
  | true => exact ⟨_, rfl⟩
  | false => exact ⟨_, rfl⟩

/-!
## Numbers
-/

theorem ne_of_isDigit {c d : Char} (hc : Text.isDigit c = true) (hd : Text.isDigit d = false) :
    c ≠ d := by
  rintro rfl
  rw [hc] at hd
  cases hd

/-- The digits of a number start with a zero only if there is nothing else. -/
theorem toDigits_eq_zero_cons {n : Nat} {digits : List Char}
    (h : Nat.toDigits 10 n = '0' :: digits) : digits = [] := by
  induction n using Nat.strongRecOn generalizing digits with
  | _ n ih =>
      by_cases hn : n < 10
      · rw [Nat.toDigits_of_lt_base hn] at h
        injection h with _ hdigits
        exact hdigits.symm
      · rw [Nat.toDigits_of_base_le (by decide) (by omega)] at h
        rcases List.exists_cons_of_ne_nil (Nat.toDigits_ne_nil (n := n / 10) (b := 10)) with
          ⟨c, front, hfront⟩
        rw [hfront, List.cons_append] at h
        injection h with hc _
        subst hc
        have hvalue := Nat.ofDigitChars_ten_toDigits (n := n / 10)
        rw [hfront, ih (n / 10) (by omega) hfront] at hvalue
        have hzero : n / 10 = 0 := hvalue.symm
        omega

theorem takeDigits_append {digits : List Char} (hdigits : forall c, c ∈ digits -> Text.isDigit c)
    {rest : List Char} (hrest : EndsNumber rest) (offset : Nat) :
    takeDigits ⟨digits ++ rest, offset⟩ = (digits, ⟨rest, offset + digits.length⟩) := by
  have hstop : forall c, rest.head? = some c -> Text.isDigit c = false :=
    fun c hc => (hrest c hc).1
  unfold takeDigits
  rw [Text.takeWhile_run hdigits hstop, Text.dropWhile_run hdigits hstop]

theorem le_ofDigitChars (digits : List Char) (value : Nat) :
    value ≤ Nat.ofDigitChars 10 digits value := by
  induction digits generalizing value with
  | nil => exact Nat.le_refl value
  | cons c digits ih =>
      rw [Nat.ofDigitChars_cons]
      exact Nat.le_trans (by omega) (ih _)

/-- Digits that make a number of 64 bits are all taken. -/
theorem takeWord_of_lt {digits : List Char} {value : Nat}
    (h : Nat.ofDigitChars 10 digits value < 2 ^ 64) :
    takeWord value digits = (Nat.ofDigitChars 10 digits value, []) := by
  induction digits generalizing value with
  | nil => rfl
  | cons c digits ih =>
      rw [Nat.ofDigitChars_cons] at h ⊢
      have hnext : 10 * value + (c.toNat - 48) < Nat.pow 2 64 :=
        Nat.lt_of_le_of_lt (le_ofDigitChars digits _) h
      rw [takeWord]
      simp only [if_pos hnext]
      exact ih h

theorem readFraction_of_ends {rest : List Char} (hrest : EndsNumber rest) (negative : Bool)
    {whole : List Char} (h : Text.digitsValue whole < 2 ^ 64) (offset : Nat) :
    readFraction .keep negative whole ⟨rest, offset⟩ =
      integerLiteral negative (Text.digitsValue whole) ⟨rest, offset⟩ := by
  rw [Text.digitsValue_eq] at h ⊢
  unfold readFraction
  rw [takeWord_of_lt h]
  cases rest with
  | nil => rfl
  | cons c rest =>
      rcases hrest c rfl with ⟨_, hpoint, he, hE⟩
      unfold startsExponent
      simp [hpoint, he, hE]

theorem readNumber_toDigits (negative : Bool) {n : Nat} (h : n < 2 ^ 64) {rest : List Char}
    (hrest : EndsNumber rest) (offset : Nat) :
    exists later, readNumber .keep negative ⟨Nat.toDigits 10 n ++ rest, offset⟩ =
      integerLiteral negative n ⟨rest, later⟩ := by
  have hdigits : forall c, c ∈ Nat.toDigits 10 n -> Text.isDigit c :=
    fun c hc => Text.isDigit_of_mem_toDigits hc
  have hvalue : Text.digitsValue (Nat.toDigits 10 n) = n := by
    rw [Text.digitsValue_eq, Nat.ofDigitChars_ten_toDigits]
  rcases List.exists_cons_of_ne_nil (Nat.toDigits_ne_nil (n := n) (b := 10)) with
    ⟨c, tail, htext⟩
  refine ⟨offset + (Nat.toDigits 10 n).length, ?_⟩
  have hfraction := @readFraction_of_ends rest hrest negative (Nat.toDigits 10 n)
    (hvalue.symm ▸ h) (offset + (Nat.toDigits 10 n).length)
  rw [hvalue] at hfraction
  rw [← hfraction]
  by_cases hzero : c = '0'
  · subst hzero
    have htail := toDigits_eq_zero_cons htext
    subst htail
    rw [htext]
    cases rest with
    | nil => rfl
    | cons d rest =>
        unfold readNumber
        simp only [List.cons_append, List.nil_append, if_true, (hrest d rfl).1, Bool.false_eq_true,
          if_false]
        rfl
  · have htake := takeDigits_append hdigits hrest offset
    have hc : Text.isDigit c = true := hdigits c (by simp [htext])
    unfold readNumber
    rw [htake, htext]
    simp only [List.cons_append, if_neg hzero, if_pos hc]

/-- How a printed integer starts. -/
def OpensNumber (c : Char) : Prop := c = '-' ∨ Text.isDigit c = true

theorem OpensNumber.ne {c d : Char} (h : OpensNumber c) (hd : Text.isDigit d = false)
    (hminus : d ≠ '-') : c ≠ d := by
  rcases h with rfl | hc
  · exact Ne.symm hminus
  · exact ne_of_isDigit hc hd

theorem OpensNumber.not_blank {c : Char} (h : OpensNumber c) : Cursor.isJsonBlank c = false := by
  have hspace : c ≠ ' ' := h.ne (by decide) (by decide)
  have hline : c ≠ '\n' := h.ne (by decide) (by decide)
  have htab : c ≠ '\t' := h.ne (by decide) (by decide)
  have hreturn : c ≠ '\r' := h.ne (by decide) (by decide)
  simp [Cursor.isJsonBlank, hspace, hline, htab, hreturn]

theorem print_ofNat (n : Nat) : print (.ofInt (.ofNat n)) = Nat.toDigits 10 n := by
  have htext : print (.ofInt (.ofNat n)) = (toString n).toList := rfl
  rw [htext, Nat.toString_eq_ofList_toDigits, String.toList_ofList]

theorem print_negSucc (n : Nat) : print (.ofInt (.negSucc n)) = '-' :: Nat.toDigits 10 (n + 1) := by
  have htext : print (.ofInt (.negSucc n)) = ("-" ++ toString (n + 1)).toList := rfl
  simp only [htext, String.toList_append, Nat.toString_eq_ofList_toDigits, String.toList_ofList]
  rfl

theorem toDigits_eq_cons (n : Nat) :
    exists c tail, Nat.toDigits 10 n = c :: tail ∧ Text.isDigit c = true := by
  have h := Text.paddedDigits_eq_cons 0 n
  rwa [Text.paddedDigits_zero] at h

theorem print_ofInt_eq_cons (n : Int) :
    exists c tail, print (.ofInt n) = c :: tail ∧ OpensNumber c := by
  cases n with
  | ofNat n =>
      rcases toDigits_eq_cons n with ⟨c, tail, htext, hc⟩
      exact ⟨c, tail, (print_ofNat n).trans htext, .inr hc⟩
  | negSucc n => exact ⟨_, _, print_negSucc n, .inl rfl⟩

theorem integerLiteral_false (n : Nat) (cursor : Cursor) :
    integerLiteral false n cursor = .ok (.integer (.ofNat n), cursor) := rfl

theorem integerLiteral_true {n : Nat} (h : n < 2 ^ 63) (cursor : Cursor) :
    integerLiteral true (n + 1) cursor = .ok (.integer (.negSucc n), cursor) := by
  have hlimit : 0 < n + 1 ∧ n + 1 ≤ Nat.pow 2 63 := ⟨Nat.succ_pos n, h⟩
  simp only [integerLiteral, if_true, if_pos hlimit]
  rfl

/-- What a reader does with a printed integer of 64 bits: it looks for a sign, and reads the digits
behind it or from the start. -/
theorem readNumber_print {n : Int} (hlow : -(2 ^ 63) ≤ n) (hhigh : n < 2 ^ 64) {rest : List Char}
    (hrest : EndsNumber rest) (offset : Nat) :
    exists c tail later, print (.ofInt n) = c :: tail ∧ OpensNumber c ∧
      readNumber .keep (c = '-') (if c = '-' then ⟨tail ++ rest, offset + 1⟩
          else ⟨c :: (tail ++ rest), offset⟩) = .ok (.integer n, ⟨rest, later⟩) := by
  cases n with
  | ofNat n =>
      have hsize : n < 2 ^ 64 := by
        simp at hhigh
        omega
      rcases readNumber_toDigits false hsize hrest offset with ⟨later, hnumber⟩
      rcases toDigits_eq_cons n with ⟨c, tail, htext, hc⟩
      have hminus : c ≠ '-' := ne_of_isDigit hc (by decide)
      rw [integerLiteral_false, htext, List.cons_append] at hnumber
      refine ⟨c, tail, later, (print_ofNat n).trans htext, .inr hc, ?_⟩
      rw [if_neg hminus, decide_eq_false hminus]
      exact hnumber
  | negSucc n =>
      have hliteral := integerLiteral_true (n := n) (by omega)
      have hsize : n + 1 < 2 ^ 64 := by omega
      rcases readNumber_toDigits true hsize hrest (offset + 1) with ⟨later, hnumber⟩
      rw [hliteral] at hnumber
      exact ⟨_, _, later, print_negSucc n, .inl rfl, hnumber⟩

/-- An integer of 64 bits, with or without a sign, is read where it fits. -/
theorem readInteger_print {n : Int} {fits : Int -> Bool} (hlow : -(2 ^ 63) ≤ n)
    (hhigh : n < 2 ^ 64) (hfits : fits n = true) (expected : String) {rest : List Char}
    (hrest : EndsNumber rest) (offset : Nat) :
    exists later, Shape.readInteger expected fits ⟨print (.ofInt n) ++ rest, offset⟩ =
      .ok (.ofInt n, ⟨rest, later⟩) := by
  rcases readNumber_print hlow hhigh hrest offset with ⟨c, tail, later, htext, hopens, hnumber⟩
  refine ⟨later, ?_⟩
  rw [htext, List.cons_append, Shape.readInteger, Cursor.skipBlank_cons hopens.not_blank]
  rcases hopens with rfl | hc
  · simp only [decide_true, if_true] at hnumber
    have hskip : (⟨'-' :: (tail ++ rest), offset⟩ : Cursor).skip '-' (tail ++ rest) =
        ⟨tail ++ rest, offset + 1⟩ := rfl
    simp only [if_true, hskip, hnumber, if_pos hfits]
  · have hminus : c ≠ '-' := ne_of_isDigit hc (by decide)
    rw [if_neg hminus, decide_eq_false hminus] at hnumber
    simp only [if_neg hminus, hc, if_true, hnumber, if_pos hfits]

/-- Where any value may stand, a number is read behind its sign. -/
theorem readValue_digit (fuel depth : Nat) {c : Char} (hc : Text.isDigit c = true)
    (rest : List Char) (offset : Nat) :
    readValue .keep (fuel + 1) depth ⟨c :: rest, offset⟩ =
      (readNumber .keep false ⟨c :: rest, offset⟩).map fun (n, cursor) => (.number n, cursor) := by
  have hopens : OpensNumber c := .inr hc
  have hn : c ≠ 'n' := ne_of_isDigit hc (by decide)
  have ht : c ≠ 't' := ne_of_isDigit hc (by decide)
  have hf : c ≠ 'f' := ne_of_isDigit hc (by decide)
  have hminus : c ≠ '-' := ne_of_isDigit hc (by decide)
  rw [readValue, Cursor.skipBlank_cons hopens.not_blank]
  simp only [if_neg hn, if_neg ht, if_neg hf, if_neg hminus, hc, if_true]

theorem readValue_minus (fuel depth : Nat) (rest : List Char) (offset : Nat) :
    readValue .keep (fuel + 1) depth ⟨'-' :: rest, offset⟩ =
      (readNumber .keep true ⟨rest, offset + 1⟩).map fun (n, cursor) => (.number n, cursor) := rfl

/-- Where any value may stand, an integer of 64 bits is read as well. -/
theorem readValue_integer (fuel depth : Nat) {n : Int} (hlow : -(2 ^ 63) ≤ n) (hhigh : n < 2 ^ 64)
    {rest : List Char} (hrest : EndsNumber rest) (offset : Nat) :
    exists later, readValue .keep (fuel + 1) depth ⟨print (.ofInt n) ++ rest, offset⟩ =
      .ok (.ofInt n, ⟨rest, later⟩) := by
  rcases readNumber_print hlow hhigh hrest offset with ⟨c, tail, later, htext, hopens, hnumber⟩
  refine ⟨later, ?_⟩
  rw [htext, List.cons_append]
  rcases hopens with rfl | hc
  · simp only [decide_true, if_true] at hnumber
    rw [readValue_minus, hnumber]
    rfl
  · have hminus : c ≠ '-' := ne_of_isDigit hc (by decide)
    rw [if_neg hminus, decide_eq_false hminus] at hnumber
    rw [readValue_digit fuel depth hc, hnumber]
    rfl

/-!
## Items
-/

/-- Items with what separates them. -/
def itemsText (first : Bool) : List Json -> List Char
  | [] => []
  | item :: rest => separator first ++ (print item ++ itemsText false rest)

theorem printItems_eq (items : List Json) : printItems items = itemsText true items := by
  induction items with
  | nil => rfl
  | cons item rest ih =>
      cases rest with
      | nil => simp [printItems, itemsText, separator]
      | cons next rest =>
          rw [printItems, ih]
          simp [itemsText, separator]

theorem endsNumber_itemsText (items : List Json) (rest : List Char) :
    EndsNumber (itemsText false items ++ ']' :: rest) := by
  cases items with
  | nil => exact endsNumber_cons _ (.inr (.inl rfl))
  | cons item items => exact endsNumber_cons _ (.inl rfl)

/-!
## Members
-/

/-- Members with what separates them. -/
def membersText (first : Bool) : List (String × Json) -> List Char
  | [] => []
  | member :: rest =>
      separator first ++ (quote member.1 ++ (':' :: (print member.2 ++ membersText false rest)))

theorem printMembers_eq (members : List (String × Json)) :
    printMembers members = membersText true members := by
  induction members with
  | nil => rfl
  | cons member rest ih =>
      cases rest with
      | nil => simp [printMembers, membersText, separator]
      | cons next rest =>
          rw [printMembers, ih]
          simp [membersText, separator]

theorem endsNumber_membersText (members : List (String × Json)) (rest : List Char) :
    EndsNumber (membersText false members ++ '\x7d' :: rest) := by
  cases members with
  | nil => exact endsNumber_cons _ (.inr (.inr rfl))
  | cons member members => exact endsNumber_cons _ (.inl rfl)

/-- The three steps that lead over a key and its colon. -/
theorem readKey (first : Bool) (key : String) (rest : List Char) (offset : Nat) :
    exists here behind start,
      nextKey .keep first ⟨separator first ++ (quote key ++ (':' :: rest)), offset⟩ =
          .ok (some here) ∧
        readString .keep here = .ok (key, behind) ∧ readColon behind = .ok ⟨rest, start⟩ := by
  rcases nextKey_open first (key.toList.flatMap escapeChar ++ '"' :: ':' :: rest) offset with
    ⟨start, hnext⟩
  rcases readString_escaped key (':' :: rest) start with ⟨later, hread⟩
  have hliteral : quote key ++ (':' :: rest) =
      '"' :: (key.toList.flatMap escapeChar ++ '"' :: ':' :: rest) := by
    simp [quote]
  rw [hliteral]
  exact ⟨_, _, _, hnext, hread, readColon_colon rest later⟩

end Json

end SecretProjection
