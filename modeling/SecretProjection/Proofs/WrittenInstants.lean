import Mathlib.Data.List.TakeWhile
import SecretProjection.Instant.Parser
import SecretProjection.Instant.Printer
import SecretProjection.Proofs.Calendar
import SecretProjection.Proofs.Digits

/-!
# Reading written instants

What is written for an instant is read as the start of its second.  Every field is written with
digits of its own, so that each reader stops where the writer of its field did.
-/

namespace SecretProjection

namespace Instant

open Text

/-!
## Numbers
-/

theorem readNumber_of_takeWhile {width places n : Nat} {rest : List Char}
    (h : ((paddedDigits places n ++ rest).take width).takeWhile isDigit = paddedDigits places n)
    (hn : n < 2 ^ 63) : readNumber width (paddedDigits places n ++ rest) = .ok (n, rest) := by
  have hvalue := digitsValue_paddedDigits places n
  have hdrop : (paddedDigits places n ++ rest).drop (paddedDigits places n).length = rest :=
    List.drop_left
  have hbound : n < Nat.pow 2 63 := hn
  rcases paddedDigits_eq_cons places n with ⟨c, digits, hdigits, hc⟩
  rw [hdigits] at h hvalue hdrop ⊢
  rw [List.cons_append] at h hdrop ⊢
  simp only [readNumber, hc, if_true, h, hvalue, hbound, hdrop]

/-- A number that has as many digits as are read, whatever follows. -/
theorem readNumber_paddedDigits {width n : Nat} (hwidth : 0 < width) (hn : n < 10 ^ width)
    (hbound : n < 2 ^ 63) (rest : List Char) :
    readNumber width (paddedDigits width n ++ rest) = .ok (n, rest) := by
  apply readNumber_of_takeWhile _ hbound
  have htake : (paddedDigits width n ++ rest).take width = paddedDigits width n := by
    have hlength := length_paddedDigits hwidth hn
    rw [List.take_append_of_le_length (Nat.le_of_eq hlength.symm)]
    exact List.take_of_length_le (Nat.le_of_eq hlength)
  rw [htake]
  apply List.takeWhile_eq_self_iff.mpr
  intro c hc
  exact isDigit_of_mem_paddedDigits hc

/-- A number of any length that ends before another character. -/
theorem readNumber_length_paddedDigits {places n : Nat} {c : Char} (hc : isDigit c = false)
    (hbound : n < 2 ^ 63) (rest : List Char) :
    readNumber (paddedDigits places n ++ c :: rest).length (paddedDigits places n ++ c :: rest) =
      .ok (n, c :: rest) := by
  apply readNumber_of_takeWhile _ hbound
  rw [List.take_length, List.takeWhile_append_of_pos]
  · simp [hc]
  · intro digit hdigit
    exact isDigit_of_mem_paddedDigits hdigit

theorem readField_paddedDigits {low high n : Nat} (hlow : low ≤ n) (hhigh : n ≤ high)
    (hn : n < 100) (rest : List Char) :
    readField low high (paddedDigits 2 n ++ rest) = .ok (n, rest) := by
  have hnumber : readNumber 2 (paddedDigits 2 n ++ rest) = .ok (n, rest) :=
    readNumber_paddedDigits (by decide) hn (by omega) rest
  simp only [readField, trimStart_paddedDigits_append, hnumber, hlow, hhigh, and_self, if_true]

/-!
## Years
-/

theorem head_isDigit_of_paddedDigits {width n : Nat} {c : Char} {rest tail : List Char}
    (h : paddedDigits width n ++ rest = c :: tail) : isDigit c = true := by
  rcases paddedDigits_eq_cons width n with ⟨d, digits, hdigits, hd⟩
  rw [hdigits] at h
  cases h
  exact hd

/-- A year of four digits has no sign. -/
theorem readYear_plain {year : Int} (hlow : 0 ≤ year) (hhigh : year ≤ 9999) (rest : List Char) :
    readYear (yearDigits year ++ '-' :: rest) = .ok (year, '-' :: rest) := by
  have hnat : (year.toNat : Int) = year := Int.toNat_of_nonneg hlow
  have hnumber : readNumber 4 (paddedDigits 4 year.toNat ++ '-' :: rest) =
      .ok (year.toNat, '-' :: rest) :=
    readNumber_paddedDigits (by decide) (by omega) (by omega) _
  have hrange : -Int.pow 2 31 ≤ year ∧ year < Int.pow 2 31 := by
    have hpow : Int.pow 2 31 = 2147483648 := by decide
    omega
  unfold yearDigits
  rw [if_pos ⟨hlow, hhigh⟩]
  unfold readYear
  simp only [trimStart_paddedDigits_append]
  split
  · rename_i heq
    exact absurd (head_isDigit_of_paddedDigits heq) (by decide)
  · rename_i heq
    exact absurd (head_isDigit_of_paddedDigits heq) (by decide)
  · simp only [hnumber, hnat, hrange, and_self, if_true]

/-- Any other year has a sign and at least four digits. -/
theorem readYear_signed {year : Int} (h : ¬ (0 ≤ year ∧ year ≤ 9999)) (hlow : -2 ^ 31 ≤ year)
    (hhigh : year < 2 ^ 31) (rest : List Char) :
    readYear (yearDigits year ++ '-' :: rest) = .ok (year, '-' :: rest) := by
  have hnumber : readNumber (paddedDigits 4 year.natAbs ++ '-' :: rest).length
      (paddedDigits 4 year.natAbs ++ '-' :: rest) = .ok (year.natAbs, '-' :: rest) :=
    readNumber_length_paddedDigits (by decide) (by omega) rest
  have hrange : -Int.pow 2 31 ≤ year ∧ year < Int.pow 2 31 := ⟨hlow, hhigh⟩
  unfold yearDigits
  rw [if_neg h]
  by_cases hneg : year < 0
  · have hvalue : -(year.natAbs : Int) = year := by omega
    rw [if_pos hneg, List.cons_append]
    unfold readYear
    rw [trimStart_cons_of_not_blank (by decide)]
    simp only [hnumber, hvalue, hrange, and_self, if_true]
  · have hvalue : (year.natAbs : Int) = year := by omega
    rw [if_neg hneg, List.cons_append]
    unfold readYear
    rw [trimStart_cons_of_not_blank (by decide)]
    simp only [hnumber, hvalue, hrange, and_self, if_true]

theorem readYear_yearDigits {year : Int} (hlow : -2 ^ 31 ≤ year) (hhigh : year < 2 ^ 31)
    (rest : List Char) :
    readYear (yearDigits year ++ '-' :: rest) = .ok (year, '-' :: rest) := by
  by_cases h : 0 ≤ year ∧ year ≤ 9999
  · exact readYear_plain h.1 h.2 rest
  · exact readYear_signed h hlow hhigh rest

/-!
## Fields
-/

theorem readSeparator_cons {separator : Char} (h : isBlank separator = false) (rest : List Char) :
    readSeparator separator (separator :: rest) = .ok rest := by
  unfold readSeparator
  rw [trimStart_cons_of_not_blank h]
  simp

theorem daysIn_le (year : Int) (month : Nat) : Date.daysIn year month ≤ 31 := by
  unfold Date.daysIn
  split
  · split <;> decide
  · split <;> decide

theorem readDate_of_exists {date : Date} (hdate : date.exists? = true)
    (hlow : -2 ^ 31 ≤ date.year) (hhigh : date.year < 2 ^ 31) (rest : List Char) :
    readDate (yearDigits date.year ++ '-' :: (paddedDigits 2 date.month ++ '-' ::
      (paddedDigits 2 date.day ++ rest))) = .ok (date, rest) := by
  simp only [Date.exists?, Bool.and_eq_true, decide_eq_true_eq] at hdate
  rcases hdate with ⟨⟨⟨hmonth, hmonths⟩, hday⟩, hdays⟩
  have hlength : date.day ≤ 31 := Nat.le_trans hdays (daysIn_le _ _)
  have hdash : isBlank '-' = false := by decide
  simp only [readDate, readYear_yearDigits hlow hhigh, readSeparator_cons hdash,
    readField_paddedDigits hmonth hmonths (by omega),
    readField_paddedDigits hday hlength (by omega), bind, Except.bind, pure, Except.pure]

theorem readMark_t (rest : List Char) : readMark ('T' :: rest) = .ok rest := by
  simp [readMark]

theorem readFraction_z : readFraction ['Z'] = .ok (0, ['Z']) := rfl

theorem readOffset_z : readOffset ['Z'] = .ok (0, []) := by decide

theorem secondOfDay_lt (t : Instant) : t.secondOfDay < 86400 := by
  unfold secondOfDay
  omega

/-- The fields of an instant, without what is beyond the whole second. -/
def fields (t : Instant) : Fields where
  date := t.date
  hour := t.secondOfDay / 3600
  minute := t.secondOfDay / 60 % 60
  second := t.secondOfDay % 60
  subsecond := 0
  offset := 0

theorem readFields_chars {t : Instant} (hlow : -2 ^ 31 ≤ t.date.year)
    (hhigh : t.date.year < 2 ^ 31) : readFields t.chars = .ok t.fields := by
  have hday := secondOfDay_lt t
  have hhour : t.secondOfDay / 3600 ≤ 23 := by omega
  have hminute : t.secondOfDay / 60 % 60 ≤ 59 := by omega
  have hsecond : t.secondOfDay % 60 ≤ 60 := by omega
  have hcolon : isBlank ':' = false := by decide
  have hexists : t.date.exists? = true := Date.exists?_ofDays _
  simp only [readFields, chars, List.append_assoc, List.cons_append, List.nil_append,
    readDate_of_exists hexists hlow hhigh, readMark_t, readSeparator_cons hcolon,
    readField_paddedDigits (Nat.zero_le _) hhour (by omega),
    readField_paddedDigits (Nat.zero_le _) hminute (by omega),
    readField_paddedDigits (Nat.zero_le _) hsecond (by omega), readFraction_z, readOffset_z,
    bind, Except.bind, pure, Except.pure, trimStart_nil, if_true]
  rfl

/-!
## Instants
-/

theorem days_bounds (t : Instant) :
    -96465292 ≤ t.seconds / 86400 ∧ t.seconds / 86400 ≤ 95026236 := by
  have hlower := t.lower
  have hupper := t.upper
  simp only [firstSecond, lastSecond] at hlower hupper
  unfold seconds
  omega

theorem seconds_eq (t : Instant) :
    t.seconds / 86400 * 86400 + (t.secondOfDay / 3600 : Nat) * 3600 +
      (t.secondOfDay / 60 % 60 : Nat) * 60 + (t.secondOfDay % 60 : Nat) = t.seconds := by
  have hday : (t.secondOfDay : Int) = t.seconds % 86400 := by
    unfold secondOfDay
    omega
  omega

theorem ofFields_fields (t : Instant) : ofFields t.fields = .ok t.wholeSecond := by
  have hdays : t.date.toDays = t.seconds / 86400 := Date.toDays_ofDays _
  have hexists : t.date.exists? = true := Date.exists?_ofDays _
  have hbounds := days_bounds t
  have hwithin : ¬ (¬ t.date.exists? = true ∨ t.seconds / 86400 * 86400 < firstSecond ∨
      lastSecond < t.seconds / 86400 * 86400) := by
    simp only [hexists, firstSecond, lastSecond, not_true_eq_false, false_or]
    omega
  have hparts : ofParts? (t.seconds - 0) 0 = some t.wholeSecond := by
    unfold ofParts?
    rw [ofNanoseconds?_eq_some, Int.sub_zero]
    exact (Int.add_zero _).symm
  simp only [ofFields, fields, hdays, hwithin, seconds_eq, if_false, hparts]
  rfl

theorem year_bounds (t : Instant) : -2 ^ 31 ≤ t.date.year ∧ t.date.year < 2 ^ 31 := by
  have hbounds := days_bounds t
  unfold date
  rcases Date.exists_ofDays_eq (t.seconds / 86400) with ⟨cycle, d, hdays⟩
  have hnumber := d.number_lt
  have hyear := d.yearNumber_le
  rw [hdays, Date.ofDays_eq]
  unfold Date.ofCycleDay
  simp only
  split <;> omega

/-- What is written for an instant is read as the start of its second. -/
theorem parse_text (t : Instant) : parse t.text = .ok t.wholeSecond := by
  rcases year_bounds t with ⟨hlow, hhigh⟩
  unfold parse text
  rw [String.toList_ofList]
  unfold parseChars
  rw [readFields_chars hlow hhigh]
  exact ofFields_fields t

end Instant

end SecretProjection
