import Mathlib.Tactic.IntervalCases
import SecretProjection.Instant.Calendar

/-!
# Days and dates

Each day has one date, that date exists, and it leads back to the day.

A cycle of 400 years falls into centuries, these into spans of four years, these into years, and
these into days.  The last century of a cycle, the last span of that century, and the last year of
a span may each be one day longer than the others.  A `CycleDay` is a day found in this way, and
the closed formulas of the calendar are shown to find the same year and the same day of the year.
-/

namespace SecretProjection

namespace Date

/-!
## Days of a cycle
-/

/-- A day of a cycle of 400 years, counted from the first of March of its first year. -/
structure CycleDay where
  century : Nat
  span : Nat
  year : Nat
  day : Nat
  century_le : century ≤ 3
  span_le : span ≤ 24
  year_le : year ≤ 3
  day_le : day ≤ 365
  /-- The last day of a leap year closes a span, and closes a century only at the end of all. -/
  leap : day = 365 -> year = 3 ∧ (span = 24 -> century = 3)

namespace CycleDay

def number (d : CycleDay) : Nat := 36524 * d.century + 1461 * d.span + 365 * d.year + d.day

/-- The year that a day lies in, counted within the cycle. -/
def yearNumber (d : CycleDay) : Nat := 100 * d.century + 4 * d.span + d.year

theorem yearNumber_le (d : CycleDay) : d.yearNumber ≤ 399 := by
  have hcentury := d.century_le
  have hspan := d.span_le
  have hyear := d.year_le
  unfold yearNumber
  omega

theorem number_lt (d : CycleDay) : d.number < 146097 := by
  have hcentury := d.century_le
  have hspan := d.span_le
  have hyear := d.year_le
  have hday := d.day_le
  unfold number
  omega

end CycleDay

theorem exists_century {n : Nat} (h : n < 146097) :
    exists century rest, century ≤ 3 ∧ n = 36524 * century + rest ∧ rest ≤ 36524 ∧
      (rest = 36524 -> century = 3) := by
  by_cases hlast : n = 146096
  · exact ⟨3, 36524, by omega, by omega, by omega, by omega⟩
  · exact ⟨n / 36524, n % 36524, by omega, by omega, by omega, by omega⟩

theorem exists_span {n : Nat} (h : n ≤ 36524) :
    exists span rest, span ≤ 24 ∧ n = 1461 * span + rest ∧ rest ≤ 1460 ∧
      (rest = 1460 -> span = 24 -> n = 36524) :=
  ⟨n / 1461, n % 1461, by omega, by omega, by omega, by omega⟩

theorem exists_year {n : Nat} (h : n ≤ 1460) :
    exists year day, year ≤ 3 ∧ n = 365 * year + day ∧ day ≤ 365 ∧ (day = 365 -> year = 3) := by
  by_cases hlast : n = 1460
  · exact ⟨3, 365, by omega, by omega, by omega, by omega⟩
  · exact ⟨n / 365, n % 365, by omega, by omega, by omega, by omega⟩

theorem exists_cycleDay {n : Nat} (h : n < 146097) : exists d : CycleDay, d.number = n := by
  rcases exists_century h with ⟨century, inCentury, hcentury, hn, hinCentury, hlastCentury⟩
  rcases exists_span hinCentury with ⟨span, inSpan, hspan, hcenturyEq, hinSpan, hlastSpan⟩
  rcases exists_year hinSpan with ⟨year, day, hyear, hspanEq, hday, hlastYear⟩
  have hleap : day = 365 -> year = 3 ∧ (span = 24 -> century = 3) := by
    intro heq
    have hthree := hlastYear heq
    exact ⟨hthree, fun hlast => hlastCentury (hlastSpan (by omega) hlast)⟩
  refine ⟨⟨century, span, year, day, hcentury, hspan, hyear, hday, hleap⟩, ?_⟩
  change 36524 * century + 1461 * span + 365 * year + day = n
  omega

/-!
## The formula for the year

The days that leap years add are taken out before the division by 365.  One correction is made
for each span, one is taken back for each century, and the last day of the cycle is a case of its
own.
-/

def yearOfCycle (n : Nat) : Nat := (n - n / 1460 + n / 36524 - n / 146096) / 365

theorem yearOfCycle_of_lt {century span year day : Nat} (hcentury : century ≤ 3)
    (hspan : span ≤ 24) (hyear : year ≤ 3) (hday : day < 365) :
    yearOfCycle (36524 * century + 1461 * span + 365 * year + day) =
      100 * century + 4 * span + year := by
  unfold yearOfCycle
  generalize hn : 36524 * century + 1461 * span + 365 * year + day = n
  have hcenturies : n / 36524 = century := by omega
  have hcycles : n / 146096 = 0 := by omega
  rw [hcenturies, hcycles]
  by_cases hlate : 1460 ≤ 24 * century + span + 365 * year + day
  · have hspans : n / 1460 = 25 * century + span + 1 := by omega
    rw [hspans]
    omega
  · have hspans : n / 1460 = 25 * century + span := by omega
    rw [hspans]
    omega

theorem yearOfCycle_of_leap {century span : Nat} (hcentury : century ≤ 3) (hspan : span ≤ 24)
    (hlast : span = 24 -> century = 3) :
    yearOfCycle (36524 * century + 1461 * span + 365 * 3 + 365) =
      100 * century + 4 * span + 3 := by
  by_cases hclosing : span = 24
  · have hthree := hlast hclosing
    subst hthree hclosing
    rfl
  · unfold yearOfCycle
    generalize hn : 36524 * century + 1461 * span + 365 * 3 + 365 = n
    have hcenturies : n / 36524 = century := by omega
    have hcycles : n / 146096 = 0 := by omega
    have hspans : n / 1460 = 25 * century + span + 1 := by omega
    rw [hcenturies, hcycles, hspans]
    omega

theorem yearOfCycle_number (d : CycleDay) : yearOfCycle d.number = d.yearNumber := by
  rcases Nat.lt_or_eq_of_le d.day_le with hlt | heq
  · exact yearOfCycle_of_lt d.century_le d.span_le d.year_le hlt
  · rcases d.leap heq with ⟨hyear, hlast⟩
    unfold CycleDay.number CycleDay.yearNumber
    rw [heq, hyear]
    exact yearOfCycle_of_leap d.century_le d.span_le hlast

theorem number_eq (d : CycleDay) :
    d.number = 365 * d.yearNumber + d.yearNumber / 4 - d.yearNumber / 100 + d.day := by
  rcases d with ⟨century, span, year, day, hcentury, hspan, hyear, _, _⟩
  simp only [CycleDay.number, CycleDay.yearNumber]
  generalize hy : 100 * century + 4 * span + year = y
  have hfours : y / 4 = 25 * century + span := by omega
  have hhundreds : y / 100 = century := by omega
  rw [hfours, hhundreds]
  omega

theorem dayOfYear_number (d : CycleDay) :
    d.number - (365 * d.yearNumber + d.yearNumber / 4 - d.yearNumber / 100) = d.day := by
  rw [number_eq d]
  exact Nat.add_sub_cancel_left _ _

/-!
## Months

Counted from March, five months have 153 days.
-/

def monthFromMarch (day : Nat) : Nat := (5 * day + 2) / 153

/-- The days of a year before a month, counted from March. -/
def daysBefore (month : Nat) : Nat := (153 * month + 2) / 5

def dayOfMonth (day : Nat) : Nat := day - daysBefore (monthFromMarch day) + 1

def monthOf (day : Nat) : Nat :=
  if monthFromMarch day < 10 then monthFromMarch day + 3 else monthFromMarch day - 9

/-- The date of a day of a cycle. -/
def ofCycleDay (cycle : Int) (d : CycleDay) : Date :=
  let year := (d.yearNumber : Int) + cycle * 400
  ⟨if monthOf d.day ≤ 2 then year + 1 else year, monthOf d.day, dayOfMonth d.day⟩

theorem ofDays_eq (cycle : Int) (d : CycleDay) :
    ofDays (cycle * 146097 + d.number - 719468) = ofCycleDay cycle d := by
  have hlt := d.number_lt
  have hcycle : (cycle * 146097 + d.number - 719468 + 719468) / 146097 = cycle := by omega
  have hin : ((cycle * 146097 + d.number - 719468 + 719468) % 146097).toNat = d.number := by omega
  have hyear : (d.number - d.number / 1460 + d.number / 36524 - d.number / 146096) / 365 =
      d.yearNumber := yearOfCycle_number d
  unfold ofDays ofCycleDay
  simp only [hcycle, hin, hyear, dayOfYear_number]
  rfl

theorem monthFromMarch_le {day : Nat} (h : day ≤ 365) : monthFromMarch day ≤ 11 := by
  unfold monthFromMarch
  omega

theorem daysBefore_le (day : Nat) : daysBefore (monthFromMarch day) ≤ day := by
  unfold daysBefore monthFromMarch
  omega

theorem lt_daysBefore_succ (day : Nat) : day < daysBefore (monthFromMarch day + 1) := by
  unfold daysBefore monthFromMarch
  omega

theorem toDays_of_parts {year : Int} {cycle : Int} {d : CycleDay} {month : Nat}
    (hyear : (if month ≤ 2 then year - 1 else year) = d.yearNumber + cycle * 400)
    (hmonth : (if month ≤ 2 then month + 9 else month - 3) = monthFromMarch d.day) :
    toDays ⟨year, month, dayOfMonth d.day⟩ = cycle * 146097 + d.number - 719468 := by
  have hbound := d.yearNumber_le
  have hcycle : ((d.yearNumber : Int) + cycle * 400) / 400 = cycle := by omega
  have hinCycle : (((d.yearNumber : Int) + cycle * 400) % 400).toNat = d.yearNumber := by omega
  have hday : (153 * monthFromMarch d.day + 2) / 5 + dayOfMonth d.day - 1 = d.day := by
    have hstart := daysBefore_le d.day
    change daysBefore (monthFromMarch d.day) + dayOfMonth d.day - 1 = d.day
    unfold dayOfMonth
    omega
  have hnumber : d.yearNumber * 365 + d.yearNumber / 4 - d.yearNumber / 100 + d.day = d.number := by
    rw [number_eq d, Nat.mul_comm d.yearNumber 365]
  unfold toDays
  simp only [hyear, hmonth, hcycle, hinCycle, hday, hnumber]

theorem toDays_ofCycleDay (cycle : Int) (d : CycleDay) :
    (ofCycleDay cycle d).toDays = cycle * 146097 + d.number - 719468 := by
  have hmonth := monthFromMarch_le d.day_le
  by_cases hspring : monthFromMarch d.day < 10
  · apply toDays_of_parts
    · simp [monthOf, hspring]
    · simp [monthOf, hspring]
  · have hbound : monthFromMarch d.day - 9 ≤ 2 := by omega
    apply toDays_of_parts
    · simp [monthOf, hspring, hbound]
    · simp [monthOf, hspring, hbound]
      omega

theorem exists_ofDays_eq (days : Int) :
    exists (cycle : Int) (d : CycleDay), days = cycle * 146097 + d.number - 719468 := by
  have hlt : ((days + 719468) % 146097).toNat < 146097 := by omega
  rcases exists_cycleDay hlt with ⟨d, hd⟩
  exact ⟨(days + 719468) / 146097, d, by omega⟩

/-- The date of a day leads back to the day. -/
theorem toDays_ofDays (days : Int) : (ofDays days).toDays = days := by
  rcases exists_ofDays_eq days with ⟨cycle, d, hdays⟩
  rw [hdays, ofDays_eq, toDays_ofCycleDay]

theorem isLeap_of_last {d : CycleDay} (h : d.day = 365) (cycle : Int) :
    isLeap ((d.yearNumber : Int) + cycle * 400 + 1) = true := by
  rcases d with ⟨century, span, year, day, hcentury, hspan, _, _, hleap⟩
  rcases hleap h with ⟨hyear, hlast⟩
  simp only [isLeap, CycleDay.yearNumber, Bool.and_eq_true, Bool.or_eq_true, beq_iff_eq, bne_iff_ne]
  subst hyear
  constructor
  · omega
  · by_cases hclosing : span = 24
    · right
      have := hlast hclosing
      omega
    · left
      omega

/-- Except in February, the length of a month does not depend on the year. -/
theorem length_of_month (year : Int) {month : Nat} (h : month ≤ 10) :
    daysBefore (month + 1) - daysBefore month =
      daysIn year (if month < 10 then month + 3 else month - 9) := by
  interval_cases month <;> rfl

theorem dayOfMonth_le (cycle : Int) (d : CycleDay) :
    dayOfMonth d.day ≤ daysIn (ofCycleDay cycle d).year (monthOf d.day) := by
  have hstart := daysBefore_le d.day
  have hend := lt_daysBefore_succ d.day
  rcases Nat.lt_or_eq_of_le (monthFromMarch_le d.day_le) with hlt | hlast
  · have hlength := length_of_month (ofCycleDay cycle d).year (Nat.le_of_lt_succ hlt)
    unfold monthOf
    rw [← hlength]
    unfold dayOfMonth
    omega
  · have hday := d.day_le
    have hmonth : monthOf d.day = 2 := by simp [monthOf, hlast]
    have hcount : dayOfMonth d.day = d.day - 337 + 1 := by simp [dayOfMonth, hlast, daysBefore]
    have hyear : (ofCycleDay cycle d).year = d.yearNumber + cycle * 400 + 1 := by
      simp [ofCycleDay, hmonth]
    rw [hmonth, hcount, hyear]
    by_cases hleap : d.day = 365
    · simp [daysIn, isLeap_of_last hleap cycle, hleap]
    · have hfewer : 28 ≤ daysIn (d.yearNumber + cycle * 400 + 1) 2 := by
        cases hisLeap : isLeap (d.yearNumber + cycle * 400 + 1) <;> simp [daysIn, hisLeap]
      omega

theorem exists?_ofCycleDay (cycle : Int) (d : CycleDay) : (ofCycleDay cycle d).exists? = true := by
  have hmonth := monthFromMarch_le d.day_le
  have hday := dayOfMonth_le cycle d
  simp only [exists?, Bool.and_eq_true, decide_eq_true_eq]
  refine ⟨⟨⟨?_, ?_⟩, ?_⟩, hday⟩
  · change 1 ≤ monthOf d.day
    unfold monthOf
    split <;> omega
  · change monthOf d.day ≤ 12
    unfold monthOf
    split <;> omega
  · change 1 ≤ dayOfMonth d.day
    unfold dayOfMonth
    omega

/-- The date of a day exists. -/
theorem exists?_ofDays (days : Int) : (ofDays days).exists? = true := by
  rcases exists_ofDays_eq days with ⟨cycle, d, hdays⟩
  rw [hdays, ofDays_eq]
  exact exists?_ofCycleDay cycle d

end Date

end SecretProjection
