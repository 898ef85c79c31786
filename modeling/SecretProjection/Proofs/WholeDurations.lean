import SecretProjection.Proofs.DurationSearch
import SecretProjection.Proofs.WholeNumbers

/-!
# Durations in whole units

Counts of whole units are added without any rounding while the sum stays below `2 ^ 53`
nanoseconds: every number met on the way is a natural below that bound, and these are numbers of the
floating point format.  Such durations therefore do not depend on the order of their terms.
-/

namespace SecretProjection

namespace Duration

/-- A number of units as it is written.  Zeros may stand in front. -/
structure Count where
  digits : List Char
  unit : TimeUnit
  spelling : List Char
  isDigits : Digits digits
  isSpelling : (unit, spelling) ∈ TimeUnit.spellings

namespace Count

def text (count : Count) : List Char := count.digits ++ count.spelling

/-- The nanoseconds that the units are worth together. -/
def worth (count : Count) : Nat := Nat.ofDigitChars 10 count.digits 0 * count.unit.nanoseconds

/-- Counts written one behind the other. -/
def source (counts : List Count) : String := String.ofList (counts.flatMap text)

def total (counts : List Count) : Nat := (counts.map worth).sum

/-!
# Terms
-/

def term (count : Count) : Term := ⟨count.digits, [], count.unit⟩

theorem written_term (count : Count) : count.term.Written count.text :=
  .plain count.isDigits count.isSpelling

theorem row_source (counts : List Count) : Row (counts.map term) (counts.flatMap text) := by
  induction counts with
  | nil => exact .nil
  | cons count counts ih => exact .cons count.written_term ih

theorem one_le_nanoseconds (unit : TimeUnit) : 1 ≤ unit.nanoseconds := by
  cases unit <;> decide

/-- Neither the number nor its product with the unit is rounded. -/
theorem nanoseconds_term {count : Count} (h : count.worth < 2 ^ 53) :
    count.term.nanoseconds = some count.worth := by
  have hdigits : Text.digitsValue (count.digits ++ []) = Nat.ofDigitChars 10 count.digits 0 := by
    rw [List.append_nil, Text.digitsValue_eq]
  have hnumber : Nat.ofDigitChars 10 count.digits 0 < 2 ^ 53 := by
    refine Nat.lt_of_le_of_lt ?_ h
    exact Nat.le_mul_of_pos_right _ (one_le_nanoseconds count.unit)
  rcases Binary64.exists_ofDecimal hnumber with ⟨x, hread, hx⟩
  rcases hx.exists_scaleBy (m := count.unit.nanoseconds) h with ⟨y, hscale, hy⟩
  have hpoint : -(([] : List Char).length : Int) = 0 := rfl
  simp only [Term.nanoseconds, term, hdigits, hpoint, hread, Option.bind_some, hscale,
    Option.map_some, hy.round_eq]
  rfl

/-!
# Sums
-/

theorem total_cons (count : Count) (counts : List Count) :
    total (count :: counts) = count.worth + total counts := by
  simp [total]

theorem total_append (counts more : List Count) :
    total (counts ++ more) = total counts + total more := by
  simp [total]

theorem source_append (counts more : List Count) :
    source (counts ++ more) = source counts ++ source more := by
  simp [source]

/-- No sum on the way is rounded, as all of them stay below the bound. -/
theorem total_map_term {sum : Nat} {counts : List Count} (h : sum + total counts < 2 ^ 53) :
    Duration.total sum (counts.map term) = some (sum + total counts) := by
  induction counts generalizing sum with
  | nil => rfl
  | cons count counts ih =>
      rw [total_cons] at h ⊢
      have hworth : count.worth < 2 ^ 53 := by omega
      have hstep : sum + count.worth < 2 ^ 53 := by omega
      have hrest : sum + count.worth + total counts < 2 ^ 53 := by omega
      rw [List.map_cons, Duration.total, nanoseconds_term hworth]
      simp only [Binary64.addWhole_eq hstep]
      rw [ih hrest, Nat.add_assoc]

theorem spells_source {counts : List Count} (hne : counts ≠ []) (h : total counts < 2 ^ 53) :
    Spells (source counts) ⟨total counts⟩ := by
  have htotal : Duration.total 0 (counts.map term) = some (total counts) := by
    rw [total_map_term (by rwa [Nat.zero_add]), Nat.zero_add]
  refine ⟨[], counts.flatMap text, [], ?_, ?_, ?_, ?_⟩
  · rw [source, String.toList_ofList, List.nil_append, List.append_nil]
  · intro c hc
    cases hc
  · intro c hc
    cases hc
  · refine .row ?_ (row_source counts) htotal (Nat.lt_trans h (by decide))
    intro hnil
    exact hne (List.map_eq_nil_iff.mp hnil)

theorem period_source {counts : List Count} (hne : counts ≠ []) (h : total counts < 2 ^ 53) :
    Schedule.period (source counts) = .ok ⟨total counts⟩ := by
  rw [Schedule.period, parse?_eq_some_iff.mpr (spells_source hne h)]

end Count

/-- Counts of units that come to less than `2 ^ 53` nanoseconds are read exactly, also by searching.
Their order does not matter, and counts written behind them are added. -/
theorem whole_units_are_exact (counts : List Count) (hne : counts ≠ [])
    (h : Count.total counts < 2 ^ 53) :
    Schedule.period (Count.source counts) = .ok ⟨Count.total counts⟩ ∧
    (forall digit : Char -> Bool, Search.DigitClass digit ->
      Search.parse? digit (Count.source counts) = some ⟨Count.total counts⟩) ∧
    (forall others : List Count, others.Perm counts ->
      Schedule.period (Count.source others) = Schedule.period (Count.source counts)) ∧
    forall more : List Count, more ≠ [] -> Count.total counts + Count.total more < 2 ^ 53 ->
      exists d, Schedule.period (Count.source more) = .ok d ∧
        Schedule.period (Count.source counts ++ Count.source more) =
          .ok (⟨Count.total counts⟩ + d) := by
  have hread := Count.period_source hne h
  refine ⟨hread, ?_, ?_, ?_⟩
  · intro digit hdigit
    rw [Search.parse?_eq hdigit]
    exact parse?_eq_some_iff.mpr (Count.spells_source hne h)
  · intro others hperm
    have htotal : Count.total others = Count.total counts := (hperm.map Count.worth).sum_nat
    have hothers : others ≠ [] := by
      intro hnil
      rw [hnil] at hperm
      exact hne hperm.nil_eq.symm
    rw [Count.period_source hothers (by rwa [htotal]), hread, htotal]
  · intro more hmore hsum
    have hbound : Count.total more < 2 ^ 53 := by omega
    refine ⟨⟨Count.total more⟩, Count.period_source hmore hbound, ?_⟩
    rw [← Count.source_append, Count.period_source (List.append_ne_nil_of_left_ne_nil hne more),
      Count.total_append]
    · rfl
    · rwa [Count.total_append]

namespace Sample

/-- Seven minutes with zeros in front. -/
def minutes : Count where
  digits := ['0', '0', '7']
  unit := .minute
  spelling := ['m']
  isDigits := ⟨by decide, List.all_eq_true.mp (by decide)⟩
  isSpelling := by decide

def hour : Count where
  digits := ['1']
  unit := .hour
  spelling := ['h']
  isDigits := ⟨by decide, List.all_eq_true.mp (by decide)⟩
  isSpelling := by decide

/-- Together with one hour and seven minutes these are one nanosecond less than the bound. -/
def nanoseconds : Count where
  digits := "9003179254740991".toList
  unit := .nanosecond
  spelling := ['n', 's']
  isDigits := ⟨by decide, List.all_eq_true.mp (by decide)⟩
  isSpelling := by decide

end Sample

theorem largest_whole_period :
    Schedule.period "007m9003179254740991ns1h" = .ok ⟨2 ^ 53 - 1⟩ ∧
    Schedule.period "1h007m9003179254740991ns" = .ok ⟨2 ^ 53 - 1⟩ ∧
    (exists d, Schedule.period "1h1h" = .ok d ∧
      Schedule.period ("007m" ++ "1h1h") = .ok (.ofSeconds 420 + d)) := by
  have htexts : Count.source [Sample.minutes, Sample.nanoseconds, Sample.hour] =
      "007m9003179254740991ns1h" := by decide
  have hturned : Count.source [Sample.hour, Sample.minutes, Sample.nanoseconds] =
      "1h007m9003179254740991ns" := by decide
  have hperm : [Sample.hour, Sample.minutes, Sample.nanoseconds].Perm
      [Sample.minutes, Sample.nanoseconds, Sample.hour] :=
    @List.perm_append_comm _ [Sample.hour] [Sample.minutes, Sample.nanoseconds]
  have hbound : Count.total [Sample.minutes, Sample.nanoseconds, Sample.hour] < 2 ^ 53 := by decide
  have hlargest := whole_units_are_exact _ (List.cons_ne_nil _ _) hbound
  have hread : Schedule.period "007m9003179254740991ns1h" = .ok ⟨2 ^ 53 - 1⟩ := by
    rw [← htexts, hlargest.1]
    rfl
  refine ⟨hread, ?_, ?_⟩
  · rw [← hturned, hlargest.2.2.1 _ hperm, htexts, hread]
  · have hfirst := whole_units_are_exact [Sample.minutes] (List.cons_ne_nil _ _) (by decide)
    exact hfirst.2.2.2 [Sample.hour, Sample.hour] (List.cons_ne_nil _ _) (by decide)

end Duration

end SecretProjection
