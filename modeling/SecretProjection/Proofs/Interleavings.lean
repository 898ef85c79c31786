import Mathlib.Data.List.Sort
import SecretProjection.Proofs.Gathering

/-!
# Interleaved traces

The trace of attempts that run side by side is an interleaving of their own traces, cut short
where a failure or a deadline stops them.  A log is such a trace in which every entry carries the
position of its attempt.  What a log shows of one attempt, up to any moment, is a beginning of the
trace of that attempt, and what holds of the counts for each attempt holds of the counts over the
log.
-/

namespace SecretProjection

universe u v w

namespace Timed

/-!
# Lists that are merged
-/

section Lists

variable {β : Type u} {p : β -> Bool}

/-- A list is cut and not thinned out, if nothing is kept behind what is not. -/
theorem filter_cut {entries : List β}
    (h : entries.Pairwise fun a b => p b = true -> p a = true) : entries.filter p <+: entries := by
  induction entries with
  | nil => exact List.nil_prefix
  | cons entry entries ih =>
      rcases List.pairwise_cons.mp h with ⟨hentry, hentries⟩
      by_cases hp : p entry = true
      · rw [List.filter_cons_of_pos hp]
        exact List.cons_prefix_cons.mpr ⟨rfl, ih hentries⟩
      · have hnone : entries.filter p = [] :=
          List.filter_eq_nil_iff.mpr fun later hmem hlater => hp (hentry later hmem hlater)
        rw [List.filter_cons_of_neg hp, hnone]
        exact List.nil_prefix

variable {le : β -> β -> Bool} {xs ys : List β}

/-- A filter that drops one of two lists leaves the other one, however they are merged. -/
theorem filter_merge_of_left (h : forall x, x ∈ xs -> p x = false) :
    (List.merge xs ys le).filter p = ys.filter p := by
  induction xs, ys using List.merge.induct le with
  | case1 ys => rw [List.nil_merge]
  | case2 xs =>
      rw [List.merge_right, List.filter_nil, List.filter_eq_nil_iff]
      exact fun x hx => by simp [h x hx]
  | case3 x xs y ys hle ih =>
      have hx : ¬ p x = true := by simp [h x (List.mem_cons_self ..)]
      rw [List.cons_merge_cons_pos _ _ _ hle, List.filter_cons_of_neg hx]
      exact ih fun x hx => h x (List.mem_cons_of_mem _ hx)
  | case4 x xs y ys hle ih =>
      rw [List.cons_merge_cons_neg _ _ _ hle, List.filter_cons, List.filter_cons, ih h]

theorem filter_merge_of_right (h : forall y, y ∈ ys -> p y = false) :
    (List.merge xs ys le).filter p = xs.filter p := by
  induction xs, ys using List.merge.induct le with
  | case1 ys =>
      rw [List.nil_merge, List.filter_nil, List.filter_eq_nil_iff]
      exact fun y hy => by simp [h y hy]
  | case2 xs => rw [List.merge_right]
  | case3 x xs y ys hle ih =>
      rw [List.cons_merge_cons_pos _ _ _ hle, List.filter_cons, List.filter_cons, ih h]
  | case4 x xs y ys hle ih =>
      have hy : ¬ p y = true := by simp [h y (List.mem_cons_self ..)]
      rw [List.cons_merge_cons_neg _ _ _ hle, List.filter_cons_of_neg hy]
      exact ih fun y hy => h y (List.mem_cons_of_mem _ hy)

theorem cons_merge {x : β} (h : forall y, y ∈ ys -> le x y = true) :
    List.merge (x :: xs) ys le = x :: List.merge xs ys le := by
  cases ys with
  | nil => rw [List.merge_right, List.merge_right]
  | cons y ys => exact List.cons_merge_cons_pos _ _ _ (h y (List.mem_cons_self ..))

theorem merge_cons {y : β} (h : forall x, x ∈ xs -> ¬ le x y = true) :
    List.merge xs (y :: ys) le = y :: List.merge xs ys le := by
  cases xs with
  | nil => rw [List.nil_merge, List.nil_merge]
  | cons x xs => exact List.cons_merge_cons_neg _ _ _ (h x (List.mem_cons_self ..))

end Lists

variable {ε : Type u} {α : Type v}

/-!
# Traces in order
-/

def Ordered (trace : List (Duration × ε)) : Prop := trace.Pairwise fun a b => a.1 ≤ b.1

/-- Once a moment is not kept, no later one is. -/
def Stops (keep : Duration -> Bool) : Prop :=
  forall early late, early ≤ late -> keep late = true -> keep early = true

theorem stops_le (limit : Duration) : Stops fun time => decide (time ≤ limit) := by
  intro early late hle hlate
  have hlimit := of_decide_eq_true hlate
  exact decide_eq_true (Nat.le_trans hle hlimit)

theorem Failure.stops_allows (failure : Failure) (index : Nat) : Stops (failure.allows index) := by
  intro early late hle hlate
  unfold allows at hlate ⊢
  split at hlate <;> rename_i hindex
  · rw [if_pos hindex]
    exact stops_le _ early late hle hlate
  · rw [if_neg hindex]
    have htime := of_decide_eq_true hlate
    exact decide_eq_true (Nat.lt_of_le_of_lt hle htime)

theorem Ordered.filter_cut {trace : List (Duration × ε)} {keep : Duration -> Bool}
    (h : Ordered trace) (hkeep : Stops keep) :
    (trace.filter fun entry => keep entry.1) <+: trace :=
  Timed.filter_cut (h.imp fun hle => hkeep _ _ hle)

theorem ordered_mergeTraces {attempts : List (Timed ε α)}
    (h : forall attempt, attempt ∈ attempts -> Ordered attempt.trace)
    (keep : Nat -> Duration -> Bool) (index : Nat) : Ordered (mergeTraces keep index attempts) := by
  induction attempts generalizing index with
  | nil => exact .nil
  | cons attempt rest ih =>
      have hfirst := (h attempt (List.mem_cons_self ..)).filter fun entry => keep index entry.1
      have hrest := ih (fun other hmem => h other (List.mem_cons_of_mem _ hmem)) (index + 1)
      have hmerge := @List.pairwise_merge (Duration × ε) (fun a b => decide (a.1 ≤ b.1))
        (fun a b c hab hbc => decide_eq_true
          (Nat.le_trans (of_decide_eq_true hab) (of_decide_eq_true hbc)))
        (fun a b => by
          rw [Bool.or_eq_true, decide_eq_true_eq, decide_eq_true_eq]
          exact Nat.le_total _ _)
        _ _ (hfirst.imp fun hle => decide_eq_true hle) (hrest.imp fun hle => decide_eq_true hle)
      exact hmerge.imp fun hle => of_decide_eq_true hle

/-!
# Traces with fewer events
-/

section Events

variable {δ : Type w} (f : ε -> Option δ)

/-- Keeps some of the events of a trace, in another form. -/
def someEvents (trace : List (Duration × ε)) : List (Duration × δ) :=
  trace.filterMap fun entry => (f entry.2).map (Prod.mk entry.1)

/-- The same attempt with the events in another form, as far as they are kept. -/
def filterEvents (attempt : Timed ε α) : Timed δ α :=
  ⟨someEvents f attempt.trace, attempt.elapsed, attempt.result⟩

theorem time_of_mem_someEvents {trace : List (Duration × ε)} {entry : Duration × δ}
    (h : entry ∈ someEvents f trace) : exists event, (entry.1, event) ∈ trace := by
  rcases List.mem_filterMap.mp h with ⟨⟨time, event⟩, hmem, hentry⟩
  rcases Option.map_eq_some_iff.mp hentry with ⟨_, _, rfl⟩
  exact ⟨event, hmem⟩

theorem someEvents_filter (keep : Duration -> Bool) (trace : List (Duration × ε)) :
    someEvents f (trace.filter fun entry => keep entry.1) =
      (someEvents f trace).filter fun entry => keep entry.1 := by
  induction trace with
  | nil => rfl
  | cons entry trace ih =>
      unfold someEvents at ih ⊢
      cases hevent : f entry.2 with
      | none => by_cases hkeep : keep entry.1 = true <;> simp [hevent, hkeep, ih]
      | some event => by_cases hkeep : keep entry.1 = true <;> simp [hevent, hkeep, ih]

theorem someEvents_merge {xs ys : List (Duration × ε)} (hxs : Ordered xs) (hys : Ordered ys) :
    someEvents f (List.merge xs ys fun a b => decide (a.1 ≤ b.1)) =
      List.merge (someEvents f xs) (someEvents f ys) fun a b => decide (a.1 ≤ b.1) := by
  induction xs, ys using List.merge.induct (fun a b : Duration × ε => decide (a.1 ≤ b.1)) with
  | case1 ys =>
      rw [List.nil_merge]
      exact (List.nil_merge _).symm
  | case2 xs =>
      rw [List.merge_right]
      exact (List.merge_right _).symm
  | case3 x xs y ys hle ih =>
      have hfirst := ih (List.pairwise_cons.mp hxs).2 hys
      rw [List.cons_merge_cons_pos _ _ _ hle]
      cases hevent : f x.2 with
      | none => simpa [someEvents, hevent] using hfirst
      | some event =>
          have hlater : forall entry, entry ∈ someEvents f (y :: ys) -> x.1 ≤ entry.1 := by
            intro entry hmem
            rcases time_of_mem_someEvents f hmem with ⟨other, hother⟩
            rcases List.mem_cons.mp hother with rfl | hys'
            · exact of_decide_eq_true hle
            · exact Nat.le_trans (of_decide_eq_true hle) ((List.pairwise_cons.mp hys).1 _ hys')
          have hcons (trace : List (Duration × ε)) :
              someEvents f (x :: trace) = (x.1, event) :: someEvents f trace := by
            simp [someEvents, hevent]
          rw [hcons, hcons, hfirst, cons_merge]
          exact fun entry hmem => decide_eq_true (hlater entry hmem)
  | case4 x xs y ys hle ih =>
      have hfirst := ih hxs (List.pairwise_cons.mp hys).2
      rw [List.cons_merge_cons_neg _ _ _ hle]
      cases hevent : f y.2 with
      | none => simpa [someEvents, hevent] using hfirst
      | some event =>
          have hlater : forall entry, entry ∈ someEvents f (x :: xs) -> ¬ entry.1 ≤ y.1 := by
            intro entry hmem htime
            rw [decide_eq_true_eq] at hle
            rcases time_of_mem_someEvents f hmem with ⟨other, hother⟩
            rcases List.mem_cons.mp hother with rfl | hxs'
            · exact hle htime
            · exact hle (Nat.le_trans ((List.pairwise_cons.mp hxs).1 _ hxs') htime)
          have hcons (trace : List (Duration × ε)) :
              someEvents f (y :: trace) = (y.1, event) :: someEvents f trace := by
            simp [someEvents, hevent]
          rw [hcons, hcons, hfirst, merge_cons]
          exact fun entry hmem => by simpa using hlater entry hmem

theorem firstFailure_filterEvents (index : Nat) (attempts : List (Timed ε α)) :
    firstFailure index (attempts.map (filterEvents f)) = firstFailure index attempts := by
  induction attempts generalizing index with
  | nil => rfl
  | cons attempt rest ih =>
      simp only [List.map_cons, firstFailure, ih (index + 1)]
      rfl

theorem longest_filterEvents (attempts : List (Timed ε α)) :
    longest (attempts.map (filterEvents f)) = longest attempts := by
  induction attempts with
  | nil => rfl
  | cons attempt rest ih =>
      simp only [List.map_cons, longest, ih]
      rfl

theorem values_filterEvents (attempts : List (Timed ε α)) :
    values (attempts.map (filterEvents f)) = values attempts := by
  induction attempts with
  | nil => rfl
  | cons attempt rest ih =>
      simp only [List.map_cons, values, ih]
      rfl

/-- The events have no say in how attempts end. -/
theorem outcome_all_filterEvents (attempts : List (Timed ε α)) :
    (all (attempts.map (filterEvents f))).result = (all attempts).result ∧
      (all (attempts.map (filterEvents f))).elapsed = (all attempts).elapsed := by
  unfold all
  rw [firstFailure_filterEvents, longest_filterEvents, values_filterEvents]
  cases firstFailure 0 attempts with
  | none => exact ⟨rfl, rfl⟩
  | some failure => exact ⟨rfl, rfl⟩

theorem mergeTraces_filterEvents {attempts : List (Timed ε α)}
    (h : forall attempt, attempt ∈ attempts -> Ordered attempt.trace)
    (keep : Nat -> Duration -> Bool) (index : Nat) :
    mergeTraces keep index (attempts.map (filterEvents f)) =
      someEvents f (mergeTraces keep index attempts) := by
  induction attempts generalizing index with
  | nil => rfl
  | cons attempt rest ih =>
      have hfirst := (h attempt (List.mem_cons_self ..)).filter fun entry => keep index entry.1
      have hothers : forall other, other ∈ rest -> Ordered other.trace :=
        fun other hmem => h other (List.mem_cons_of_mem _ hmem)
      have hrest := ordered_mergeTraces hothers keep (index + 1)
      rw [List.map_cons, mergeTraces, mergeTraces, ih hothers, someEvents_merge f hfirst hrest,
        someEvents_filter]
      rfl

theorem all_filterEvents {attempts : List (Timed ε α)}
    (h : forall attempt, attempt ∈ attempts -> Ordered attempt.trace) :
    all (attempts.map (filterEvents f)) = (all attempts).filterEvents f := by
  unfold all
  rw [firstFailure_filterEvents, longest_filterEvents, values_filterEvents]
  cases firstFailure 0 attempts with
  | none => simp only [mergeTraces_filterEvents f h, filterEvents]
  | some failure => simp only [mergeTraces_filterEvents f h, filterEvents]

end Events

/-!
# Logs
-/

/-- The traces of attempts merged by time, with the position of the attempt at each entry. -/
def mergeLogs (keep : Nat -> Duration -> Bool) (index : Nat) :
    List (Timed ε α) -> List (Nat × Duration × ε)
  | [] => []
  | attempt :: rest =>
      List.merge ((attempt.trace.filter fun entry => keep index entry.1).map (Prod.mk index))
        (mergeLogs keep (index + 1) rest) fun a b => decide (a.2.1 ≤ b.2.1)

theorem map_mergeLogs (keep : Nat -> Duration -> Bool) (index : Nat)
    (attempts : List (Timed ε α)) :
    (mergeLogs keep index attempts).map (·.2) = mergeTraces keep index attempts := by
  induction attempts generalizing index with
  | nil => rfl
  | cons attempt rest ih =>
      rw [mergeLogs, mergeTraces, List.map_merge (s := fun a b => decide (a.1 ≤ b.1)), ih,
        List.map_map]
      · exact congrArg (fun trace => List.merge trace _ _) (List.map_id _)
      · intros
        rfl

/-- The entries of one attempt. -/
def entriesOf (index : Nat) (log : List (Nat × Duration × ε)) : List (Duration × ε) :=
  (log.filter fun entry => entry.1 == index).map (·.2)

theorem le_of_mem_mergeLogs {keep : Nat -> Duration -> Bool} {index : Nat}
    {attempts : List (Timed ε α)} {entry : Nat × Duration × ε}
    (h : entry ∈ mergeLogs keep index attempts) : index ≤ entry.1 := by
  induction attempts generalizing index with
  | nil => cases h
  | cons attempt rest ih =>
      rcases List.mem_merge.mp h with hfirst | hrest
      · rcases List.mem_map.mp hfirst with ⟨_, _, rfl⟩
        exact Nat.le_refl _
      · exact Nat.le_of_succ_le (ih hrest)

/-- The trace of the attempt at a position. -/
def traceAt (attempts : List (Timed ε α)) (position : Nat) : List (Duration × ε) :=
  match attempts[position]? with
  | none => []
  | some attempt => attempt.trace

theorem entriesOf_mergeLogs (keep : Nat -> Duration -> Bool) (index position : Nat)
    (attempts : List (Timed ε α)) :
    entriesOf (index + position) (mergeLogs keep index attempts) =
      (traceAt attempts position).filter fun entry => keep (index + position) entry.1 := by
  induction attempts generalizing index position with
  | nil => rfl
  | cons attempt rest ih =>
      unfold entriesOf
      rw [mergeLogs]
      cases position with
      | zero =>
          have hrest : forall entry, entry ∈ mergeLogs keep (index + 1) rest ->
              (entry.1 == index + 0) = false := by
            intro entry hmem
            have hle := le_of_mem_mergeLogs hmem
            exact beq_eq_false_iff_ne.mpr (by omega)
          rw [filter_merge_of_right hrest, List.filter_eq_self.mpr, List.map_map]
          · exact List.map_id _
          · intro entry hmem
            rcases List.mem_map.mp hmem with ⟨_, _, rfl⟩
            exact beq_self_eq_true index
      | succ position =>
          have hfirst : forall entry,
              entry ∈ (attempt.trace.filter fun entry => keep index entry.1).map (Prod.mk index) ->
                (entry.1 == index + (position + 1)) = false := by
            intro entry hmem
            rcases List.mem_map.mp hmem with ⟨_, _, rfl⟩
            exact beq_eq_false_iff_ne.mpr (by omega)
          have hshift : index + (position + 1) = index + 1 + position := by omega
          rw [filter_merge_of_left hfirst, hshift]
          exact ih (index + 1) position

/-- A log in order whose entries for each attempt are a beginning of what the attempt leaves when
nothing stops it. -/
structure Interleaves (traces : Nat -> List (Duration × ε)) (log : List (Nat × Duration × ε)) :
    Prop where
  ordered : Ordered (log.map (·.2))
  entries : forall position, entriesOf position log <+: traces position

section Logs

variable {traces : Nat -> List (Duration × ε)} {log moment : List (Nat × Duration × ε)}

/-- It can be broken off at any moment. -/
theorem Interleaves.upTo (h : Interleaves traces log) (hmoment : moment <+: log) :
    Interleaves traces moment where
  ordered := h.ordered.sublist (hmoment.map (·.2)).sublist
  entries position := ((hmoment.filter _).map _).trans (h.entries position)

/-- Without the entries of one attempt, those of the other ones are still there. -/
theorem entriesOf_filter_ne {index position : Nat} (log : List (Nat × Duration × ε)) :
    entriesOf position (log.filter fun entry => !(entry.1 == index)) =
      if position = index then [] else entriesOf position log := by
  unfold entriesOf
  rw [List.filter_filter]
  split
  case isTrue heq =>
    rw [heq]
    simp
  case isFalse hne =>
    congr 2
    funext entry
    by_cases hposition : entry.1 = position
    · simp [hposition, hne]
    · simp [hposition]

/-- What can be said of counts for each attempt can be said for the whole log. -/
theorem countP_le_of_entriesOf {p q : ε -> Bool}
    (h : forall position, (entriesOf position log).countP (fun entry => p entry.2) ≤
      (entriesOf position log).countP fun entry => q entry.2) :
    log.countP (fun entry => p entry.2.2) ≤ log.countP fun entry => q entry.2.2 := by
  -- The entries of the attempt that comes first are counted apart from all the others.
  induction hlength : log.length using Nat.strong_induction_on generalizing log with
  | _ length ih =>
      cases log with
      | nil => exact Nat.le_refl 0
      | cons entry rest =>
          have hsplit (r : ε -> Bool) := List.countP_eq_countP_filter_add (entry :: rest)
            (fun entry => r entry.2.2) fun other => other.1 == entry.1
          have hcount (r : ε -> Bool) :
              ((entry :: rest).filter fun other => other.1 == entry.1).countP
                  (fun entry => r entry.2.2) =
                (entriesOf entry.1 (entry :: rest)).countP fun entry => r entry.2 := by
            rw [entriesOf, List.countP_map]
            rfl
          have hshorter : ((entry :: rest).filter fun other => !(other.1 == entry.1)).length <
              length := by
            rw [← hlength, List.filter_cons_of_neg (by simp)]
            exact Nat.lt_succ_of_le (List.length_filter_le _ _)
          have hothers := ih _ hshorter (fun position => by
            rw [entriesOf_filter_ne]
            split
            · exact Nat.le_refl 0
            · exact h position) rfl
          have hfirst := h entry.1
          rw [hsplit p, hsplit q, hcount p, hcount q]
          exact Nat.add_le_add hfirst hothers

end Logs

/-- Side by side, attempts with traces in order leave a log of them. -/
theorem exists_log_all {attempts : List (Timed ε α)}
    (h : forall attempt, attempt ∈ attempts -> Ordered attempt.trace) :
    exists log, log.map (·.2) = (all attempts).trace ∧ Interleaves (traceAt attempts) log ∧
      forall found, (all attempts).result = .ok found ->
        forall position, entriesOf position log = traceAt attempts position := by
  have hordered (position : Nat) : Ordered (traceAt attempts position) := by
    unfold traceAt
    split
    · exact .nil
    · rename_i attempt hattempt
      exact h attempt (List.mem_of_getElem? hattempt)
  have hlog {keep : Nat -> Duration -> Bool} (hkeep : forall index, Stops (keep index)) :
      Interleaves (traceAt attempts) (mergeLogs keep 0 attempts) := by
    refine ⟨?_, fun position => ?_⟩
    · rw [map_mergeLogs]
      exact ordered_mergeTraces h keep 0
    · have hentries := entriesOf_mergeLogs keep 0 position attempts
      rw [Nat.zero_add] at hentries
      rw [hentries]
      exact (hordered position).filter_cut (hkeep position)
  unfold all
  cases firstFailure 0 attempts with
  | none =>
      refine ⟨_, map_mergeLogs _ 0 attempts, hlog fun _ _ _ _ _ => rfl, ?_⟩
      intro found _ position
      have hentries := entriesOf_mergeLogs (fun _ _ => true) 0 position attempts
      rw [Nat.zero_add, List.filter_true] at hentries
      exact hentries
  | some failure =>
      refine ⟨_, map_mergeLogs _ 0 attempts, hlog failure.stops_allows, ?_⟩
      intro found hfound
      cases hfound

/-- A deadline breaks a log off. -/
theorem exists_log_within {attempt : Timed ε α} {log : List (Nat × Duration × ε)}
    (hlog : log.map (·.2) = attempt.trace) (hordered : Ordered attempt.trace) (limit : Duration)
    (late : Fault) :
    exists moment, moment <+: log ∧ moment.map (·.2) = (attempt.within limit late).trace ∧
      forall value, (attempt.within limit late).result = .ok value -> moment = log := by
  by_cases hlimit : attempt.elapsed ≤ limit
  · rw [within, if_pos hlimit]
    exact ⟨log, List.prefix_refl log, hlog, fun _ _ => rfl⟩
  · rw [within, if_neg hlimit]
    refine ⟨log.filter fun entry => decide (entry.2.1 ≤ limit), ?_, ?_, ?_⟩
    · rw [← hlog, Ordered, List.pairwise_map] at hordered
      exact filter_cut (hordered.imp fun hle => stops_le limit _ _ hle)
    · rw [← hlog, List.filter_map]
      rfl
    · intro value hvalue
      cases hvalue

end Timed

end SecretProjection
