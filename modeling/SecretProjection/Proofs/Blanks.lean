import Mathlib.Data.List.TakeWhile
import SecretProjection.Text.Blank

/-!
# Blanks at the ends

How the cutting of white space from the ends of a text goes with putting texts together.  Trimming
leaves what stands between the outermost characters that are not blank, and together with blanks
this is the whole text again.
-/

namespace SecretProjection

namespace Text

/-!
## Texts put together
-/

theorem trimStart_append_of_blank {blanks : List Char}
    (h : forall c, c ∈ blanks -> isBlank c = true) (text : List Char) :
    trimStart (blanks ++ text) = trimStart text := by
  unfold trimStart
  rw [List.dropWhile_append_of_pos h]

theorem trimEnd_append_of_blank {blanks : List Char}
    (h : forall c, c ∈ blanks -> isBlank c = true) (text : List Char) :
    trimEnd (text ++ blanks) = trimEnd text := by
  unfold trimEnd
  rw [List.reverse_append, List.dropWhile_append_of_pos]
  intro c hc
  exact h c (List.mem_reverse.mp hc)

/-- A character that is not blank keeps what stands behind it. -/
theorem trimStart_append_cons {c : Char} (h : isBlank c = false) (text rest : List Char) :
    trimStart (text ++ c :: rest) = trimStart text ++ c :: rest := by
  induction text with
  | nil => exact trimStart_cons_of_not_blank h rest
  | cons d text ih =>
      by_cases hblank : isBlank d = true
      · rw [List.cons_append, trimStart_cons_of_blank hblank, ih, trimStart_cons_of_blank hblank]
      · rw [Bool.not_eq_true] at hblank
        rw [List.cons_append, trimStart_cons_of_not_blank hblank,
          trimStart_cons_of_not_blank hblank]
        rfl

theorem trimEnd_append_cons {c : Char} (h : isBlank c = false) (text rest : List Char) :
    trimEnd (text ++ c :: rest) = text ++ c :: trimEnd rest := by
  have hback := trimStart_append_cons h rest.reverse text.reverse
  unfold trimStart at hback
  unfold trimEnd
  rw [List.reverse_append, List.reverse_cons, List.append_assoc, List.singleton_append, hback]
  simp

theorem trimStart_append_of_cons {c : Char} {text rest : List Char}
    (h : trimStart text = c :: rest) (more : List Char) :
    trimStart (text ++ more) = c :: (rest ++ more) := by
  unfold trimStart at h ⊢
  rw [List.dropWhile_append, h]
  rfl

/-- Blanks at the end are dropped there, whether the start is cut before or not. -/
theorem trimEnd_trimStart_append_of_blank {blanks : List Char}
    (h : forall c, c ∈ blanks -> isBlank c = true) (text : List Char) :
    trimEnd (trimStart (text ++ blanks)) = trimEnd (trimStart text) := by
  induction text with
  | nil =>
      have hnone : trimStart blanks = [] := by
        have happend := trimStart_append_of_blank h []
        rwa [List.append_nil] at happend
      rw [List.nil_append, hnone, trimStart_nil]
  | cons c text ih =>
      by_cases hblank : isBlank c = true
      · rw [List.cons_append, trimStart_cons_of_blank hblank, ih, trimStart_cons_of_blank hblank]
      · rw [Bool.not_eq_true] at hblank
        rw [List.cons_append, trimStart_cons_of_not_blank hblank,
          trimStart_cons_of_not_blank hblank, ← List.cons_append,
          trimEnd_append_of_blank h]

/-!
## What trimming leaves
-/

/-- A text that neither starts nor ends with a blank. -/
def BlankFree (text : List Char) : Prop :=
  exists c d front tail, text = c :: tail ∧ text = front ++ [d] ∧
    isBlank c = false ∧ isBlank d = false

theorem trim_append {before text after : List Char} (htext : BlankFree text)
    (hbefore : forall c, c ∈ before -> isBlank c = true)
    (hafter : forall c, c ∈ after -> isBlank c = true) :
    trim (before ++ text ++ after) = text := by
  rcases htext with ⟨c, d, front, tail, hstart, hend, hc, hd⟩
  have hcut : trimStart (before ++ text ++ after) = text ++ after := by
    rw [List.append_assoc, trimStart_append_of_blank hbefore, hstart, List.cons_append,
      trimStart_cons_of_not_blank hc]
  rw [trim, hcut, trimEnd_append_of_blank hafter, hend, trimEnd_append_cons hd, trimEnd_nil]

theorem exists_trimStart (text : List Char) :
    exists before, text = before ++ trimStart text ∧
      forall c, c ∈ before -> isBlank c = true :=
  ⟨text.takeWhile isBlank, List.takeWhile_append_dropWhile.symm,
    fun _ hmem => List.mem_takeWhile_imp hmem⟩

theorem exists_trimEnd (text : List Char) :
    exists after, text = trimEnd text ++ after ∧ forall c, c ∈ after -> isBlank c = true := by
  rcases exists_trimStart text.reverse with ⟨before, htext, hblank⟩
  refine ⟨before.reverse, ?_, fun c hmem => hblank c (List.mem_reverse.mp hmem)⟩
  have hreverse := congrArg List.reverse htext
  rwa [List.reverse_reverse, List.reverse_append] at hreverse

/-- A text is what trimming leaves of it, between blanks. -/
theorem exists_trim (text : List Char) :
    exists before after, text = before ++ trim text ++ after ∧
      (forall c, c ∈ before -> isBlank c = true) ∧
      forall c, c ∈ after -> isBlank c = true := by
  rcases exists_trimStart text with ⟨before, hstart, hbefore⟩
  rcases exists_trimEnd (trimStart text) with ⟨after, hend, hafter⟩
  refine ⟨before, after, ?_, hbefore, hafter⟩
  rw [List.append_assoc, trim, ← hend]
  exact hstart

end Text

end SecretProjection
