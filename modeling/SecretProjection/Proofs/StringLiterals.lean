import Mathlib.Tactic.IntervalCases
import SecretProjection.Json.Printer
import SecretProjection.Json.Reader

/-!
# String literals

A character stands in a string literal as itself, behind a backslash, or as four hexadecimal
digits.  `Json.Escaped` lists these three forms together with what a reader relies on in each, so
that everything that walks over a literal is checked against the list and not against the printer.
Reading the literal of a text gives the text back, whatever its characters are.
-/

namespace SecretProjection

namespace Json

/-! ## Forms of a character -/

/-- The form `chars` of the character `c` in a literal. -/
inductive Escaped (c : Char) : List Char -> Prop where
  | plain (hquote : c ≠ '"') (hbackslash : c ≠ '\\') (hcontrol : ¬ c.toNat < 0x20) :
      Escaped c [c]
  | short {letter : Char} (hletter : simpleEscape? letter = some c) :
      Escaped c ['\\', letter]
  | long {a b d e : Char} (hquad : hexQuad? a b d e = some c.toNat)
      (hdigits : forall digit, digit ∈ [a, b, d, e] -> (Text.hexValue? digit).isSome)
      (hcontrol : c.toNat < 0x20) :
      Escaped c ['\\', 'u', a, b, d, e]

theorem fourHex_of_control {n : Nat} (h : n < 0x20) :
    exists a b d e, fourHex n = [a, b, d, e] ∧ hexQuad? a b d e = some n ∧
      forall digit, digit ∈ [a, b, d, e] -> (Text.hexValue? digit).isSome := by
  interval_cases n <;> exact ⟨_, _, _, _, rfl, by decide, List.all_eq_true.mp (by decide)⟩

theorem escaped_escapeChar (c : Char) : Escaped c (escapeChar c) := by
  simp only [escapeChar, beq_iff_eq]
  split_ifs with hquote hbackslash hb hf hn hr ht hcontrol
  · subst hquote
    exact .short rfl
  · subst hbackslash
    exact .short rfl
  · subst hb
    exact .short rfl
  · subst hf
    exact .short rfl
  · subst hn
    exact .short rfl
  · subst hr
    exact .short rfl
  · subst ht
    exact .short rfl
  · rcases fourHex_of_control hcontrol with ⟨a, b, d, e, hfour, hquad, hdigits⟩
    rw [hfour]
    exact .long hquad hdigits hcontrol
  · exact .plain hquote hbackslash hcontrol

/-! ## Reading

The offset of a reader only places its faults, so that these statements leave it open. -/

theorem Escaped.readText_append {c : Char} {form : List Char} (h : Escaped c form)
    (offset : Nat) (rest : List Char) :
    exists later, readText .keep offset (form ++ rest) = prepend c (readText .keep later rest) := by
  cases h with
  | plain hquote hbackslash hcontrol =>
      refine ⟨offset + c.utf8Size, ?_⟩
      rw [List.singleton_append, readText]
      · rw [if_neg hcontrol]
      all_goals simp_all
  | @short letter hletter =>
      have hnotlong : letter ≠ 'u' := by
        rintro rfl
        cases hletter
      refine ⟨offset + 2, ?_⟩
      rw [List.cons_append, List.singleton_append, readText]
      · rw [hletter]
      · intro a b d e tail hu
        exact absurd hu hnotlong
      · exact hnotlong
  | @long a b d e hquad hdigits hcontrol =>
      refine ⟨offset + 6, ?_⟩
      simp only [List.cons_append, List.nil_append]
      rw [readText, hquad]
      simp only [reduceCtorEq, if_false]
      rw [if_neg (by omega), if_neg (by omega), Char.ofNat_toNat]

/-- Reading stops behind the closing quote with the characters that were written. -/
theorem readText_escaped (text rest : List Char) (offset : Nat) :
    exists later, readText .keep offset (text.flatMap escapeChar ++ '"' :: rest) =
      .ok (text, ⟨rest, later⟩) := by
  induction text generalizing offset with
  | nil => exact ⟨offset + 1, rfl⟩
  | cons c text ih =>
      rcases (escaped_escapeChar c).readText_append offset
        (text.flatMap escapeChar ++ '"' :: rest) with ⟨later, hhead⟩
      rcases ih later with ⟨last, htail⟩
      refine ⟨last, ?_⟩
      rw [List.flatMap_cons, List.append_assoc, hhead, htail]
      rfl

theorem readString_escaped (text : String) (rest : List Char) (offset : Nat) :
    exists later, readString .keep ⟨text.toList.flatMap escapeChar ++ '"' :: rest, offset⟩ =
      .ok (text, ⟨rest, later⟩) := by
  rcases readText_escaped text.toList rest offset with ⟨later, hread⟩
  refine ⟨later, ?_⟩
  simp only [readString, hread, String.ofList_toList]

/-- The literal of a text is read back as that text. -/
theorem parseLiteral_quote (text : String) : parseLiteral (quote text) = .ok text := by
  rcases readString_escaped text [] 1 with ⟨later, hread⟩
  simp only [quote, parseLiteral, hread]
  rfl

end Json

end SecretProjection
