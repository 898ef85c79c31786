import SecretProjection.Proofs.Delimiters
import SecretProjection.Proofs.Digits

/-!
# Rows of tokens

A `Piece` is a token as it is written: a pipe sign, a word of plain characters, or the literal of
a text.  A `Row` is a list of pieces with one space between neighbours.  A row is all that an
action holds between its delimiters; it has no white space at its ends, the search for the closing
delimiter passes over it, and scanning it gives its tokens back.
-/

namespace SecretProjection

namespace Text

theorem toNat_of_isAlpha {c : Char} (h : c.isAlpha = true) :
    (65 ≤ c.toNat ∧ c.toNat ≤ 90) ∨ (97 ≤ c.toNat ∧ c.toNat ≤ 122) := by
  rcases Bool.or_eq_true _ _ |>.mp h with hupper | hlower
  · exact .inl (of_decide_eq_true hupper)
  · rcases Bool.and_eq_true _ _ |>.mp hlower with ⟨hlow, hhigh⟩
    exact .inr ⟨of_decide_eq_true hlow, of_decide_eq_true hhigh⟩

/-- One space at either end of a text is all that trimming drops, when the text itself neither
starts nor ends with white space. -/
theorem trim_spaced {c d : Char} {front tail : List Char} (hends : c :: tail = front ++ [d])
    (hc : isBlank c = false) (hd : isBlank d = false) :
    trim (' ' :: c :: (tail ++ [' '])) = c :: tail := by
  rw [trim, trimStart_cons_of_blank (by decide), trimStart_cons_of_not_blank hc,
    ← List.cons_append, hends]
  simp [trimEnd, hd, show isBlank ' ' = true by decide]

end Text

namespace Template

/-! ## Plain characters -/

/-- The characters that words are written with. -/
def isPlain (c : Char) : Bool := c.isAlphanum || c == '_' || c == '.' || c == '-'

theorem toNat_of_isPlain {c : Char} (h : isPlain c = true) :
    c.toNat = 45 ∨ c.toNat = 46 ∨ c.toNat = 95 ∨ (48 ≤ c.toNat ∧ c.toNat ≤ 57) ∨
      (65 ≤ c.toNat ∧ c.toNat ≤ 90) ∨ (97 ≤ c.toNat ∧ c.toNat ≤ 122) := by
  simp only [isPlain, Char.isAlphanum, Bool.or_eq_true, beq_iff_eq] at h
  rcases h with (((halpha | hdigit) | rfl) | rfl) | rfl
  · have hletter := Text.toNat_of_isAlpha halpha
    omega
  · have hbounds : 48 ≤ c.toNat ∧ c.toNat ≤ 57 := Char.isDigit_iff_toNat.mp hdigit
    omega
  all_goals decide

theorem isBlank_of_isPlain {c : Char} (h : isPlain c = true) : Text.isBlank c = false := by
  have hcode := toNat_of_isPlain h
  simp only [Text.isBlank, Bool.or_eq_false_iff, Bool.and_eq_false_iff, decide_eq_false_iff_not,
    beq_eq_false_iff_ne]
  omega

theorem ne_of_isPlain {c d : Char} (h : isPlain c = true) (hd : isPlain d = false) : c ≠ d := by
  rintro rfl
  rw [h] at hd
  cases hd

theorem isWordChar_of_isPlain {c : Char} (h : isPlain c = true) : Token.isWordChar c = true := by
  have hpipe : c ≠ '|' := ne_of_isPlain h (by decide)
  have hquote : c ≠ '"' := ne_of_isPlain h (by decide)
  have hback : c ≠ '\x60' := ne_of_isPlain h (by decide)
  simp [Token.isWordChar, isBlank_of_isPlain h, hpipe, hquote, hback]

/-! ## Single tokens -/

namespace Token

theorem scan_quote (body : String) (rest : List Char) :
    scan body ('"' :: rest) =
      match splitLiteral rest with
      | none => .error (.unclosedString body)
      | some (literal, tail) =>
          match Json.parseLiteral ('"' :: literal) with
          | .error message => .error (.badLiteral message)
          | .ok text => prepend (.string text) (scan body tail) := by
  rw [scan, if_neg (by decide), if_neg (by decide), if_pos rfl]
  split
  · rename_i hsplit
    rw [hsplit]
  · rename_i literal _ hsplit
    cases hread : Json.parseLiteral ('"' :: literal) <;> simp only [hsplit, hread]

theorem scan_backquote (body : String) (rest : List Char) :
    scan body ('\x60' :: rest) =
      match splitRaw rest with
      | none => .error (.unclosedRawString body)
      | some (raw, tail) =>
          prepend (.string (String.ofList raw)) (scan body tail) := by
  rw [scan, if_neg (by decide), if_neg (by decide), if_neg (by decide), if_pos rfl]
  split <;> rename_i hsplit <;> rw [hsplit]

theorem scan_word {c : Char} (h : isWordChar c = true) (body : String) (rest : List Char) :
    scan body (c :: rest) =
      prepend (.word (String.ofList (c :: rest.takeWhile isWordChar)))
        (scan body (rest.dropWhile isWordChar)) := by
  simp only [isWordChar, Bool.not_eq_true', Bool.or_eq_false_iff, beq_eq_false_iff_ne] at h
  rcases h with ⟨⟨⟨hblank, hpipe⟩, hquote⟩, hback⟩
  rw [scan, if_neg (by simp [hblank]), if_neg hpipe, if_neg hquote, if_neg hback]

end Token

/-! ## Pieces -/

/-- A token and the way it is written. -/
inductive Piece : List Char -> Token -> Prop where
  | pipe : Piece ['|'] .pipe
  | word {chars : List Char} (hne : chars ≠ []) (hplain : forall c, c ∈ chars -> isPlain c) :
      Piece chars (.word (String.ofList chars))
  | literal (text : String) : Piece (Json.quote text) (.string text)

namespace Piece

variable {chars : List Char} {token : Token}

theorem passes_splitClose (h : Piece chars token) : Passes (Span.splitClose none) chars := by
  cases h with
  | pipe => exact Span.passes_splitClose_singleton (by decide) (by decide)
  | word hne hplain =>
      apply Passes.of_forall
      intro c hc
      have hquote : c ≠ '"' := ne_of_isPlain (hplain c hc) (by decide)
      have hback : c ≠ '\x60' := ne_of_isPlain (hplain c hc) (by decide)
      have hbrace : c ≠ '\x7d' := ne_of_isPlain (hplain c hc) (by decide)
      exact Span.passes_splitClose_singleton (by simp [Span.isQuote, hquote, hback]) hbrace
  | literal text => exact Span.passes_splitClose_quote text

/-- A piece starts neither with white space nor like a comment. -/
theorem starts (h : Piece chars token) :
    exists c tail, chars = c :: tail ∧ Text.isBlank c = false ∧ c ≠ '/' := by
  cases h with
  | pipe => exact ⟨'|', [], rfl, by decide, by decide⟩
  | word hne hplain =>
      rcases List.exists_cons_of_ne_nil hne with ⟨c, tail, rfl⟩
      have hc := hplain c List.mem_cons_self
      exact ⟨c, tail, rfl, isBlank_of_isPlain hc, ne_of_isPlain hc (by decide)⟩
  | literal text => exact ⟨'"', _, rfl, by decide, by decide⟩

theorem ends (h : Piece chars token) :
    exists front d, chars = front ++ [d] ∧ Text.isBlank d = false := by
  cases h with
  | pipe => exact ⟨[], '|', rfl, by decide⟩
  | word hne hplain =>
      refine ⟨chars.dropLast, chars.getLast hne, (List.dropLast_concat_getLast hne).symm, ?_⟩
      exact isBlank_of_isPlain (hplain _ (List.getLast_mem hne))
  | literal text => exact ⟨'"' :: text.toList.flatMap Json.escapeChar, '"', rfl, by decide⟩

/-- A word goes up to the space behind it, or to the end of the body. -/
theorem scan_word {c : Char} {tail rest : List Char} (hc : isPlain c = true)
    (htail : forall d, d ∈ tail -> isPlain d)
    (hrest : forall d, rest.head? = some d -> Token.isWordChar d = false) (body : String) :
    Token.scan body (c :: (tail ++ rest)) =
      Token.prepend (.word (String.ofList (c :: tail))) (Token.scan body rest) := by
  have hword : forall d, d ∈ tail -> Token.isWordChar d = true :=
    fun d hd => isWordChar_of_isPlain (htail d hd)
  rw [Token.scan_word (isWordChar_of_isPlain hc), Text.takeWhile_run hword hrest,
    Text.dropWhile_run hword hrest]

theorem scan_literal (text : String) (rest : List Char) (body : String) :
    Token.scan body (Json.quote text ++ rest) =
      Token.prepend (.string text) (Token.scan body rest) := by
  have hliteral : '"' :: (text.toList.flatMap Json.escapeChar ++ ['"']) = Json.quote text := rfl
  rw [← hliteral, List.cons_append, List.append_assoc, List.singleton_append, Token.scan_quote,
    splitLiteral_escaped]
  simp only [hliteral, Json.parseLiteral_quote]

theorem scan (h : Piece chars token) {rest : List Char}
    (hrest : forall d, rest.head? = some d -> Token.isWordChar d = false) (body : String) :
    Token.scan body (chars ++ rest) = Token.prepend token (Token.scan body rest) := by
  cases h with
  | pipe =>
      rw [List.singleton_append, Token.scan]
      rfl
  | word hne hplain =>
      rcases List.exists_cons_of_ne_nil hne with ⟨c, tail, rfl⟩
      exact scan_word (hplain c List.mem_cons_self)
        (fun d hd => hplain d (List.mem_cons_of_mem c hd)) hrest body
  | literal text => exact scan_literal text rest body

end Piece

/-! ## Rows -/

/-- Tokens and the way they are written, one space apart. -/
inductive Row : List Char -> List Token -> Prop where
  | single {chars : List Char} {token : Token} (hpiece : Piece chars token) : Row chars [token]
  | cons {chars rest : List Char} {token : Token} {tokens : List Token}
      (hpiece : Piece chars token) (hrest : Row rest tokens) :
      Row (chars ++ ' ' :: rest) (token :: tokens)

namespace Row

variable {chars more : List Char} {tokens others : List Token}

theorem append (h : Row chars tokens) (hmore : Row more others) :
    Row (chars ++ ' ' :: more) (tokens ++ others) := by
  induction h with
  | single hpiece => exact .cons hpiece hmore
  | cons hpiece hrest ih =>
      rw [List.append_assoc, List.cons_append, List.cons_append]
      exact .cons hpiece ih

theorem passes_splitClose (h : Row chars tokens) : Passes (Span.splitClose none) chars := by
  induction h with
  | single hpiece => exact hpiece.passes_splitClose
  | cons hpiece hrest ih =>
      have hspace : Passes (Span.splitClose none) [' '] :=
        Span.passes_splitClose_singleton (by decide) (by decide)
      exact hpiece.passes_splitClose.append (hspace.append ih)

theorem starts (h : Row chars tokens) :
    exists c tail, chars = c :: tail ∧ Text.isBlank c = false ∧ c ≠ '/' := by
  cases h with
  | single hpiece => exact hpiece.starts
  | @cons head rest token tokens hpiece hrest =>
      rcases hpiece.starts with ⟨c, tail, rfl, hblank, hslash⟩
      exact ⟨c, tail ++ ' ' :: rest, rfl, hblank, hslash⟩

theorem ends (h : Row chars tokens) :
    exists front d, chars = front ++ [d] ∧ Text.isBlank d = false := by
  induction h with
  | single hpiece => exact hpiece.ends
  | @cons head rest token tokens hpiece hrest ih =>
      rcases ih with ⟨front, d, rfl, hblank⟩
      exact ⟨head ++ ' ' :: front, d, by simp, hblank⟩

/-- A row gives its tokens and leaves what is behind it to be scanned. -/
theorem scan_append (h : Row chars tokens) {rest : List Char}
    (hrest : forall d, rest.head? = some d -> Token.isWordChar d = false) (body : String) :
    Token.scan body (chars ++ rest) = (Token.scan body rest).map (tokens ++ ·) := by
  induction h with
  | single hpiece => exact hpiece.scan hrest body
  | @cons head others token tokens hpiece hothers ih =>
      have hspace : Token.scan body (' ' :: (others ++ rest)) =
          Token.scan body (others ++ rest) := by
        rw [Token.scan]
        rfl
      rw [List.append_assoc, List.cons_append, hpiece.scan (by rintro d ⟨⟩; decide), hspace, ih]
      cases Token.scan body rest <;> rfl

/-- Scanning a row gives its tokens back. -/
theorem scan (h : Row chars tokens) (body : String) : Token.scan body chars = .ok tokens := by
  have hscan := @scan_append _ _ h [] (by simp) body
  rw [List.append_nil, Token.scan] at hscan
  simpa [Except.map] using hscan

end Row

end Template

end SecretProjection
