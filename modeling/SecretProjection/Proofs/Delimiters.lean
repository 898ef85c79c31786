import SecretProjection.Proofs.StringLiterals
import SecretProjection.Template.Parser

/-!
# Splitting at delimiters

Three readers cut a source into pieces: one looks for the next opening delimiter, one for the
closing delimiter outside string literals, and one for the quote that ends a literal.  Each of
them either stops inside a chunk or passes over it and goes on behind it.  `Passes` is the second
case.  It holds of chunks put together when it holds of each of them, so that what a reader does
to a long text follows from what it does to single characters and literals.
-/

namespace SecretProjection

namespace Template

/-! ## Passing over a chunk -/

/-- Whatever follows, the reader `split` keeps the whole chunk and goes on behind it. -/
def Passes (split : List Char -> Option (List Char × List Char)) (chunk : List Char) : Prop :=
  forall rest, split (chunk ++ rest) =
    (split rest).map fun found => (chunk ++ found.1, found.2)

namespace Passes

variable {split : List Char -> Option (List Char × List Char)} {chunk other : List Char}

theorem nil : Passes split [] := by
  intro rest
  simp

theorem append (hchunk : Passes split chunk) (hother : Passes split other) :
    Passes split (chunk ++ other) := by
  intro rest
  rw [List.append_assoc, hchunk, hother, Option.map_map]
  simp [Function.comp_def]

theorem flatMap {α : Type} {items : List α} {f : α -> List Char}
    (h : forall item, item ∈ items -> Passes split (f item)) : Passes split (items.flatMap f) := by
  induction items with
  | nil => exact nil
  | cons item items ih =>
      rw [List.flatMap_cons]
      apply append (h item List.mem_cons_self)
      exact ih fun other hother => h other (List.mem_cons_of_mem _ hother)

/-- A chunk is passed over when each of its characters is. -/
theorem of_forall (h : forall c, c ∈ chunk -> Passes split [c]) : Passes split chunk := by
  rw [← List.flatMap_singleton' chunk]
  exact flatMap h

theorem split_eq (h : Passes split chunk) {rest before behind : List Char}
    (hend : split rest = some (before, behind)) :
    split (chunk ++ rest) = some (chunk ++ before, behind) := by
  rw [h, hend]
  rfl

end Passes

/-! ## Literals

Inside a literal a quote or a backslash only stands behind a backslash.  A reader that skips what
stands there and goes on at every other character passes over all that is written between the
quotes. -/

theorem ne_of_isSome_hexValue? {digit : Char} (h : (Text.hexValue? digit).isSome) :
    digit ≠ '"' ∧ digit ≠ '\\' := by
  constructor <;> rintro rfl <;> cases h

section Literals

variable {split : List Char -> Option (List Char × List Char)}
  (hplain : forall c, c ≠ '"' -> c ≠ '\\' -> Passes split [c])
  (hescape : forall letter, Passes split ['\\', letter])

include hplain hescape

theorem passes_escaped {c : Char} {form : List Char} (h : Json.Escaped c form) :
    Passes split form := by
  cases h with
  | plain hquote hbackslash hcontrol => exact hplain c hquote hbackslash
  | @short letter hletter => exact hescape letter
  | @long a b d e hquad hdigits hcontrol =>
      apply Passes.append (hescape 'u')
      apply Passes.of_forall
      intro digit hdigit
      rcases ne_of_isSome_hexValue? (hdigits digit hdigit) with ⟨hquote, hbackslash⟩
      exact hplain digit hquote hbackslash

theorem passes_flatMap_escapeChar (text : List Char) :
    Passes split (text.flatMap Json.escapeChar) :=
  Passes.flatMap fun c _ => passes_escaped hplain hescape (Json.escaped_escapeChar c)

end Literals

/-- A literal ends at the quote that closes it. -/
theorem splitLiteral_escaped (text rest : List Char) :
    Token.splitLiteral (text.flatMap Json.escapeChar ++ '"' :: rest) =
      some (text.flatMap Json.escapeChar ++ ['"'], rest) := by
  have hpasses : Passes Token.splitLiteral (text.flatMap Json.escapeChar) := by
    apply passes_flatMap_escapeChar
    · intro c hquote hbackslash rest
      rw [List.singleton_append, Token.splitLiteral]
      · rfl
      all_goals simp_all
    · intro letter rest
      rfl
  exact hpasses.split_eq rfl

/-! ## Closing delimiters -/

namespace Span

theorem splitClose_quote {c : Char} (h : isQuote c = true) (rest : List Char) :
    splitClose none (c :: rest) = keep c (splitClose (some c) rest) := by
  rw [splitClose.eq_def]
  simp only [h, if_true]

theorem splitClose_plain {c : Char} {rest : List Char} (hquote : isQuote c = false)
    (h : ¬ ['\x7d', '\x7d'] <+: c :: rest) :
    splitClose none (c :: rest) = keep c (splitClose none rest) := by
  rw [splitClose]
  · rw [hquote]
    rfl
  · rintro tail rfl rfl
    exact h ⟨tail, rfl⟩

theorem splitClose_escape (d : Char) (rest : List Char) :
    splitClose (some '"') ('\\' :: d :: rest) =
      keep '\\' (keep d (splitClose (some '"') rest)) := by
  rw [splitClose.eq_def]
  rfl

theorem splitClose_inside {q c : Char} (h : ¬ (q = '"' ∧ c = '\\')) (rest : List Char) :
    splitClose (some q) (c :: rest) =
      keep c (splitClose (if c = q then none else some q) rest) := by
  rw [splitClose.eq_def]
  simp only [h, if_false]

/-- The search for the end of an action passes over a character that opens no literal and is no
closing brace. -/
theorem passes_splitClose_singleton {c : Char} (hquote : isQuote c = false)
    (hbrace : c ≠ '\x7d') : Passes (splitClose none) [c] := by
  intro rest
  rw [List.singleton_append, splitClose_plain hquote]
  · rfl
  · rintro ⟨behind, heq⟩
    exact hbrace (List.cons.inj heq).1.symm

/-- The search for the end of an action passes over a literal, whatever stands in it. -/
theorem passes_splitClose_quote (text : String) : Passes (splitClose none) (Json.quote text) := by
  have hpasses : Passes (splitClose (some '"')) (text.toList.flatMap Json.escapeChar) := by
    apply passes_flatMap_escapeChar
    · intro c hquote hbackslash rest
      rw [List.singleton_append, splitClose_inside (fun hboth => hbackslash hboth.2),
        if_neg hquote]
      rfl
    · intro letter rest
      rw [List.cons_append, List.singleton_append, splitClose_escape]
      simp [keep, Function.comp_def]
  intro rest
  simp only [Json.quote, List.cons_append, List.append_assoc, List.nil_append]
  rw [splitClose_quote (by decide), hpasses, splitClose_inside (by decide), if_pos rfl]
  simp [keep, Function.comp_def]

/-! ## Opening delimiters -/

theorem splitOpen_cons {c : Char} {rest : List Char}
    (h : ¬ ['\x7b', '\x7b'] <+: c :: rest) : splitOpen (c :: rest) = keep c (splitOpen rest) := by
  rw [splitOpen]
  rintro tail rfl rfl
  exact h ⟨tail, rfl⟩

theorem splitOpen_eq_none {text : List Char} (h : ¬ ['\x7b', '\x7b'] <:+: text) :
    splitOpen text = none := by
  induction text with
  | nil => rfl
  | cons c text ih =>
      rw [splitOpen_cons fun hprefix => h hprefix.isInfix,
        ih fun hinfix => h (List.infix_cons hinfix)]
      rfl

/-- A text without delimiters is passed over, unless its last brace and the first one behind it
make a delimiter together. -/
theorem splitOpen_append_of_none {text more : List Char} (h : splitOpen text = none)
    (hbraces : ¬ (text.getLast? = some '\x7b' ∧ more.head? = some '\x7b')) :
    splitOpen (text ++ more) = (splitOpen more).map fun found => (text ++ found.1, found.2) := by
  induction text with
  | nil => simp
  | cons c text ih =>
      have hno : ¬ ['\x7b', '\x7b'] <+: c :: text := by
        rintro ⟨behind, heq⟩
        rw [← heq] at h
        cases h
      have hrest : splitOpen text = none := by
        rw [splitOpen_cons hno] at h
        exact Option.map_eq_none_iff.mp h
      have hlonger : ¬ ['\x7b', '\x7b'] <+: c :: (text ++ more) := by
        cases text with
        | nil =>
            rintro ⟨behind, heq⟩
            simp only [List.cons_append, List.nil_append, List.cons.injEq] at heq
            refine hbraces ⟨?_, ?_⟩
            · rw [← heq.1]
              rfl
            · rw [← heq.2]
              rfl
        | cons d text => simpa using hno
      rw [List.cons_append, splitOpen_cons hlonger, ih hrest]
      · simp [keep, Function.comp_def]
      · intro hboth
        refine hbraces ⟨?_, hboth.2⟩
        rw [List.getLast?_cons, hboth.1]
        rfl

/-- The search for an action passes over a text without opening delimiters, unless its last brace
could be the first half of one. -/
theorem passes_splitOpen {text : List Char} (h : ¬ ['\x7b', '\x7b'] <:+: text)
    (hlast : text.getLast? ≠ some '\x7b') : Passes splitOpen text := by
  intro rest
  exact splitOpen_append_of_none (splitOpen_eq_none h) fun hboth => hlast hboth.1

/-! ## Actions -/

/-- The space behind an opening delimiter keeps a minus sign from being a trim marker, and a
comment starts with a slash. -/
theorem ofOpen_space {c : Char} (hblank : Text.isBlank c = false) (hslash : c ≠ '/')
    (text : List Char) :
    ofOpen (' ' :: c :: text) =
      match splitClose none (' ' :: c :: text) with
      | none => .error .unclosedAction
      | some (body, rest) =>
          .ok (⟨false, (rightMarker body).1, some (rightMarker body).2⟩, rest) := by
  have hmarker : leftMarker (' ' :: c :: text) = (false, ' ' :: c :: text) := rfl
  have hstart : Text.trimStart (' ' :: c :: text) = c :: text := by
    rw [Text.trimStart_cons_of_blank (by decide), Text.trimStart_cons_of_not_blank hblank]
  unfold ofOpen
  simp only [hmarker, hstart]
  split
  · rename_i comment hcomment
    exact absurd (List.cons.inj hcomment).1 hslash
  · rfl

section Actions

variable {c : Char} {body : List Char} (hblank : Text.isBlank c = false) (hslash : c ≠ '/')
  (hclose : Passes (splitClose none) (c :: body))

include hblank hslash hclose

/-- The action that an opening delimiter and a space start.  The spaces inside its delimiters keep
a minus sign from being a trim marker. -/
theorem ofOpen_spaced (rest : List Char) :
    ofOpen (' ' :: c :: (body ++ ' ' :: '\x7d' :: '\x7d' :: rest)) =
      .ok (⟨false, false, some (' ' :: c :: (body ++ [' ']))⟩, rest) := by
  have hsplit : splitClose none (' ' :: c :: (body ++ ' ' :: '\x7d' :: '\x7d' :: rest)) =
      some (' ' :: c :: (body ++ [' ']), rest) := by
    have hspace : Passes (splitClose none) [' '] :=
      passes_splitClose_singleton (by decide) (by decide)
    have hpasses := (hspace.append (hclose.append hspace)).split_eq
      (show splitClose none ('\x7d' :: '\x7d' :: rest) = some ([], rest) from rfl)
    simpa using hpasses
  have hend : rightMarker (' ' :: c :: (body ++ [' '])) =
      (false, ' ' :: c :: (body ++ [' '])) := by
    simp [rightMarker]
  rw [ofOpen_space hblank hslash, hsplit]
  simp only [hend]

/-- The first action of a source, behind a text that holds none. -/
theorem next?_spaced {text : List Char} (htext : Passes splitOpen text) (rest : List Char) :
    next? (text ++ '\x7b' :: '\x7b' :: ' ' :: c :: (body ++ ' ' :: '\x7d' :: '\x7d' :: rest)) =
      .ok (some (text, ⟨false, false, some (' ' :: c :: (body ++ [' ']))⟩, rest)) := by
  rw [next?, htext.split_eq rfl]
  simp only [List.append_nil, ofOpen_spaced hblank hslash hclose]

end Actions

end Span

end Template

end SecretProjection
