import SecretProjection.Template.Basic
import SecretProjection.Text.Blank

/-!
# Actions in a source

An action stands between double braces.  A closing delimiter inside a string literal or a comment
does not end it.  A minus sign next to a delimiter, set off by white space, is a trim marker: it
asks for the white space of the neighbouring text to be dropped and is no part of the body.

`Span.next?` finds the first action or comment of a source.  What is left behind it is shorter
than the source, which is why splitting a source into spans ends.
-/

namespace SecretProjection

namespace Template

/-- One action or comment of a source. -/
structure Span where
  trimLeft : Bool
  trimRight : Bool
  /-- The text between the delimiters, without trim markers; `none` for a comment. -/
  body : Option (List Char)
  deriving DecidableEq, Repr

namespace Span

/-! ## Delimiters -/

/-- Puts a character in front of the text before a delimiter. -/
def keep (c : Char) (split : Option (List Char × List Char)) : Option (List Char × List Char) :=
  split.map fun split => (c :: split.1, split.2)

/-- The text before the first opening delimiter and what follows the delimiter. -/
def splitOpen : List Char -> Option (List Char × List Char)
  | [] => none
  | c :: rest =>
      match c, rest with
      | '\x7b', '\x7b' :: rest => some ([], rest)
      | c, rest => keep c (splitOpen rest)

/-- The text up to the first end of a comment and what follows that end. -/
def splitCommentEnd : List Char -> Option (List Char × List Char)
  | [] => none
  | c :: rest =>
      match c, rest with
      | '*', '/' :: rest => some ([], rest)
      | c, rest => keep c (splitCommentEnd rest)

def isQuote (c : Char) : Bool := c == '"' || c == '\x60'

/-- The text up to the first closing delimiter outside string literals and what follows the
delimiter; `quote` is the quote of the literal that the text starts in. -/
def splitClose (quote : Option Char) : List Char -> Option (List Char × List Char)
  | [] => none
  | c :: rest =>
      match quote with
      | none =>
          if isQuote c then keep c (splitClose (some c) rest)
          else
            match c, rest with
            | '\x7d', '\x7d' :: rest => some ([], rest)
            | c, rest => keep c (splitClose none rest)
      | some q =>
          if q = '"' ∧ c = '\\' then
            match rest with
            | [] => none
            | d :: rest => keep c (keep d (splitClose (some q) rest))
          else keep c (splitClose (if c = q then none else some q) rest)

/-! ## Trim markers -/

/-- Drops a trim marker behind the opening delimiter and says whether there was one. -/
def leftMarker (text : List Char) : Bool × List Char :=
  match text with
  | '-' :: c :: rest => if Text.isAsciiBlank c then (true, c :: rest) else (false, text)
  | _ => (false, text)

/-- Drops a trim marker before the closing delimiter and says whether there was one. -/
def rightMarker (body : List Char) : Bool × List Char :=
  match body.reverse with
  | '-' :: c :: rest => if Text.isAsciiBlank c then (true, (c :: rest).reverse) else (false, body)
  | _ => (false, body)

/-! ## Spans -/

/-- The comment whose text starts here, and what follows it. -/
def ofComment (trimLeft : Bool) (text : List Char) : Except ParseFault (Span × List Char) :=
  match splitCommentEnd text with
  | none => .error .unclosedComment
  | some (_, rest) =>
      match rest with
      | '\x7d' :: '\x7d' :: rest => .ok (⟨trimLeft, false, none⟩, rest)
      | c :: '-' :: '\x7d' :: '\x7d' :: rest =>
          if Text.isAsciiBlank c then .ok (⟨trimLeft, true, none⟩, rest)
          else .error .commentEnd
      | _ => .error .commentEnd

/-- The action or comment behind an opening delimiter, and what follows it. -/
def ofOpen (text : List Char) : Except ParseFault (Span × List Char) :=
  let (trimLeft, text) := leftMarker text
  match Text.trimStart text with
  | '/' :: '*' :: comment => ofComment trimLeft comment
  | _ =>
      match splitClose none text with
      | none => .error .unclosedAction
      | some (body, rest) =>
          let (trimRight, body) := rightMarker body
          .ok (⟨trimLeft, trimRight, some body⟩, rest)

/-- The text before the first action or comment of a source, that span, and what follows it. -/
def next? (source : List Char) : Except ParseFault (Option (List Char × Span × List Char)) :=
  match splitOpen source with
  | none => .ok none
  | some (text, rest) =>
      match ofOpen rest with
      | .error fault => .error fault
      | .ok (span, rest) => .ok (some (text, span, rest))

/-! ## What is left is shorter -/

theorem keep_eq_some_iff {c : Char} {split : Option (List Char × List Char)}
    {text rest : List Char} :
    keep c split = some (text, rest) <->
      exists before, split = some (before, rest) ∧ text = c :: before := by
  unfold keep
  constructor
  · intro h
    rcases Option.map_eq_some_iff.mp h with ⟨found, hfound, heq⟩
    cases heq
    exact ⟨found.1, hfound, rfl⟩
  · rintro ⟨before, rfl, rfl⟩
    rfl

theorem length_splitOpen {source text rest : List Char}
    (h : splitOpen source = some (text, rest)) : rest.length < source.length := by
  induction source generalizing text rest with
  | nil => simp [splitOpen] at h
  | cons c tail ih =>
      unfold splitOpen at h
      split at h
      · simp only [Option.some.injEq, Prod.mk.injEq] at h
        rcases h with ⟨-, rfl⟩
        simp only [List.length_cons]
        omega
      · rcases keep_eq_some_iff.mp h with ⟨before, hsplit, -⟩
        exact Nat.lt_succ_of_lt (ih hsplit)

theorem length_splitCommentEnd {source text rest : List Char}
    (h : splitCommentEnd source = some (text, rest)) : rest.length < source.length := by
  induction source generalizing text rest with
  | nil => simp [splitCommentEnd] at h
  | cons c tail ih =>
      unfold splitCommentEnd at h
      split at h
      · simp only [Option.some.injEq, Prod.mk.injEq] at h
        rcases h with ⟨-, rfl⟩
        simp only [List.length_cons]
        omega
      · rcases keep_eq_some_iff.mp h with ⟨before, hsplit, -⟩
        exact Nat.lt_succ_of_lt (ih hsplit)

theorem length_splitClose {quote : Option Char} {source text rest : List Char}
    (h : splitClose quote source = some (text, rest)) : rest.length < source.length := by
  fun_induction splitClose quote source generalizing text rest with
  | case1 => simp at h
  | case2 c tail hquote ih =>
      rcases keep_eq_some_iff.mp h with ⟨before, hsplit, -⟩
      exact Nat.lt_succ_of_lt (ih hsplit)
  | case3 tail hquote =>
      simp only [Option.some.injEq, Prod.mk.injEq] at h
      rcases h with ⟨-, rfl⟩
      simp only [List.length_cons]
      omega
  | case4 c tail hquote hclose ih =>
      rcases keep_eq_some_iff.mp h with ⟨before, hsplit, -⟩
      exact Nat.lt_succ_of_lt (ih hsplit)
  | case5 => simp at h
  | case6 c q hescape d tail ih =>
      rcases keep_eq_some_iff.mp h with ⟨before, hsplit, -⟩
      rcases keep_eq_some_iff.mp hsplit with ⟨before, hsplit, -⟩
      exact Nat.lt_succ_of_lt (Nat.lt_succ_of_lt (ih hsplit))
  | case7 c tail q hescape ih =>
      rcases keep_eq_some_iff.mp h with ⟨before, hsplit, -⟩
      exact Nat.lt_succ_of_lt (ih hsplit)

theorem length_leftMarker_le (text : List Char) : (leftMarker text).2.length ≤ text.length := by
  unfold leftMarker
  split
  · split <;> simp
  · simp

theorem length_ofComment {trimLeft : Bool} {text rest : List Char} {span : Span}
    (h : ofComment trimLeft text = .ok (span, rest)) : rest.length < text.length := by
  unfold ofComment at h
  split at h
  · simp at h
  · rename_i before after hsplit
    have hlen := length_splitCommentEnd hsplit
    split at h
    · simp only [Except.ok.injEq, Prod.mk.injEq] at h
      rcases h with ⟨-, rfl⟩
      simp only [List.length_cons] at hlen
      omega
    · split at h
      · simp only [Except.ok.injEq, Prod.mk.injEq] at h
        rcases h with ⟨-, rfl⟩
        simp only [List.length_cons] at hlen
        omega
      · simp at h
    · simp at h

theorem length_ofOpen {text rest : List Char} {span : Span}
    (h : ofOpen text = .ok (span, rest)) : rest.length < text.length := by
  have hmark := length_leftMarker_le text
  unfold ofOpen at h
  simp only at h
  split at h
  · rename_i comment hcomment
    have hlen := length_ofComment h
    have htrim := Text.length_trimStart_le (leftMarker text).2
    rw [hcomment] at htrim
    simp only [List.length_cons] at htrim
    omega
  · split at h
    · simp at h
    · rename_i body after hsplit
      have hlen := length_splitClose hsplit
      simp only [Except.ok.injEq, Prod.mk.injEq] at h
      rcases h with ⟨-, rfl⟩
      omega

theorem length_next? {source text rest : List Char} {span : Span}
    (h : next? source = .ok (some (text, span, rest))) : rest.length < source.length := by
  unfold next? at h
  split at h
  · simp at h
  · rename_i before after hsplit
    have hopen := length_splitOpen hsplit
    split at h
    · simp at h
    · rename_i found left hfound
      have hspan := length_ofOpen hfound
      simp only [Except.ok.injEq, Option.some.injEq, Prod.mk.injEq] at h
      rcases h with ⟨-, -, rfl⟩
      omega

end Span

end Template

end SecretProjection
