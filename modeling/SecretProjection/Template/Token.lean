import SecretProjection.Template.Basic
import SecretProjection.Text.Blank
import SecretProjection.Json.Reader

/-!
# Tokens of an action

The body of an action is a row of words, string literals and pipe signs.  White space separates
tokens and is otherwise without meaning.  A string literal is either a JSON literal or a raw text
between back quotes.
-/

namespace SecretProjection

namespace Template

inductive Token where
  | pipe
  | word (text : String)
  | string (text : String)
  deriving DecidableEq, Repr

namespace Token

/-! ## Pieces -/

/-- The rest of a JSON literal, closing quote included, and what follows it.  The text starts
behind the opening quote. -/
def splitLiteral : List Char -> Option (List Char × List Char)
  | [] => none
  | ['\\'] => none
  | '"' :: rest => some (['"'], rest)
  | '\\' :: d :: rest =>
      (splitLiteral rest).map fun split => ('\\' :: d :: split.1, split.2)
  | c :: rest => (splitLiteral rest).map fun split => (c :: split.1, split.2)

/-- The text of a raw literal and what follows its closing quote. -/
def splitRaw : List Char -> Option (List Char × List Char)
  | [] => none
  | c :: rest =>
      if c = '\x60' then some ([], rest)
      else (splitRaw rest).map fun split => (c :: split.1, split.2)

def isWordChar (c : Char) : Bool := !(Text.isBlank c || c == '|' || c == '"' || c == '\x60')

theorem length_splitLiteral {source text rest : List Char}
    (h : splitLiteral source = some (text, rest)) : rest.length < source.length := by
  fun_induction splitLiteral source generalizing text rest with
  | case1 => simp at h
  | case2 => simp at h
  | case3 tail =>
      simp only [Option.some.injEq, Prod.mk.injEq] at h
      rcases h with ⟨-, rfl⟩
      simp
  | case4 d tail ih =>
      rcases Option.map_eq_some_iff.mp h with ⟨split, hsplit, heq⟩
      simp only [Prod.mk.injEq] at heq
      rcases heq with ⟨-, rfl⟩
      exact Nat.lt_succ_of_lt (Nat.lt_succ_of_lt (ih hsplit))
  | case5 c tail _ _ _ ih =>
      rcases Option.map_eq_some_iff.mp h with ⟨split, hsplit, heq⟩
      simp only [Prod.mk.injEq] at heq
      rcases heq with ⟨-, rfl⟩
      exact Nat.lt_succ_of_lt (ih hsplit)

theorem length_splitRaw {source text rest : List Char}
    (h : splitRaw source = some (text, rest)) : rest.length < source.length := by
  fun_induction splitRaw source generalizing text rest with
  | case1 => simp at h
  | case2 tail =>
      simp only [Option.some.injEq, Prod.mk.injEq] at h
      rcases h with ⟨-, rfl⟩
      simp
  | case3 c tail hne ih =>
      rcases Option.map_eq_some_iff.mp h with ⟨split, hsplit, heq⟩
      simp only [Prod.mk.injEq] at heq
      rcases heq with ⟨-, rfl⟩
      exact Nat.lt_succ_of_lt (ih hsplit)

/-! ## Rows of tokens -/

def prepend (token : Token) (row : Except ParseFault (List Token)) :
    Except ParseFault (List Token) :=
  row.map (token :: ·)

/-- The tokens of a text.  `body` is the whole body, which faults quote. -/
def scan (body : String) (text : List Char) : Except ParseFault (List Token) :=
  match text with
  | [] => .ok []
  | c :: rest =>
      if Text.isBlank c then scan body rest
      else if c = '|' then prepend .pipe (scan body rest)
      else if c = '"' then
        match _ : splitLiteral rest with
        | none => .error (.unclosedString body)
        | some (literal, tail) =>
            match Json.parseLiteral ('"' :: literal) with
            | .error message => .error (.badLiteral message)
            | .ok text => prepend (.string text) (scan body tail)
      else if c = '\x60' then
        match _ : splitRaw rest with
        | none => .error (.unclosedRawString body)
        | some (raw, tail) => prepend (.string (String.ofList raw)) (scan body tail)
      else
        prepend (.word (String.ofList (c :: rest.takeWhile isWordChar)))
          (scan body (rest.dropWhile isWordChar))
termination_by text.length
decreasing_by
  · simp
  · simp
  · exact Nat.lt_succ_of_lt (length_splitLiteral ‹_›)
  · exact Nat.lt_succ_of_lt (length_splitRaw ‹_›)
  · exact Nat.lt_succ_of_le (List.dropWhile_sublist isWordChar).length_le

end Token

end Template

end SecretProjection
