import SecretProjection.Proofs.CharacterBytes
import SecretProjection.Proofs.Delimiters
import SecretProjection.Template.Offsets

/-!
# String literals of an action

The readers of a source meet string literals in different ways.  One of them looks for the end of
an action in characters and another one in bytes, and the tokens are found by others again.
`splitQuoted` is what they all do behind the first quote of a literal: they go on to its last quote,
and for double quotes whatever stands behind a backslash is passed over.

`Quoted` says that no literal is open at the end of a text and gives the ranges of its literals.  It
holds of every body that the search for the end of an action leaves in front of that end.
-/

namespace SecretProjection

namespace Template

namespace Offsets

open Text.Utf8 (byte)

/-!
# Single literals
-/

/-- Whether a character keeps the one behind it from ending a literal. -/
def IsEscape (quote c : Char) : Prop := quote = '"' ∧ c = '\\'

instance (quote c : Char) : Decidable (IsEscape quote c) :=
  inferInstanceAs (Decidable (_ ∧ _))

/-- The rest of a string literal, last quote included, and what follows it.  The text starts behind
the first quote. -/
def splitQuoted (quote : Char) : List Char -> Option (List Char × List Char)
  | [] => none
  | c :: rest =>
      if IsEscape quote c then
        match rest with
        | [] => none
        | d :: rest => Span.keep c (Span.keep d (splitQuoted quote rest))
      else if c = quote then some ([c], rest)
      else Span.keep c (splitQuoted quote rest)

theorem splitQuoted_escape {quote c : Char} (hescape : IsEscape quote c) (d : Char)
    (rest : List Char) :
    splitQuoted quote (c :: d :: rest) = Span.keep c (Span.keep d (splitQuoted quote rest)) := by
  rw [splitQuoted, if_pos hescape]

theorem splitQuoted_ends {quote : Char} (hescape : ¬ IsEscape quote quote) (rest : List Char) :
    splitQuoted quote (quote :: rest) = some ([quote], rest) := by
  rw [splitQuoted.eq_def]
  dsimp only
  rw [if_neg hescape, if_pos rfl]

theorem splitQuoted_inside {quote c : Char} (hescape : ¬ IsEscape quote c) (hc : c ≠ quote)
    (rest : List Char) :
    splitQuoted quote (c :: rest) = Span.keep c (splitQuoted quote rest) := by
  rw [splitQuoted.eq_def]
  dsimp only
  rw [if_neg hescape, if_neg hc]

theorem splitQuoted_literal (text : List Char) :
    splitQuoted '"' text = Token.splitLiteral text := by
  fun_induction Token.splitLiteral text with
  | case1 => rfl
  | case2 => rfl
  | case3 => exact splitQuoted_ends (by decide) _
  | case4 d rest ih =>
      rw [splitQuoted_escape ⟨rfl, rfl⟩, ih]
      simp [Span.keep, Function.comp_def]
  | case5 c rest hlast hquote hescape ih =>
      have hback : c ≠ '\\' := by
        intro hc
        cases rest with
        | nil => exact hlast hc rfl
        | cons d rest => exact hescape d rest hc rfl
      rw [splitQuoted_inside (fun h => hback h.2) hquote, ih]
      rfl

theorem splitQuoted_raw (text : List Char) :
    splitQuoted '\x60' text =
      (Token.splitRaw text).map fun split => (split.1 ++ ['\x60'], split.2) := by
  induction text with
  | nil => rfl
  | cons c rest ih =>
      rw [Token.splitRaw]
      by_cases hquote : c = '\x60'
      · rw [if_pos hquote, hquote, splitQuoted_ends (by decide)]
        rfl
      · have hescape : ¬ IsEscape '\x60' c := fun h => absurd h.1 (by decide)
        rw [if_neg hquote, splitQuoted_inside hescape hquote, ih]
        simp [Span.keep, Function.comp_def]

theorem eq_of_splitQuoted {quote : Char} {text literal rest : List Char}
    (h : splitQuoted quote text = some (literal, rest)) : text = literal ++ rest := by
  fun_induction splitQuoted quote text generalizing literal with
  | case1 => cases h
  | case2 => cases h
  | case3 c hescape d text ih =>
      rcases Span.keep_eq_some_iff.mp h with ⟨escaped, hescaped, rfl⟩
      rcases Span.keep_eq_some_iff.mp hescaped with ⟨before, hsplit, rfl⟩
      rw [ih hsplit]
      rfl
  | case4 text hescape =>
      cases h
      rfl
  | case5 c text hescape hquote ih =>
      rcases Span.keep_eq_some_iff.mp h with ⟨before, hsplit, rfl⟩
      rw [ih hsplit]
      rfl

theorem length_splitQuoted {quote : Char} {text literal rest : List Char}
    (h : splitQuoted quote text = some (literal, rest)) : rest.length ≤ text.length := by
  rw [eq_of_splitQuoted h, List.length_append]
  exact Nat.le_add_left _ _

/-- What a literal is does not depend on what stands behind it. -/
theorem splitQuoted_append {quote : Char} {text literal rest : List Char}
    (h : splitQuoted quote text = some (literal, rest)) (more : List Char) :
    splitQuoted quote (literal ++ more) = some (literal, more) := by
  fun_induction splitQuoted quote text generalizing literal with
  | case1 => cases h
  | case2 => cases h
  | case3 c hescape d text ih =>
      rcases Span.keep_eq_some_iff.mp h with ⟨escaped, hescaped, rfl⟩
      rcases Span.keep_eq_some_iff.mp hescaped with ⟨before, hsplit, rfl⟩
      rw [List.cons_append, List.cons_append, splitQuoted_escape hescape, ih hsplit]
      rfl
  | case4 text hescape =>
      cases h
      exact splitQuoted_ends hescape more
  | case5 c text hescape hquote ih =>
      rcases Span.keep_eq_some_iff.mp h with ⟨before, hsplit, rfl⟩
      rw [List.cons_append, splitQuoted_inside hescape hquote, ih hsplit]
      rfl

/-- A character that is no quote does not end a literal. -/
theorem splitQuoted_concat {quote c : Char} (hc : c ≠ quote) {text literal rest : List Char}
    (h : splitQuoted quote (text ++ [c]) = some (literal, rest)) :
    exists tail, rest = tail ++ [c] ∧ splitQuoted quote text = some (literal, tail) := by
  fun_induction splitQuoted quote text generalizing literal with
  | case1 =>
      rw [List.nil_append, splitQuoted.eq_def] at h
      dsimp only at h
      split_ifs at h
      cases h
  | case2 d hescape =>
      rw [List.singleton_append, splitQuoted_escape hescape] at h
      cases h
  | case3 d hescape e text ih =>
      rw [List.cons_append, List.cons_append, splitQuoted_escape hescape] at h
      rcases Span.keep_eq_some_iff.mp h with ⟨escaped, hescaped, rfl⟩
      rcases Span.keep_eq_some_iff.mp hescaped with ⟨before, hsplit, rfl⟩
      rcases ih hsplit with ⟨tail, hrest, htail⟩
      exact ⟨tail, hrest, by rw [htail]; rfl⟩
  | case4 text hescape =>
      rw [List.cons_append, splitQuoted_ends hescape] at h
      cases h
      exact ⟨text, rfl, rfl⟩
  | case5 d text hescape hquote ih =>
      rw [List.cons_append, splitQuoted_inside hescape hquote] at h
      rcases Span.keep_eq_some_iff.mp h with ⟨before, hsplit, rfl⟩
      rcases ih hsplit with ⟨tail, hrest, htail⟩
      exact ⟨tail, hrest, by rw [htail]; rfl⟩

/-- The search for the end of an action in characters. -/
theorem splitClose_some {quote : Char} (text : List Char) :
    Span.splitClose (some quote) text =
      (splitQuoted quote text).bind fun found =>
        (Span.splitClose none found.2).map fun split => (found.1 ++ split.1, split.2) := by
  fun_induction splitQuoted quote text with
  | case1 => rfl
  | case2 c hescape =>
      rcases hescape with ⟨rfl, rfl⟩
      rfl
  | case3 c hescape d text ih =>
      rcases hescape with ⟨rfl, rfl⟩
      rw [Span.splitClose_escape, ih]
      cases splitQuoted '"' text <;> simp [Span.keep, Function.comp_def]
  | case4 text hescape =>
      rw [Span.splitClose_inside hescape, if_pos rfl]
      rfl
  | case5 c text hescape hquote ih =>
      rw [Span.splitClose_inside hescape, if_neg hquote, ih]
      cases splitQuoted quote text <;> simp [Span.keep, Function.comp_def]

/-!
# Bytes

Quotes, backslashes and braces are single bytes that are part of no other character, so that a
search through bytes stops where a search through characters does.
-/

theorem bytes_cons (c : Char) (text : List Char) :
    bytes (c :: text) = String.utf8EncodeChar c ++ bytes text :=
  List.flatMap_cons

theorem bytes_cons_of_lt {c : Char} (h : c.toNat < 128) (text : List Char) :
    bytes (c :: text) = byte c :: bytes text := by
  rw [bytes_cons, Text.Utf8.utf8EncodeChar_of_lt h]
  rfl

theorem bytes_append (front back : List Char) : bytes (front ++ back) = bytes front ++ bytes back :=
  List.flatMap_append

theorem byte_inj {c d : Char} (hc : c.toNat < 128) (hd : d.toNat < 128) (h : byte c = byte d) :
    c = d := by
  apply Text.Utf8.eq_of_byte_mem hd
  rw [Text.Utf8.utf8EncodeChar_of_lt hc, h]
  exact List.mem_singleton_self _

/-- The first byte of a text is that of an ASCII character only when the first character is this
one. -/
theorem head?_bytes {d : Char} (hd : d.toNat < 128) (text : List Char) :
    (bytes text).head? = some (byte d) <-> text.head? = some d := by
  cases text with
  | nil => simp [bytes]
  | cons c text =>
      constructor
      · intro h
        cases hbytes : String.utf8EncodeChar c with
        | nil => simp at hbytes
        | cons b others =>
            rw [bytes_cons, hbytes, List.cons_append, List.head?_cons, Option.some.injEq] at h
            have hmem : byte d ∈ String.utf8EncodeChar c := by
              rw [hbytes, h]
              exact List.mem_cons_self
            rw [List.head?_cons, Text.Utf8.eq_of_byte_mem hd hmem]
      · intro h
        cases h
        rw [bytes_cons_of_lt hd]
        rfl

theorem eq_of_isQuote {c : Char} (h : Span.isQuote c = true) : c = '"' ∨ c = '\x60' := by
  simpa [Span.isQuote] using h

theorem lt_of_isQuote {c : Char} (h : Span.isQuote c = true) : c.toNat < 128 := by
  rcases eq_of_isQuote h with rfl | rfl <;> decide

theorem beq_byte {c d : Char} (hd : d.toNat < 128) {b : UInt8}
    (hb : b ∈ String.utf8EncodeChar c) : (b == byte d) = (c == d) := by
  rw [Bool.eq_iff_iff, beq_iff_eq, beq_iff_eq]
  constructor
  · intro h
    rw [h] at hb
    exact Text.Utf8.eq_of_byte_mem hd hb
  · intro h
    rw [h, Text.Utf8.utf8EncodeChar_of_lt hd] at hb
    exact List.mem_singleton.mp hb

theorem isQuote_byte {c : Char} (hc : c.toNat < 128) : isQuote (byte c) = Span.isQuote c := by
  have hmem : byte c ∈ String.utf8EncodeChar c := by
    rw [Text.Utf8.utf8EncodeChar_of_lt hc]
    exact List.mem_singleton_self _
  show (byte c == byte '"' || byte c == byte '\x60') = (c == '"' || c == '\x60')
  rw [beq_byte (by decide) hmem, beq_byte (by decide) hmem]

theorem close?_opened {quote b : UInt8} (hescape : ¬ (quote = 34 ∧ b = 92)) (start offset : Nat)
    (rest : Bytes) :
    close? (some (quote, start)) offset (b :: rest) =
      if b = quote then
        (close? none (offset + 1) rest).map fun found =>
          (found.1, ⟨start, offset + 1⟩ :: found.2)
      else close? (some (quote, start)) (offset + 1) rest := by
  rw [close?.eq_def]
  dsimp only
  rw [if_neg hescape]

/-- No byte of a wide character is looked for. -/
theorem close?_wide {opened : Option (UInt8 × Nat)} {front : Bytes}
    (hwide : forall b, b ∈ front -> 128 ≤ b.toNat)
    (hopened : forall quote start, opened = some (quote, start) -> quote.toNat < 128)
    (offset : Nat) (rest : Bytes) :
    close? opened offset (front ++ rest) = close? opened (offset + front.length) rest := by
  induction front generalizing offset with
  | nil => rfl
  | cons b front ih =>
      have hb := hwide b List.mem_cons_self
      have hne : forall a : UInt8, a.toNat < 128 -> b ≠ a := by
        intro a ha heq
        rw [heq] at hb
        omega
      have hstep : close? opened offset (b :: (front ++ rest)) =
          close? opened (offset + 1) (front ++ rest) := by
        cases opened with
        | none =>
            have hquote : isQuote b = false := by
              simp [isQuote, hne 34 (by decide), hne 96 (by decide)]
            rw [close?, if_neg (by simp [hquote]), if_neg fun h => hne 125 (by decide) h.1]
        | some opening =>
            rcases opening with ⟨quote, start⟩
            rw [close?_opened fun h => hne 92 (by decide) h.2,
              if_neg (hne quote (hopened quote start rfl))]
      rw [List.cons_append, hstep, ih fun a ha => hwide a (List.mem_cons_of_mem b ha),
        List.length_cons, Nat.add_right_comm, Nat.add_assoc]

/-!
## Steps of the search
-/

theorem close?_braces (offset : Nat) (rest : List Char) :
    close? none offset (bytes ('\x7d' :: '\x7d' :: rest)) = some (offset, []) := by
  rw [bytes_cons_of_lt (by decide), bytes_cons_of_lt (by decide)]
  rfl

theorem close?_plain {c : Char} {rest : List Char} (hquote : Span.isQuote c = false)
    (hbraces : ¬ ['\x7d', '\x7d'] <+: c :: rest) (offset : Nat) :
    close? none offset (bytes (c :: rest)) = close? none (offset + c.utf8Size) (bytes rest) := by
  by_cases hc : c.toNat < 128
  · have hno : ¬ (byte c = 125 ∧ (bytes rest).head? = some 125) := by
      intro h
      have hfirst : c = '\x7d' := byte_inj hc (by decide) h.1
      have hnext : rest.head? = some '\x7d' := (head?_bytes (by decide) rest).mp h.2
      rcases List.head?_eq_some_iff.mp hnext with ⟨tail, rfl⟩
      exact hbraces ⟨tail, by rw [hfirst]; rfl⟩
    rw [bytes_cons_of_lt hc, close?, isQuote_byte hc, if_neg (by simp [hquote]), if_neg hno,
      Text.Utf8.utf8Size_of_lt hc]
  · rw [bytes_cons, close?_wide]
    · rw [String.length_utf8EncodeChar]
    · intro b hb
      exact Text.Utf8.le_of_mem_utf8EncodeChar (Nat.le_of_not_lt hc) hb
    · intro quote start h
      cases h

section Inside

variable {quote : Char} (hquote : Span.isQuote quote = true) (start offset : Nat)

include hquote

theorem close?_inside {c : Char} (hescape : ¬ (quote = '"' ∧ c = '\\')) (hc : c ≠ quote)
    (rest : List Char) :
    close? (some (byte quote, start)) offset (bytes (c :: rest)) =
      close? (some (byte quote, start)) (offset + c.utf8Size) (bytes rest) := by
  by_cases hlow : c.toNat < 128
  · have hno : ¬ (byte quote = 34 ∧ byte c = 92) := by
      intro h
      exact hescape ⟨byte_inj (lt_of_isQuote hquote) (by decide) h.1,
        byte_inj hlow (by decide) h.2⟩
    rw [bytes_cons_of_lt hlow, close?_opened hno,
      if_neg fun h => hc (byte_inj hlow (lt_of_isQuote hquote) h), Text.Utf8.utf8Size_of_lt hlow]
  · rw [bytes_cons, close?_wide]
    · rw [String.length_utf8EncodeChar]
    · intro b hb
      exact Text.Utf8.le_of_mem_utf8EncodeChar (Nat.le_of_not_lt hlow) hb
    · intro found place h
      cases h
      rw [Text.Utf8.toNat_byte (lt_of_isQuote hquote)]
      exact lt_of_isQuote hquote

theorem close?_ends (rest : List Char) :
    close? (some (byte quote, start)) offset (bytes (quote :: rest)) =
      (close? none (offset + 1) (bytes rest)).map fun found =>
        (found.1, ⟨start, offset + 1⟩ :: found.2) := by
  have hno : ¬ (byte quote = 34 ∧ byte quote = 92) := by
    intro h
    rw [h.1] at h
    cases h.2
  rw [bytes_cons_of_lt (lt_of_isQuote hquote), close?_opened hno, if_pos rfl]

end Inside

/-- Of the character behind a backslash one byte is passed over at once.  The other ones are no
quotes, so that they are passed over as well. -/
theorem close?_escape (start offset : Nat) (d : Char) (rest : List Char) :
    close? (some (byte '"', start)) offset (bytes ('\\' :: d :: rest)) =
      close? (some (byte '"', start)) (offset + 1 + d.utf8Size) (bytes rest) := by
  rw [bytes_cons_of_lt (by decide), bytes_cons]
  by_cases hd : d.toNat < 128
  · rw [Text.Utf8.utf8EncodeChar_of_lt hd, Text.Utf8.utf8Size_of_lt hd, List.singleton_append,
      close?, if_pos ⟨rfl, rfl⟩]
  · cases hbytes : String.utf8EncodeChar d with
    | nil => simp at hbytes
    | cons b others =>
        have hlength := String.length_utf8EncodeChar d
        rw [hbytes, List.length_cons] at hlength
        rw [List.cons_append, close?, if_pos ⟨rfl, rfl⟩, close?_wide]
        · rw [← hlength]
          congr 1
          omega
        · intro a ha
          apply Text.Utf8.le_of_mem_utf8EncodeChar (Nat.le_of_not_lt hd)
          rw [hbytes]
          exact List.mem_cons_of_mem b ha
        · intro quote place h
          cases h
          decide

/-- The search for the end of an action in bytes. -/
theorem close?_some {quote : Char} (hquote : Span.isQuote quote = true) (start offset : Nat)
    (text : List Char) :
    close? (some (byte quote, start)) offset (bytes text) =
      (splitQuoted quote text).bind fun found =>
        (close? none (offset + size found.1) (bytes found.2)).map fun closed =>
          (closed.1, ⟨start, offset + size found.1⟩ :: closed.2) := by
  fun_induction splitQuoted quote text generalizing offset with
  | case1 => rfl
  | case2 c hescape =>
      rcases hescape with ⟨rfl, rfl⟩
      rfl
  | case3 c hescape d text ih =>
      rcases hescape with ⟨rfl, rfl⟩
      have hsize : '\\'.utf8Size = 1 := rfl
      rw [close?_escape, ih]
      cases splitQuoted '"' text <;> simp [Span.keep, hsize, Nat.add_assoc]
  | case4 text hescape =>
      have hsize := Text.Utf8.utf8Size_of_lt (lt_of_isQuote hquote)
      rw [close?_ends hquote]
      simp [hsize]
  | case5 c text hescape hc ih =>
      rw [close?_inside hquote start offset hescape hc, ih]
      cases splitQuoted quote text <;> simp [Span.keep, Nat.add_assoc]

theorem close?_quote {quote : Char} (hquote : Span.isQuote quote = true) (offset : Nat)
    (text : List Char) :
    close? none offset (bytes (quote :: text)) =
      (splitQuoted quote text).bind fun found =>
        (close? none (offset + 1 + size found.1) (bytes found.2)).map fun closed =>
          (closed.1, ⟨offset, offset + 1 + size found.1⟩ :: closed.2) := by
  have hbyte : isQuote (byte quote) = true := by
    rw [isQuote_byte (lt_of_isQuote hquote), hquote]
  rw [bytes_cons_of_lt (lt_of_isQuote hquote), close?, if_pos hbyte, close?_some hquote]

/-!
# Texts
-/

/-- The ranges of the string literals of a text that starts at an offset and in which every literal
has its last quote. -/
inductive Quoted : Nat -> List Char -> List Range -> Prop where
  | nil (offset : Nat) : Quoted offset [] []
  | plain {offset : Nat} {c : Char} {text : List Char} {ranges : List Range}
      (hc : Span.isQuote c = false) (htext : Quoted (offset + c.utf8Size) text ranges) :
      Quoted offset (c :: text) ranges
  | literal {offset : Nat} {quote : Char} {text inner rest : List Char} {ranges : List Range}
      (hquote : Span.isQuote quote = true) (hsplit : splitQuoted quote text = some (inner, rest))
      (hrest : Quoted (offset + 1 + size inner) rest ranges) :
      Quoted offset (quote :: text) (⟨offset, offset + 1 + size inner⟩ :: ranges)

namespace Quoted

variable {offset : Nat} {text : List Char} {ranges : List Range}

theorem of_nil (h : Quoted offset [] ranges) : ranges = [] := by
  cases h
  rfl

theorem of_plain {c : Char} (hc : Span.isQuote c = false) (h : Quoted offset (c :: text) ranges) :
    Quoted (offset + c.utf8Size) text ranges := by
  cases h with
  | plain _ htext => exact htext
  | literal hquote =>
      rw [hc] at hquote
      cases hquote

theorem of_literal {quote : Char} (hquote : Span.isQuote quote = true)
    (h : Quoted offset (quote :: text) ranges) :
    exists inner rest others, splitQuoted quote text = some (inner, rest) ∧
      Quoted (offset + 1 + size inner) rest others ∧
      ranges = ⟨offset, offset + 1 + size inner⟩ :: others := by
  cases h with
  | plain hc =>
      rw [hquote] at hc
      cases hc
  | literal _ hsplit hrest => exact ⟨_, _, _, hsplit, hrest, rfl⟩

/-- Characters in front that are no quotes move the literals and are nothing else. -/
theorem of_append {front : List Char} (hfront : forall c, c ∈ front -> Span.isQuote c = false)
    (h : Quoted offset (front ++ text) ranges) : Quoted (offset + size front) text ranges := by
  induction front generalizing offset with
  | nil => exact h
  | cons c front ih =>
      have hrest := ih (fun d hd => hfront d (List.mem_cons_of_mem c hd))
        (of_plain (hfront c List.mem_cons_self) h)
      rw [size_cons, ← Nat.add_assoc]
      exact hrest

theorem of_concat {c : Char} (hc : Span.isQuote c = false)
    (h : Quoted offset (text ++ [c]) ranges) : Quoted offset text ranges := by
  generalize hwhole : text ++ [c] = whole at h
  induction h generalizing text with
  | nil offset => simp at hwhole
  | @plain offset d whole ranges hd hrest ih =>
      cases text with
      | nil =>
          cases hwhole
          rw [of_nil hrest]
          exact .nil offset
      | cons e text =>
          cases hwhole
          exact .plain hd (ih rfl)
  | @literal offset quote whole inner rest ranges hquote hsplit hrest ih =>
      cases text with
      | nil =>
          cases hwhole
          rw [hc] at hquote
          cases hquote
      | cons e text =>
          cases hwhole
          have hne : c ≠ quote := by
            intro heq
            rw [heq, hquote] at hc
            cases hc
          rcases splitQuoted_concat hne hsplit with ⟨tail, htail, hshorter⟩
          exact .literal hquote hshorter (ih htail.symm)

theorem of_append_right {back : List Char} (hback : forall c, c ∈ back -> Span.isQuote c = false)
    (h : Quoted offset (text ++ back) ranges) : Quoted offset text ranges := by
  induction back generalizing text with
  | nil =>
      rw [List.append_nil] at h
      exact h
  | cons c back ih =>
      have hsplit : text ++ c :: back = (text ++ [c]) ++ back := by simp
      rw [hsplit] at h
      exact of_concat (hback c List.mem_cons_self)
        (ih (fun d hd => hback d (List.mem_cons_of_mem c hd)) h)

end Quoted

/-- Both searches for the end of an action find it at the same place, behind a text in which no
literal is open, or find none. -/
theorem close?_eq_splitClose (offset : Nat) (text : List Char) :
    (Span.splitClose none text = none ∧ close? none offset (bytes text) = none) ∨
      exists body rest ranges, Span.splitClose none text = some (body, rest) ∧
        Quoted offset body ranges ∧
        close? none offset (bytes text) = some (offset + size body, ranges) := by
  -- A literal is passed over at once, so that the induction is on the length of the text.
  induction hlength : text.length using Nat.strong_induction_on generalizing offset text with
  | h length ih =>
      subst hlength
      cases text with
      | nil => exact .inl ⟨rfl, rfl⟩
      | cons c text =>
          by_cases hquote : Span.isQuote c = true
          · rw [Span.splitClose_quote hquote, splitClose_some, close?_quote hquote]
            cases hsplit : splitQuoted c text with
            | none => exact .inl ⟨rfl, rfl⟩
            | some found =>
                rcases found with ⟨inner, tail⟩
                have hshorter := Nat.lt_succ_of_le (length_splitQuoted hsplit)
                rcases ih tail.length hshorter (offset + 1 + size inner) tail rfl with
                  ⟨hnone, hclose⟩ | ⟨body, rest, ranges, hsome, hranges, hclose⟩
                · exact .inl ⟨by simp [hnone, Span.keep], by simp [hclose]⟩
                · have hone := Text.Utf8.utf8Size_of_lt (lt_of_isQuote hquote)
                  refine .inr ⟨c :: (inner ++ body), rest,
                    ⟨offset, offset + 1 + size inner⟩ :: ranges, ?_, ?_, ?_⟩
                  · simp [hsome, Span.keep]
                  · exact .literal hquote (splitQuoted_append hsplit body) hranges
                  · rw [Option.bind_some, hclose, size_cons, size_append, hone, ← Nat.add_assoc,
                      ← Nat.add_assoc]
                    rfl
          · rw [Bool.not_eq_true] at hquote
            by_cases hbraces : ['\x7d', '\x7d'] <+: c :: text
            · rcases hbraces with ⟨rest, heq⟩
              cases heq
              exact .inr ⟨[], rest, [], rfl, .nil offset, close?_braces offset rest⟩
            · rw [Span.splitClose_plain hquote hbraces, close?_plain hquote hbraces]
              rcases ih text.length (Nat.lt_succ_self _) (offset + c.utf8Size) text rfl with
                ⟨hnone, hclose⟩ | ⟨body, rest, ranges, hsome, hranges, hclose⟩
              · exact .inl ⟨by rw [hnone]; rfl, hclose⟩
              · refine .inr ⟨c :: body, rest, ranges, ?_, .plain hquote hranges, ?_⟩
                · rw [hsome]
                  rfl
                · rw [hclose, size_cons, Nat.add_assoc]

end Offsets

end Template

end SecretProjection
