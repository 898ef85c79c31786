import SecretProjection.Template.Parser
import SecretProjection.Text.Utf8

/-!
# Reading by offsets

Another way to read a source leaves it as it is and remembers places in it, as offsets in bytes.
The end of an action is looked for in the bytes of the source, one after another, and texts are cut
out of it where they are needed.  A cut is refused when an offset lies outside of the source or
inside a character.

The tokens of a body are found in its characters, with a mark for the backslash that has just been
passed.  Both readers note the ranges of the string literals that they pass.
-/

namespace SecretProjection

namespace Template

namespace Offsets

/-! ## Bytes -/

/-- The UTF-8 bytes of a text. -/
def bytes (text : List Char) : Bytes := text.flatMap String.utf8EncodeChar

def size (text : List Char) : Nat := (bytes text).length

/-- The place of a string literal, from its first quote to the byte behind its last one. -/
structure Range where
  start : Nat
  stop : Nat
  deriving DecidableEq, Repr

/-! ## Cuts -/

/-- Why reading stops. -/
inductive Stop where
  | fault (fault : ParseFault)
  /-- The offset lies outside of the text or inside a character. -/
  | badOffset (offset : Nat)
  deriving DecidableEq, Repr

/-- The parts of a text before and behind an offset. -/
def split? : Nat -> List Char -> Option (List Char × List Char)
  | 0, text => some ([], text)
  | _ + 1, [] => none
  | offset + 1, c :: rest =>
      if c.utf8Size ≤ offset + 1 then
        (split? (offset + 1 - c.utf8Size) rest).map fun parts => (c :: parts.1, parts.2)
      else none

def cutFrom (text : List Char) (start : Nat) : Except Stop (List Char) :=
  match split? start text with
  | none => .error (.badOffset start)
  | some (_, rest) => .ok rest

def cut (text : List Char) (start stop : Nat) : Except Stop (List Char) :=
  match cutFrom text start with
  | .error fault => .error fault
  | .ok rest =>
      if stop < start then .error (.badOffset stop)
      else
        match split? (stop - start) rest with
        | none => .error (.badOffset stop)
        | some (front, _) => .ok front

/-- The offset of the first place at which a text holds a pattern. -/
def find? (pattern : List Char) : List Char -> Option Nat
  | [] => if pattern = [] then some 0 else none
  | c :: rest =>
      if pattern.isPrefixOf (c :: rest) then some 0
      else (find? pattern rest).map (c.utf8Size + ·)

/-! ## Actions -/

def isQuote (b : UInt8) : Bool := b == 34 || b == 96

/-- Space, tab, line feed, form feed and carriage return. -/
def isBlank (b : UInt8) : Bool := b == 32 || b == 9 || b == 10 || b == 12 || b == 13

/-- Looks for two closing braces outside string literals.  `opened` is the quote of the literal
that the bytes start in, with its offset.  Found are the offset of the braces and the ranges of the
literals in front of them. -/
def close? (opened : Option (UInt8 × Nat)) (offset : Nat) : Bytes -> Option (Nat × List Range)
  | [] => none
  | b :: rest =>
      match opened with
      | none =>
          if isQuote b then close? (some (b, offset)) (offset + 1) rest
          else if b = 125 ∧ rest.head? = some 125 then some (offset, [])
          else close? none (offset + 1) rest
      | some (quote, start) =>
          if quote = 34 ∧ b = 92 then
            match rest with
            | [] => none
            | _ :: rest => close? opened (offset + 2) rest
          else if b = quote then
            (close? none (offset + 1) rest).map fun found =>
              (found.1, ⟨start, offset + 1⟩ :: found.2)
          else close? opened (offset + 1) rest

/-- An action or comment at its place in a source. -/
structure Placed where
  start : Nat
  stop : Nat
  span : Span
  quoted : List Range
  deriving DecidableEq, Repr

/-- The offset of the body, behind the opening delimiter and its trim marker. -/
def Placed.bodyStart (placed : Placed) : Nat :=
  if placed.span.trimLeft then placed.start + 3 else placed.start + 2

/-- The end of a comment behind its last slash: whether there is a trim marker, and the size. -/
def commentEnd (rest : List Char) : Except Stop (Bool × Nat) := do
  if ['\x7d', '\x7d'].isPrefixOf rest then return (false, 2)
  else if rest.head?.any Text.isAsciiBlank then
    let marker <- cutFrom rest 1
    if ['-', '\x7d', '\x7d'].isPrefixOf marker then return (true, 4)
    else throw (.fault .commentEnd)
  else throw (.fault .commentEnd)

def placeComment (source : List Char) (start textStart : Nat) (trimLeft : Bool) :
    Except Stop Placed := do
  let text <- cutFrom source textStart
  match find? ['*', '/'] text with
  | none => throw (.fault .unclosedComment)
  | some offset =>
      let rest <- cutFrom source (textStart + offset + 2)
      let (trimRight, length) <- commentEnd rest
      return ⟨start, textStart + offset + 2 + length, ⟨trimLeft, trimRight, none⟩, []⟩

/-- The action or comment whose delimiter starts at `start` and whose text starts at `bodyStart`. -/
def placeBody (source : List Char) (start bodyStart : Nat) (trimLeft : Bool) :
    Except Stop Placed := do
  let text <- cutFrom source bodyStart
  let leading := size text - size (Text.trimStart text)
  let trimmed <- cutFrom source (bodyStart + leading)
  if ['/', '*'].isPrefixOf trimmed then
    placeComment source start (bodyStart + leading + 2) trimLeft
  else
    let all := bytes source
    match close? none bodyStart (all.drop bodyStart) with
    | none => throw (.fault .unclosedAction)
    | some (stop, quoted) =>
        let trimRight := bodyStart + 2 ≤ stop && all[stop - 1]? == some 45 &&
          all[stop - 2]?.any isBlank
        let body <- cut source bodyStart (if trimRight then stop - 1 else stop)
        return ⟨start, stop + 2, ⟨trimLeft, trimRight, some body⟩, quoted⟩

/-- The first action or comment from an offset on. -/
def next? (source : List Char) (offset : Nat) : Except Stop (Option Placed) := do
  let text <- cutFrom source offset
  match find? ['\x7b', '\x7b'] text with
  | none => return none
  | some skipped =>
      let start := offset + skipped
      let all := bytes source
      let trimLeft := all[start + 2]? == some 45 && all[start + 3]?.any isBlank
      let placed <- placeBody source start (if trimLeft then start + 3 else start + 2) trimLeft
      return some placed

/-! ## What is left is shorter -/

@[simp] theorem size_nil : size [] = 0 := rfl

@[simp] theorem size_cons (c : Char) (text : List Char) :
    size (c :: text) = c.utf8Size + size text := by
  simp [size, bytes]

theorem size_append (front back : List Char) : size (front ++ back) = size front + size back := by
  simp [size, bytes]

theorem split?_eq_some {offset : Nat} {text front rest : List Char}
    (h : split? offset text = some (front, rest)) : text = front ++ rest ∧ offset = size front := by
  fun_induction split? offset text generalizing front rest with
  | case1 text =>
      cases h
      exact ⟨rfl, rfl⟩
  | case2 => cases h
  | case3 offset c text hle ih =>
      rcases Option.map_eq_some_iff.mp h with ⟨parts, hparts, heq⟩
      cases heq
      rcases ih hparts with ⟨htext, hoffset⟩
      refine ⟨by rw [htext]; rfl, ?_⟩
      rw [size_cons]
      omega
  | case4 => cases h

theorem cutFrom_eq_ok {text rest : List Char} {start : Nat} (h : cutFrom text start = .ok rest) :
    exists front, text = front ++ rest ∧ start = size front := by
  unfold cutFrom at h
  split at h
  · cases h
  · rename_i front _ hsplit
    cases h
    exact ⟨front, split?_eq_some hsplit⟩

theorem size_cutFrom {text rest : List Char} {start : Nat} (h : cutFrom text start = .ok rest) :
    start + size rest = size text := by
  rcases cutFrom_eq_ok h with ⟨front, htext, hstart⟩
  rw [htext, size_append, hstart]

theorem le_size_of_isPrefixOf {pattern text : List Char} (h : pattern.isPrefixOf text = true) :
    size pattern ≤ size text := by
  rcases List.isPrefixOf_iff_prefix.mp h with ⟨rest, hrest⟩
  rw [← hrest, size_append]
  exact Nat.le_add_right _ _

theorem bounds_of_close? {opened : Option (UInt8 × Nat)} {offset stop : Nat} {all : Bytes}
    {quoted : List Range} (h : close? opened offset all = some (stop, quoted)) :
    offset ≤ stop ∧ stop + 2 ≤ offset + all.length := by
  fun_induction close? opened offset all generalizing stop quoted with
  | case1 => cases h
  | case2 offset b rest hquote ih =>
      have hrest := ih h
      simp only [List.length_cons]
      omega
  | case3 offset b rest hquote hbraces =>
      cases h
      rcases List.head?_eq_some_iff.mp hbraces.2 with ⟨tail, rfl⟩
      simp only [List.length_cons]
      omega
  | case4 offset b rest hquote hbraces ih =>
      have hrest := ih h
      simp only [List.length_cons]
      omega
  | case5 => cases h
  | case6 offset b quote start hescape escaped rest ih =>
      have hrest := ih h
      simp only [List.length_cons]
      omega
  | case7 offset b rest start hescape ih =>
      rcases Option.map_eq_some_iff.mp h with ⟨found, hfound, heq⟩
      cases heq
      have hrest := ih hfound
      simp only [List.length_cons]
      omega
  | case8 offset b rest quote start hescape hends ih =>
      have hrest := ih h
      simp only [List.length_cons]
      omega

theorem le_size_of_commentEnd {rest : List Char} {trimRight : Bool} {length : Nat}
    (h : commentEnd rest = .ok (trimRight, length)) : length ≤ size rest := by
  unfold commentEnd at h
  simp only [bind, Except.bind, throw, throwThe, MonadExceptOf.throw, pure, Except.pure] at h
  split at h
  · rename_i hbraces
    cases h
    exact le_size_of_isPrefixOf hbraces
  · split at h
    · split at h
      · cases h
      · rename_i marker hmarker
        have hshorter := size_cutFrom hmarker
        split at h
        · rename_i hbraces
          cases h
          have hlength : 3 ≤ size marker := le_size_of_isPrefixOf hbraces
          omega
        · cases h
    · cases h

theorem bounds_of_placeComment {source : List Char} {start textStart : Nat} {trimLeft : Bool}
    {placed : Placed} (h : placeComment source start textStart trimLeft = .ok placed) :
    textStart < placed.stop ∧ placed.stop ≤ size source := by
  unfold placeComment at h
  simp only [bind, Except.bind, throw, throwThe, MonadExceptOf.throw, pure, Except.pure] at h
  split at h
  · cases h
  · split at h
    · cases h
    · split at h
      · cases h
      · rename_i rest hrest
        have hsize := size_cutFrom hrest
        split at h
        · cases h
        · rename_i found hend
          have hlength := le_size_of_commentEnd hend
          cases h
          exact ⟨by simp only; omega, by simp only; omega⟩

theorem bounds_of_placeBody {source : List Char} {start bodyStart : Nat} {trimLeft : Bool}
    {placed : Placed} (h : placeBody source start bodyStart trimLeft = .ok placed) :
    bodyStart < placed.stop ∧ placed.stop ≤ size source := by
  unfold placeBody at h
  simp only [bind, Except.bind, throw, throwThe, MonadExceptOf.throw, pure, Except.pure] at h
  split at h
  · cases h
  · split at h
    · cases h
    · split at h
      · have hbounds := bounds_of_placeComment h
        omega
      · split at h
        · cases h
        · rename_i stop quoted hclose
          have hbounds := bounds_of_close? hclose
          have hlength : (bytes source).length = size source := rfl
          rw [List.length_drop, hlength] at hbounds
          split at h
          · cases h
          · cases h
            exact ⟨by simp only; omega, by simp only; omega⟩

/-- Every search moves on. -/
theorem bounds_of_next? {source : List Char} {offset : Nat} {placed : Placed}
    (h : next? source offset = .ok (some placed)) :
    offset < placed.stop ∧ placed.stop ≤ size source := by
  unfold next? at h
  simp only [bind, Except.bind, pure, Except.pure] at h
  split at h
  · cases h
  · split at h
    · cases h
    · split at h
      · cases h
      · rename_i found hfound
        cases h
        have hbounds := bounds_of_placeBody hfound
        split at hbounds <;> omega

/-! ## Sources -/

/-- The actions and comments from an offset on, and the pieces of the template. -/
def readFrom (source : List Char) (trimNext : Bool) (offset : Nat) :
    Except Stop (List Placed × Template) :=
  match _ : next? source offset with
  | .error stop => .error stop
  | .ok none =>
      (cutFrom source offset).map fun tail => ([], textNode trimNext false tail)
  | .ok (some placed) =>
      match cut source offset placed.start with
      | .error stop => .error stop
      | .ok text =>
          match spanNode placed.span with
          | .error fault => .error (.fault fault)
          | .ok nodes =>
              (readFrom source placed.span.trimRight placed.stop).map fun found =>
                (placed :: found.1,
                  textNode trimNext placed.span.trimLeft text ++ nodes ++ found.2)
termination_by size source - offset
decreasing_by
  have hbounds := bounds_of_next? ‹_›
  omega

def read (source : String) : Except Stop (List Placed × Template) :=
  readFrom source.toList false 0

/-! ## Tokens -/

/-- The offset of the quote that ends a literal, and what follows that quote.  `escaped` says that
a backslash stands right before the text. -/
def literalEnd? (escaped : Bool) (offset : Nat) : List Char -> Option (Nat × List Char)
  | [] => none
  | c :: rest =>
      if escaped then literalEnd? false (offset + c.utf8Size) rest
      else if c = '\\' then literalEnd? true (offset + c.utf8Size) rest
      else if c = '"' then some (offset, rest)
      else literalEnd? false (offset + c.utf8Size) rest

/-- The offset of the quote that ends a raw literal, and what follows that quote. -/
def rawEnd? (offset : Nat) : List Char -> Option (Nat × List Char)
  | [] => none
  | c :: rest => if c = '\x60' then some (offset, rest) else rawEnd? (offset + c.utf8Size) rest

/-- The offset behind a word, and what follows the word. -/
def wordEnd (offset : Nat) : List Char -> Nat × List Char
  | [] => (offset, [])
  | c :: rest =>
      if Token.isWordChar c then wordEnd (offset + c.utf8Size) rest else (offset, c :: rest)

theorem length_literalEnd? {escaped : Bool} {offset stop : Nat} {text rest : List Char}
    (h : literalEnd? escaped offset text = some (stop, rest)) : rest.length < text.length := by
  fun_induction literalEnd? escaped offset text with
  | case1 => cases h
  | case2 offset c rest ih => exact Nat.lt_succ_of_lt (ih h)
  | case3 escaped offset rest hescaped ih => exact Nat.lt_succ_of_lt (ih h)
  | case4 =>
      cases h
      exact Nat.lt_succ_self _
  | case5 escaped offset c rest hescaped hback hquote ih => exact Nat.lt_succ_of_lt (ih h)

theorem length_rawEnd? {offset stop : Nat} {text rest : List Char}
    (h : rawEnd? offset text = some (stop, rest)) : rest.length < text.length := by
  fun_induction rawEnd? offset text with
  | case1 => cases h
  | case2 =>
      cases h
      exact Nat.lt_succ_self _
  | case3 offset c rest hquote ih => exact Nat.lt_succ_of_lt (ih h)

theorem length_wordEnd_le (offset : Nat) (text : List Char) :
    (wordEnd offset text).2.length ≤ text.length := by
  fun_induction wordEnd offset text with
  | case1 => exact Nat.le_refl _
  | case2 offset c rest hword ih => exact Nat.le_succ_of_le ih
  | case3 => exact Nat.le_refl _

/-- What comes of scanning a body: the ranges of the literals met, and the tokens or a fault. -/
structure Scanned where
  quoted : List Range
  tokens : Except Stop (List Token)

def Scanned.prepend (token : Token) (scanned : Scanned) : Scanned :=
  { scanned with tokens := scanned.tokens.map (token :: ·) }

def Scanned.pass (range : Range) (scanned : Scanned) : Scanned :=
  { scanned with quoted := range :: scanned.quoted }

/-- Scans the rest of a body from an offset on. -/
def scanFrom (body : List Char) (offset : Nat) (text : List Char) : Scanned :=
  match text with
  | [] => ⟨[], .ok []⟩
  | c :: rest =>
      if Text.isBlank c then scanFrom body (offset + c.utf8Size) rest
      else if c = '|' then (scanFrom body (offset + c.utf8Size) rest).prepend .pipe
      else if c = '"' then
        match _ : literalEnd? false (offset + c.utf8Size) rest with
        | none => ⟨[], .error (.fault (.unclosedString (String.ofList body)))⟩
        | some (stop, tail) =>
            match cut body offset (stop + 1) with
            | .error fault => ⟨[⟨offset, stop + 1⟩], .error fault⟩
            | .ok literal =>
                match Json.parseLiteral literal with
                | .error message =>
                    ⟨[⟨offset, stop + 1⟩], .error (.fault (.badLiteral message))⟩
                | .ok text =>
                    ((scanFrom body (stop + 1) tail).prepend (.string text)).pass
                      ⟨offset, stop + 1⟩
      else if c = '\x60' then
        match _ : rawEnd? (offset + c.utf8Size) rest with
        | none => ⟨[], .error (.fault (.unclosedRawString (String.ofList body)))⟩
        | some (stop, tail) =>
            match cut body (offset + 1) stop with
            | .error fault => ⟨[⟨offset, stop + 1⟩], .error fault⟩
            | .ok raw =>
                ((scanFrom body (stop + 1) tail).prepend (.string (String.ofList raw))).pass
                  ⟨offset, stop + 1⟩
      else
        let found := wordEnd (offset + c.utf8Size) rest
        match cut body offset found.1 with
        | .error fault => ⟨[], .error fault⟩
        | .ok word => (scanFrom body found.1 found.2).prepend (.word (String.ofList word))
termination_by text.length
decreasing_by
  · simp
  · simp
  · exact Nat.lt_succ_of_lt (length_literalEnd? ‹_›)
  · exact Nat.lt_succ_of_lt (length_rawEnd? ‹_›)
  · exact Nat.lt_succ_of_le (length_wordEnd_le _ _)

def scan (body : List Char) : Scanned := scanFrom body 0 body

end Offsets

end Template

end SecretProjection
