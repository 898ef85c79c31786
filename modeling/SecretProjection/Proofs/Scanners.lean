import SecretProjection.Proofs.Layouts
import SecretProjection.Proofs.Offsets
import SecretProjection.Proofs.ParsedTrees
import SecretProjection.Proofs.Stops

/-!
# One set of string literals

The search for the end of an action and the scanner of tokens pass over the same string literals.
The one goes through the bytes of a source and skips the byte behind a backslash.  The other one
goes through the characters of the body, from which markers and outer white space have been taken
away, and keeps a backslash in mind.

Hence the tokens never come to a literal without its end, and of the faults of reading and
evaluating some are there for no source.
-/

namespace SecretProjection

namespace Template

namespace Offsets

/-!
# Moved texts
-/

def Range.shift (distance : Nat) (range : Range) : Range :=
  ⟨distance + range.start, distance + range.stop⟩

/-- The literals of a text are where they are in the text, as far on as the text starts. -/
theorem Quoted.exists_shift {distance offset : Nat} {text : List Char} {ranges : List Range}
    (h : Quoted (distance + offset) text ranges) :
    exists own, Quoted offset text own ∧ ranges = own.map (Range.shift distance) := by
  generalize hplace : distance + offset = place at h
  induction h generalizing offset with
  | nil place => exact ⟨[], .nil offset, rfl⟩
  | @plain place c text ranges hc htext ih =>
      rcases @ih (offset + c.utf8Size) (by omega) with ⟨own, hown, rfl⟩
      exact ⟨own, .plain hc hown, rfl⟩
  | @literal place quote text inner rest ranges hquote hsplit hrest ih =>
      rcases @ih (offset + 1 + size inner) (by omega) with ⟨own, hown, rfl⟩
      refine ⟨⟨offset, offset + 1 + size inner⟩ :: own, .literal hquote hsplit hown, ?_⟩
      rw [List.map_cons, Range.shift, ← hplace]
      simp [Nat.add_assoc]

/-!
# Tokens
-/

theorem literalEnd?_eq (offset : Nat) (text : List Char) :
    (literalEnd? false offset text).map (fun found => (found.1 + 1, found.2)) =
      (Token.splitLiteral text).map fun found => (offset + size found.1, found.2) := by
  fun_induction Token.splitLiteral text generalizing offset with
  | case1 => rfl
  | case2 => rfl
  | case3 => rfl
  | case4 d rest ih =>
      have hstep : literalEnd? false offset ('\\' :: d :: rest) =
          literalEnd? false (offset + '\\'.utf8Size + d.utf8Size) rest := by
        simp [literalEnd?]
      rw [hstep, ih]
      cases Token.splitLiteral rest <;> simp [Nat.add_assoc]
  | case5 c rest hlast hquote hescape ih =>
      have hback : c ≠ '\\' := by
        intro hc
        cases rest with
        | nil => exact hlast hc rfl
        | cons d rest => exact hescape d rest hc rfl
      have hstep : literalEnd? false offset (c :: rest) =
          literalEnd? false (offset + c.utf8Size) rest := by
        rw [literalEnd?, if_neg (by decide), if_neg hback, if_neg hquote]
      rw [hstep, ih]
      cases Token.splitLiteral rest <;> simp [Nat.add_assoc]

theorem rawEnd?_eq (offset : Nat) (text : List Char) :
    rawEnd? offset text =
      (Token.splitRaw text).map fun found => (offset + size found.1, found.2) := by
  induction text generalizing offset with
  | nil => rfl
  | cons c rest ih =>
      rw [rawEnd?, Token.splitRaw]
      split
      · rfl
      · rw [ih]
        cases Token.splitRaw rest <;> simp [Nat.add_assoc]

theorem wordEnd_eq (offset : Nat) (text : List Char) :
    wordEnd offset text =
      (offset + size (text.takeWhile Token.isWordChar), text.dropWhile Token.isWordChar) := by
  induction text generalizing offset with
  | nil => rfl
  | cons c rest ih =>
      rw [wordEnd, List.takeWhile_cons, List.dropWhile_cons]
      split
      · rw [ih, size_cons, Nat.add_assoc]
      · rfl

/-- What a scanner gives for a text with the tokens and the literals of given ranges: it comes to
the end, or a literal is not one of JSON and the literals behind it are not seen. -/
inductive Reads : Scanned -> Except ParseFault (List Token) -> List Range -> Prop where
  | tokens (tokens : List Token) (ranges : List Range) :
      Reads ⟨ranges, .ok tokens⟩ (.ok tokens) ranges
  | badLiteral (message : String) {seen ranges : List Range} (hseen : seen <+: ranges) :
      Reads ⟨seen, .error (.fault (.badLiteral message))⟩ (.error (.badLiteral message)) ranges

namespace Reads

variable {scanned : Scanned} {tokens : Except ParseFault (List Token)} {ranges : List Range}

theorem prepend (h : Reads scanned tokens ranges) (token : Token) :
    Reads (scanned.prepend token) (Token.prepend token tokens) ranges := by
  cases h with
  | tokens row => exact .tokens (token :: row) ranges
  | badLiteral message hseen => exact .badLiteral message hseen

theorem pass (h : Reads scanned tokens ranges) (range : Range) :
    Reads (scanned.pass range) tokens (range :: ranges) := by
  cases h with
  | tokens row => exact .tokens row (range :: ranges)
  | badLiteral message hseen => exact .badLiteral message (List.cons_prefix_cons.mpr ⟨rfl, hseen⟩)

theorem tokens_eq (h : Reads scanned tokens ranges) : scanned.tokens = tokens.mapError .fault := by
  cases h <;> rfl

theorem exists_badLiteral (h : Reads scanned tokens ranges) {stop : Stop}
    (hstop : scanned.tokens = .error stop) :
    exists message, stop = .fault (.badLiteral message) := by
  cases h with
  | tokens => cases hstop
  | badLiteral message =>
      cases hstop
      exact ⟨message, rfl⟩

theorem seen (h : Reads scanned tokens ranges) : scanned.quoted <+: ranges := by
  cases h with
  | tokens => exact List.prefix_rfl
  | badLiteral _ hseen => exact hseen

theorem quoted_eq (h : Reads scanned tokens ranges) {row : List Token}
    (hrow : scanned.tokens = .ok row) : scanned.quoted = ranges := by
  cases h with
  | tokens => rfl
  | badLiteral => cases hrow

end Reads

theorem scanFrom_quote {body rest tail literal : List Char} {offset stop : Nat}
    (hend : literalEnd? false (offset + 1) rest = some (stop, tail))
    (hcut : cut body offset (stop + 1) = .ok literal) :
    scanFrom body offset ('"' :: rest) =
      match Json.parseLiteral literal with
      | .error message => ⟨[⟨offset, stop + 1⟩], .error (.fault (.badLiteral message))⟩
      | .ok text =>
          ((scanFrom body (stop + 1) tail).prepend (.string text)).pass ⟨offset, stop + 1⟩ := by
  have hsize : '"'.utf8Size = 1 := rfl
  rw [scanFrom, if_neg (by decide), if_neg (by decide), if_pos rfl]
  split <;> rename_i hfound <;> rw [hsize, hend] at hfound <;> cases hfound
  cases hread : Json.parseLiteral literal <;> simp only [hcut, hread]

theorem scanFrom_backquote {body rest tail raw : List Char} {offset stop : Nat}
    (hend : rawEnd? (offset + 1) rest = some (stop, tail))
    (hcut : cut body (offset + 1) stop = .ok raw) :
    scanFrom body offset ('\x60' :: rest) =
      ((scanFrom body (stop + 1) tail).prepend (.string (String.ofList raw))).pass
        ⟨offset, stop + 1⟩ := by
  have hsize : '\x60'.utf8Size = 1 := rfl
  rw [scanFrom, if_neg (by decide), if_neg (by decide), if_neg (by decide), if_pos rfl]
  split <;> rename_i hfound <;> rw [hsize, hend] at hfound <;> cases hfound
  rw [hcut]

theorem scanFrom_word {body rest word : List Char} {c : Char} {offset : Nat}
    (hword : Token.isWordChar c = true)
    (hcut : cut body offset (offset + size (c :: rest.takeWhile Token.isWordChar)) = .ok word) :
    scanFrom body offset (c :: rest) =
      (scanFrom body (offset + size (c :: rest.takeWhile Token.isWordChar))
        (rest.dropWhile Token.isWordChar)).prepend (.word (String.ofList word)) := by
  have hchar := hword
  simp only [Token.isWordChar, Bool.not_eq_true', Bool.or_eq_false_iff, beq_eq_false_iff_ne]
    at hchar
  rcases hchar with ⟨⟨⟨hblank, hpipe⟩, hquote⟩, hback⟩
  rw [size_cons, ← Nat.add_assoc] at hcut ⊢
  rw [scanFrom, if_neg (by simp [hblank]), if_neg hpipe, if_neg hquote, if_neg hback, wordEnd_eq]
  dsimp only
  rw [hcut]

theorem isQuote_of_isWordChar {c : Char} (h : Token.isWordChar c = true) :
    Span.isQuote c = false := by
  simp only [Token.isWordChar, Bool.not_eq_true', Bool.or_eq_false_iff] at h
  simp [Span.isQuote, h.1.2, h.2]

theorem isQuote_of_isBlank {c : Char} (h : Text.isBlank c = true) : Span.isQuote c = false := by
  rw [← Bool.not_eq_true]
  intro hquote
  rcases eq_of_isQuote hquote with rfl | rfl <;> cases h

/-- A word holds no literals. -/
theorem Quoted.of_word {offset : Nat} {c : Char} {rest : List Char} {ranges : List Range}
    (hword : Token.isWordChar c = true) (h : Quoted offset (c :: rest) ranges) :
    Quoted (offset + size (c :: rest.takeWhile Token.isWordChar))
      (rest.dropWhile Token.isWordChar) ranges := by
  have hparts : c :: rest =
      (c :: rest.takeWhile Token.isWordChar) ++ rest.dropWhile Token.isWordChar := by
    rw [List.cons_append, List.takeWhile_append_dropWhile]
  rw [hparts] at h
  apply h.of_append
  intro d hd
  apply isQuote_of_isWordChar
  rcases List.mem_cons.mp hd with rfl | hd
  · exact hword
  · exact List.mem_takeWhile_imp hd

section Tokens

variable {name : String} {body front rest literal tail : List Char} {ranges : List Range}

theorem reads_quote (hbody : body = front ++ '"' :: literal ++ tail)
    (hsplit : splitQuoted '"' rest = some (literal, tail))
    (htail : Reads (scanFrom body (size (front ++ '"' :: literal)) tail) (Token.scan name tail)
      ranges) :
    Reads (scanFrom body (size front) ('"' :: rest)) (Token.scan name ('"' :: rest))
      (⟨size front, size (front ++ '"' :: literal)⟩ :: ranges) := by
  have hsize : size (front ++ '"' :: literal) = size front + 1 + size literal := by
    rw [size_append, size_cons, Nat.add_assoc]
    rfl
  rw [splitQuoted_literal] at hsplit
  have hend := literalEnd?_eq (size front + 1) rest
  rw [hsplit, Option.map_some, ← hsize] at hend
  rcases Option.map_eq_some_iff.mp hend with ⟨⟨stop, behind⟩, hfound, heq⟩
  simp only [Prod.mk.injEq] at heq
  rcases heq with ⟨hstop, rfl⟩
  have hcut : cut body (size front) (stop + 1) = .ok ('"' :: literal) := by
    rw [hstop, hbody, cut_append]
  rw [scanFrom_quote hfound hcut, Token.scan_quote, hsplit, hstop]
  dsimp only
  cases Json.parseLiteral ('"' :: literal) with
  | error message => exact .badLiteral message ⟨ranges, rfl⟩
  | ok text => exact (htail.prepend _).pass _

theorem reads_backquote (hbody : body = front ++ '\x60' :: literal ++ tail)
    (hsplit : splitQuoted '\x60' rest = some (literal, tail))
    (htail : Reads (scanFrom body (size (front ++ '\x60' :: literal)) tail) (Token.scan name tail)
      ranges) :
    Reads (scanFrom body (size front) ('\x60' :: rest)) (Token.scan name ('\x60' :: rest))
      (⟨size front, size (front ++ '\x60' :: literal)⟩ :: ranges) := by
  rw [splitQuoted_raw] at hsplit
  rcases Option.map_eq_some_iff.mp hsplit with ⟨⟨raw, behind⟩, hraw, heq⟩
  simp only [Prod.mk.injEq] at heq
  rcases heq with ⟨rfl, rfl⟩
  have hopen : size (front ++ ['\x60']) = size front + 1 := size_append front ['\x60']
  have hinner : size (front ++ ['\x60'] ++ raw) = size front + 1 + size raw := by
    rw [size_append, hopen]
  have hsize : size (front ++ '\x60' :: (raw ++ ['\x60'])) = size front + 1 + size raw + 1 := by
    rw [← hinner]
    show _ = size (front ++ ['\x60'] ++ raw) + size ['\x60']
    rw [← size_append]
    simp
  have hfound : rawEnd? (size front + 1) rest = some (size front + 1 + size raw, behind) := by
    rw [rawEnd?_eq, hraw]
    rfl
  have hcut : cut body (size front + 1) (size front + 1 + size raw) = .ok raw := by
    have hparts : body = front ++ ['\x60'] ++ raw ++ '\x60' :: behind := by
      rw [hbody]
      simp
    rw [hparts, ← hinner, ← hopen, cut_append]
  rw [hsize] at htail ⊢
  rw [scanFrom_backquote hfound hcut, Token.scan_backquote, hraw]
  exact (htail.prepend _).pass _

theorem reads_word {c : Char} (hword : Token.isWordChar c = true)
    (hbody : body = front ++ c :: rest.takeWhile Token.isWordChar ++
      rest.dropWhile Token.isWordChar)
    (htail : Reads (scanFrom body (size (front ++ c :: rest.takeWhile Token.isWordChar))
      (rest.dropWhile Token.isWordChar)) (Token.scan name (rest.dropWhile Token.isWordChar))
      ranges) :
    Reads (scanFrom body (size front) (c :: rest)) (Token.scan name (c :: rest)) ranges := by
  have hcut := cut_append front (c :: rest.takeWhile Token.isWordChar)
    (rest.dropWhile Token.isWordChar)
  rw [← hbody, size_append] at hcut
  rw [size_append] at htail
  rw [scanFrom_word hword hcut, Token.scan_word hword]
  exact htail.prepend _

end Tokens

/-- Scanning a body by offsets gives the tokens that scanning its characters gives, and meets its
literals. -/
theorem reads_scanFrom (name : String) {body front text : List Char} {ranges : List Range}
    (hbody : body = front ++ text) (hquoted : Quoted (size front) text ranges) :
    Reads (scanFrom body (size front) text) (Token.scan name text) ranges := by
  -- A literal or a word is passed in one step, so the induction is on the length.  No literal is
  -- open at the places where a step ends.
  induction hlength : text.length using Nat.strong_induction_on generalizing front text ranges with
  | h length ih =>
      subst hlength
      cases text with
      | nil =>
          rw [hquoted.of_nil, scanFrom, Token.scan]
          exact .tokens [] []
      | cons c rest =>
          have hstep : size (front ++ [c]) = size front + c.utf8Size := by
            rw [size_append, size_cons, size_nil, Nat.add_zero]
          have hnext : body = front ++ [c] ++ rest := by
            rw [hbody]
            simp
          have hskip : Span.isQuote c = false ->
              Reads (scanFrom body (size front + c.utf8Size) rest) (Token.scan name rest)
                ranges := by
            intro hc
            rw [← hstep]
            apply ih rest.length (Nat.lt_succ_self _) hnext ?_ rfl
            rw [hstep]
            exact hquoted.of_plain hc
          by_cases hblank : Text.isBlank c = true
          · rw [scanFrom, if_pos hblank, Token.scan, if_pos hblank]
            exact hskip (isQuote_of_isBlank hblank)
          · by_cases hpipe : c = '|'
            · rw [scanFrom, if_neg hblank, if_pos hpipe, Token.scan, if_neg hblank, if_pos hpipe]
              exact (hskip (by rw [hpipe]; rfl)).prepend .pipe
            · by_cases hquote : Span.isQuote c = true
              · rcases hquoted.of_literal hquote with ⟨literal, tail, others, hsplit, hothers, rfl⟩
                have hwhole : body = front ++ c :: literal ++ tail := by
                  rw [hbody, eq_of_splitQuoted hsplit]
                  simp
                have hsize : size (front ++ c :: literal) = size front + 1 + size literal := by
                  rw [size_append, size_cons, Text.Utf8.utf8Size_of_lt (lt_of_isQuote hquote),
                    Nat.add_assoc]
                have hshorter := Nat.lt_succ_of_le (length_splitQuoted hsplit)
                rw [← hsize] at hothers ⊢
                have htail := ih tail.length hshorter hwhole hothers rfl
                rcases eq_of_isQuote hquote with rfl | rfl
                · exact reads_quote hwhole hsplit htail
                · exact reads_backquote hwhole hsplit htail
              · have hword : Token.isWordChar c = true := by
                  simp [Token.isWordChar, Span.isQuote, hblank, hpipe] at hquote ⊢
                  exact hquote
                have hwhole : body = front ++ c :: rest.takeWhile Token.isWordChar ++
                    rest.dropWhile Token.isWordChar := by
                  rw [hbody]
                  simp
                have hshorter : (rest.dropWhile Token.isWordChar).length < (c :: rest).length :=
                  Nat.lt_succ_of_le (List.dropWhile_sublist _).length_le
                have hlater := hquoted.of_word hword
                rw [← size_append] at hlater
                exact reads_word hword hwhole (ih _ hshorter hwhole hlater rfl)

/-!
# Bodies
-/

namespace Quoted

/-- A text in which no literal is open is scanned up to its end or up to a literal that is not one
of JSON. -/
theorem reads_scan {distance : Nat} {text : List Char} {ranges : List Range}
    (h : Quoted distance text ranges) :
    exists own, ranges = own.map (Range.shift distance) ∧
      forall name, Reads (scan text) (Token.scan name text) own := by
  rcases @exists_shift distance 0 text ranges h with ⟨own, hown, hranges⟩
  refine ⟨own, hranges, ?_⟩
  intro name
  exact @reads_scanFrom name text [] text own rfl hown

/-- The white space around a text holds no literals. -/
theorem trim {offset : Nat} {text : List Char} {ranges : List Range}
    (h : Quoted offset text ranges) :
    exists before after, text = before ++ Text.trim text ++ after ∧
      (forall c, c ∈ before ++ after -> Text.isBlank c = true) ∧
      Quoted (offset + size before) (Text.trim text) ranges := by
  rcases Text.exists_trim text with ⟨before, after, htext, hbefore, hafter⟩
  refine ⟨before, after, htext, ?_, ?_⟩
  · intro c hc
    exact (List.mem_append.mp hc).elim (hbefore c) (hafter c)
  · rw [htext] at h
    apply of_append fun c hc => isQuote_of_isBlank (hbefore c hc)
    exact of_append_right (fun c hc => isQuote_of_isBlank (hafter c hc)) h

end Quoted

/-- No literal is open at the end of the body of an action. -/
theorem exists_quoted {source text rest body : List Char} {span : Span}
    (h : Span.next? source = .ok (some (text, span, rest))) (hbody : span.body = some body) :
    exists offset ranges, Quoted offset body ranges := by
  rcases next?_of_some h [] with ⟨placed, _, hplaced⟩
  rw [← hplaced.found] at hbody
  exact ⟨_, _, (hplaced.body body hbody).quoted⟩

end Offsets

/-!
# Faults that no source has
-/

/-- The faults that would need an open literal in the body of an action, or a pipe sign inside a
stage. -/
def ParseFault.IsSpurious : ParseFault -> Prop
  | .unclosedString _ => True
  | .unclosedRawString _ => True
  | .unexpectedPipe => True
  | _ => False

theorem pipe_not_mem_of_stages {tokens stage : List Token} (h : stage ∈ stages tokens) :
    Token.pipe ∉ stage := by
  fun_induction stages tokens generalizing stage with
  | case1 =>
      cases List.mem_singleton.mp h
      exact List.not_mem_nil
  | case2 rest ih =>
      rcases List.mem_cons.mp h with rfl | h
      · exact List.not_mem_nil
      · exact ih h
  | case3 token rest hpipe hnil =>
      exact absurd hnil (stages_ne_nil rest)
  | case4 token rest hpipe first more hstages ih =>
      rw [hstages] at ih
      rcases List.mem_cons.mp h with rfl | h
      · intro hmem
        rcases List.mem_cons.mp hmem with heq | hmem
        · exact hpipe heq.symm
        · exact ih List.mem_cons_self hmem
      · exact ih (List.mem_cons_of_mem _ h)

section Faults

variable {fault : ParseFault}

theorem Operand.not_isSpurious_of_ofToken {token : Token} (hne : token ≠ .pipe)
    (h : Operand.ofToken token = .error fault) : ¬ fault.IsSpurious := by
  cases token with
  | pipe => exact absurd rfl hne
  | string text => cases h
  | word word =>
      rw [Operand.ofToken, Operand.ofWord] at h
      split_ifs at h
      split at h
      · simp only at h
        split_ifs at h
        cases h
        exact id
      · split at h
        · cases h
        · cases h
          exact id

theorem not_isSpurious_of_operands {tokens : List Token} (hpipe : Token.pipe ∉ tokens)
    (h : operands tokens = .error fault) : ¬ fault.IsSpurious := by
  induction tokens with
  | nil => cases h
  | cons token rest ih =>
      rw [List.mem_cons, not_or] at hpipe
      rw [operands] at h
      cases htoken : Operand.ofToken token with
      | error reason =>
          rw [htoken] at h
          cases h
          exact Operand.not_isSpurious_of_ofToken (Ne.symm hpipe.1) htoken
      | ok operand =>
          rw [htoken] at h
          exact ih hpipe.2 (map_eq_error_iff.mp h)

theorem Command.not_isSpurious_of_ofTokens {body : String} {tokens : List Token}
    (hpipe : Token.pipe ∉ tokens) (h : Command.ofTokens body tokens = .error fault) :
    ¬ fault.IsSpurious := by
  cases tokens with
  | nil =>
      cases h
      exact id
  | cons first rest =>
      rw [List.mem_cons, not_or] at hpipe
      rw [Command.ofTokens] at h
      split at h
      · split at h
        · cases h
          exact id
        · exact not_isSpurious_of_operands hpipe.2 (map_eq_error_iff.mp h)
      · split_ifs at h
        · exact Operand.not_isSpurious_of_ofToken (Ne.symm hpipe.1) (map_eq_error_iff.mp h)
        · cases h
          exact id

theorem not_isSpurious_of_commands {body : String} {rows : List (List Token)}
    (hpipe : forall row, row ∈ rows -> Token.pipe ∉ row)
    (h : commands body rows = .error fault) : ¬ fault.IsSpurious := by
  induction rows with
  | nil => cases h
  | cons row rest ih =>
      rw [commands] at h
      cases hrow : Command.ofTokens body row with
      | error reason =>
          rw [hrow] at h
          cases h
          exact Command.not_isSpurious_of_ofTokens (hpipe row List.mem_cons_self) hrow
      | ok command =>
          rw [hrow] at h
          exact ih (fun other hother => hpipe other (List.mem_cons_of_mem row hother))
            (map_eq_error_iff.mp h)

theorem not_isSpurious_of_pipeline {offset : Nat} {chars : List Char}
    {ranges : List Offsets.Range} (hquoted : Offsets.Quoted offset chars ranges)
    (h : pipeline chars = .error fault) : ¬ fault.IsSpurious := by
  unfold pipeline at h
  split_ifs at h
  · cases h
    exact id
  · simp only at h
    rcases hquoted.reads_scan with ⟨own, _, hreads⟩
    have hscan := hreads (String.ofList chars)
    generalize Offsets.scan chars = scanned at hscan
    split at h
    · rename_i reason hreason
      cases h
      rw [hreason] at hscan
      cases hscan
      exact id
    · split at h
      · rename_i reason hreason
        cases h
        exact not_isSpurious_of_commands (fun row hrow => pipe_not_mem_of_stages hrow) hreason
      · split_ifs at h
        cases h
        exact id

theorem Span.not_isSpurious_of_ofOpen {text : List Char} (h : Span.ofOpen text = .error fault) :
    ¬ fault.IsSpurious := by
  unfold Span.ofOpen at h
  simp only at h
  split at h
  · unfold Span.ofComment at h
    split at h
    · cases h
      exact id
    · split at h
      · cases h
      · split_ifs at h
        cases h
        exact id
      · cases h
        exact id
  · split at h
    · cases h
      exact id
    · cases h

theorem not_isSpurious_of_parseFrom {trimNext : Bool} {source : List Char}
    (h : parseFrom trimNext source = .error fault) : ¬ fault.IsSpurious := by
  fun_induction parseFrom trimNext source with
  | case1 trimNext source reason hnext =>
      cases h
      unfold Span.next? at hnext
      split at hnext
      · cases hnext
      · split at hnext
        · rename_i hopen
          cases hnext
          exact Span.not_isSpurious_of_ofOpen hopen
        · cases hnext
  | case2 => cases h
  | case3 trimNext source text span rest hnext reason hspan =>
      cases h
      unfold spanNode at hspan
      split at hspan
      · cases hspan
      · rename_i body hbody
        rcases Offsets.exists_quoted hnext hbody with ⟨offset, ranges, hquoted⟩
        rcases hquoted.trim with ⟨before, after, _, _, htrimmed⟩
        exact not_isSpurious_of_pipeline htrimmed (map_eq_error_iff.mp hspan)
  | case4 trimNext source text span rest hnext nodes hspan ih => exact ih (map_eq_error_iff.mp h)

end Faults

/-!
## Evaluation
-/

section Evaluation

variable {root : Json}

theorem printable_ne_emptyPipeline (value : Json) : printable value ≠ .error .emptyPipeline := by
  cases value <;> exact nofun

theorem lookup_ne_emptyPipeline (names : List String) (value : Json) :
    lookup names value ≠ .error .emptyPipeline := by
  induction names generalizing value with
  | nil => exact nofun
  | cons name names ih => cases value <;> first | exact ih _ | exact nofun

theorem Operand.eval_ne_emptyPipeline (operand : Operand) :
    operand.eval root ≠ .error .emptyPipeline := by
  cases operand with
  | root => exact nofun
  | field names => exact lookup_ne_emptyPipeline names root
  | literal value => exact nofun

theorem indexInto_ne_emptyPipeline (value : Json) (keys : List Json) :
    indexInto value keys ≠ .error .emptyPipeline := by
  fun_induction indexInto value keys <;> first | assumption | exact nofun

theorem format_ne_emptyPipeline (layout : List Char) (values : List Json) :
    format layout values ≠ .error .emptyPipeline := by
  intro h
  fun_induction format layout values with
  | case1 => cases h
  | case2 => cases h
  | case3 => cases h
  | case4 values rest ih => exact ih (map_eq_error_iff.mp h)
  | case5 => cases h
  | case6 rest values n _ _ ih => exact ih (map_eq_error_iff.mp h)
  | case7 => cases h
  | case8 verb rest _ _ values value reason hprint =>
      cases h
      exact printable_ne_emptyPipeline value hprint
  | case9 verb rest _ _ values value text _ _ _ ih => exact ih (map_eq_error_iff.mp h)
  | case10 => cases h
  | case11 c rest values _ ih => exact ih (map_eq_error_iff.mp h)

theorem onText_ne_emptyPipeline {function : Function} {arguments : List Json}
    {f : String -> Except EvalFault String} (hf : forall text, f text ≠ .error .emptyPipeline) :
    onText function arguments f ≠ .error .emptyPipeline := by
  intro h
  unfold onText at h
  split at h
  · split at h
    · rename_i reason hreason
      cases h
      exact printable_ne_emptyPipeline _ hreason
    · exact hf _ (map_eq_error_iff.mp h)
  · cases h

theorem decodeBase64_ne_emptyPipeline (spelling : String) :
    decodeBase64 spelling ≠ .error .emptyPipeline := by
  unfold decodeBase64
  split
  · exact nofun
  · split <;> exact nofun

theorem Function.apply_ne_emptyPipeline (function : Function) (arguments : List Json) :
    function.apply arguments ≠ .error .emptyPipeline := by
  cases function with
  | index =>
      cases arguments with
      | nil => exact nofun
      | cons collection keys => exact indexInto_ne_emptyPipeline collection keys
  | default =>
      intro h
      simp only [Function.apply] at h
      split at h <;> cases h
  | b64enc => exact onText_ne_emptyPipeline fun _ => nofun
  | b64dec => exact onText_ne_emptyPipeline decodeBase64_ne_emptyPipeline
  | upper => exact onText_ne_emptyPipeline fun _ => nofun
  | lower => exact onText_ne_emptyPipeline fun _ => nofun
  | trim => exact onText_ne_emptyPipeline fun _ => nofun
  | quote => exact onText_ne_emptyPipeline fun _ => nofun
  | toJson =>
      intro h
      simp only [Function.apply] at h
      split at h <;> cases h
  | printf =>
      intro h
      cases arguments with
      | nil => cases h
      | cons layout values =>
          rw [Function.apply] at h
          split at h
          · rename_i reason hreason
            cases h
            exact printable_ne_emptyPipeline layout hreason
          · exact format_ne_emptyPipeline _ values (map_eq_error_iff.mp h)

theorem evalOperands_ne_emptyPipeline (operands : List Operand) :
    evalOperands root operands ≠ .error .emptyPipeline := by
  intro h
  induction operands with
  | nil => cases h
  | cons operand rest ih =>
      rw [evalOperands] at h
      split at h
      · rename_i reason hreason
        cases h
        exact Operand.eval_ne_emptyPipeline operand hreason
      · exact ih (map_eq_error_iff.mp h)

theorem Command.eval_ne_emptyPipeline (command : Command) (piped : List Json) :
    command.eval root piped ≠ .error .emptyPipeline := by
  cases command with
  | operand argument => exact Operand.eval_ne_emptyPipeline argument
  | call function arguments =>
      intro h
      rw [Command.eval] at h
      split at h
      · rename_i reason hreason
        cases h
        exact evalOperands_ne_emptyPipeline arguments hreason
      · exact Function.apply_ne_emptyPipeline function _ h

/-- Only a pipeline without commands stops for the reason that it has none. -/
theorem eq_nil_of_pipelineStops {piped : List Json} {commands : List Command} {index : Nat}
    {function : Option Function}
    (h : PipelineStops root piped commands index function .emptyPipeline) :
    piped = [] ∧ commands = [] := by
  generalize hfault : EvalFault.emptyPipeline = fault at h
  induction h with
  | empty => exact ⟨rfl, rfl⟩
  | here heval =>
      rw [← hfault] at heval
      exact absurd heval (Command.eval_ne_emptyPipeline _ _)
  | next _ _ ih => exact absurd (ih hfault).1 (List.cons_ne_nil _ _)

theorem nil_mem_of_stops {template : Template} {index : Nat} {spot : Spot}
    (h : Stops root template index spot .emptyPipeline) : Node.action [] ∈ template := by
  generalize hfault : EvalFault.emptyPipeline = fault at h
  induction h with
  | stage hstops =>
      rw [← hfault] at hstops
      rw [(eq_nil_of_pipelineStops hstops).2]
      exact List.mem_cons_self
  | printing _ hprint =>
      rw [← hfault] at hprint
      exact absurd hprint (printable_ne_emptyPipeline _)
  | next _ _ ih => exact List.mem_cons_of_mem _ (ih hfault)

end Evaluation

/-!
# The scanners agree
-/

namespace Offsets

/-- A text of an action that stands at an offset of a source is scanned without coming to an open
literal.  The literals met on the way are, at their places in the source, the first ones of those
that the search for the end of the action has passed over, and all of them when the tokens are
found. -/
structure SameLiterals (source : List Char) (placed : Placed) (text : List Char) (offset : Nat) :
    Prop where
  place : cut source offset (offset + size text) = .ok text
  tokens : (scan text).tokens = (Token.scan (String.ofList text) text).mapError .fault
  fault : forall stop, (scan text).tokens = .error stop ->
    exists message, stop = .fault (.badLiteral message)
  seen : (scan text).quoted.map (Range.shift offset) <+: placed.quoted
  all : forall tokens, (scan text).tokens = .ok tokens ->
    (scan text).quoted.map (Range.shift offset) = placed.quoted

theorem sameLiterals_of_next? {source body : List Char} {offset : Nat} {placed : Placed}
    (h : next? source offset = .ok (some placed)) (hbody : placed.span.body = some body) :
    exists before after, body = before ++ Text.trim body ++ after ∧
      (forall c, c ∈ before ++ after -> Text.isBlank c = true) ∧
      SameLiterals source placed (Text.trim body) (placed.bodyStart + size before) := by
  rcases exists_of_next? h with ⟨_, _, _, _, _, _, _, hplaced⟩
  have hat := hplaced.body body hbody
  rcases hat.quoted.trim with ⟨before, after, hparts, hblank, htrimmed⟩
  rcases htrimmed.reads_scan with ⟨own, hown, hreads⟩
  have hscan := hreads (String.ofList (Text.trim body))
  refine ⟨before, after, hparts, hblank, ?_⟩
  constructor
  · rcases cut_eq_ok hat.cut with ⟨front, back, hsource, hstart, _⟩
    have hwhole : source = front ++ before ++ Text.trim body ++ (after ++ back) := by
      rw [hsource]
      conv_lhs => rw [hparts]
      simp
    rw [hwhole, hstart, ← size_append, ← size_append, cut_append]
  · exact hscan.tokens_eq
  · intro stop hstop
    exact hscan.exists_badLiteral hstop
  · rw [hown]
    exact hscan.seen.map _
  · intro tokens htokens
    rw [hown, hscan.quoted_eq htokens]

end Offsets

/-- The two scanners see the same literals in every action of every source.  Therefore no source is
read with the fault of an open literal or of a pipe sign among operands, and what is read is never
evaluated with the fault of an empty pipeline. -/
theorem literals_agree (source : String) :
    (forall offset placed body, Offsets.next? source.toList offset = .ok (some placed) ->
      placed.span.body = some body ->
        exists before after, body = before ++ Text.trim body ++ after ∧
          (forall c, c ∈ before ++ after -> Text.isBlank c = true) ∧
          Offsets.SameLiterals source.toList placed (Text.trim body)
            (placed.bodyStart + Offsets.size before)) ∧
    (forall body, parse source ≠ .error (.unclosedString body)) ∧
    (forall body, parse source ≠ .error (.unclosedRawString body)) ∧
    parse source ≠ .error .unexpectedPipe ∧
    forall template root, parse source = .ok template ->
      execute root template ≠ .error .emptyPipeline := by
  refine ⟨?_, ?_, ?_, ?_, ?_⟩
  · intro offset placed body h hbody
    exact Offsets.sameLiterals_of_next? h hbody
  · intro body h
    exact not_isSpurious_of_parseFrom h trivial
  · intro body h
    exact not_isSpurious_of_parseFrom h trivial
  · intro h
    exact not_isSpurious_of_parseFrom h trivial
  · intro template root h hstop
    rcases execute_eq_error.mp hstop with ⟨index, spot, hstops⟩
    have hpipeline := wellFormedPipeline_of_parseFrom h (nil_mem_of_stops hstops)
    exact hpipeline.nonempty rfl

/-- An action with braces in its literals, behind a backslash and behind characters of more than one
byte. -/
def braced : String := "é\x7b\x7b- printf \"é\\\"\x7d\x7d%s\" \x60\\\x7d\x7dé\x60 -\x7d\x7d"

def bracedBody : List Char := " printf \"é\\\"\x7d\x7d%s\" \x60\\\x7d\x7dé\x60 ".toList

def bracedTemplate : Template :=
  [.text "é", .action [.call .printf
    [.literal (.string "é\"\x7d\x7d%s"), .literal (.string "\\\x7d\x7dé")]]]

theorem braced_literals_agree :
    (exists before after, bracedBody = before ++ Text.trim bracedBody ++ after ∧
      (forall c, c ∈ before ++ after -> Text.isBlank c = true) ∧
      Offsets.SameLiterals braced.toList
        ⟨2, 35, ⟨true, true, some bracedBody⟩, [⟨13, 23⟩, ⟨24, 31⟩]⟩ (Text.trim bracedBody)
        (5 + Offsets.size before)) ∧
    execute .null bracedTemplate ≠ .error .emptyPipeline :=
  ⟨(literals_agree braced).1 0 ⟨2, 35, ⟨true, true, some bracedBody⟩, [⟨13, 23⟩, ⟨24, 31⟩]⟩
      bracedBody (by decide +kernel) rfl,
    (literals_agree braced).2.2.2.2 bracedTemplate .null (by decide +kernel)⟩

/-! A backslash in front of a character of two bytes is no spelling of JSON.  The literal is passed
over all the same, and only then is it refused. -/

example : parse "\x7b\x7b \"\\é\x7d\x7d\" \x7d\x7d" =
    .error (.badLiteral "invalid escape at line 1 column 3") := by
  decide +kernel

end Template

end SecretProjection
