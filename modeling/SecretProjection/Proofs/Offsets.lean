import SecretProjection.Proofs.Continuation
import SecretProjection.Proofs.Quotes

/-!
# Offsets and texts

An offset that is the size of a part in front of a source is the place where the rest of the source
starts.  At such offsets a cut gives the rest, and searching, looking at single bytes and skipping
white space come out as they do in the characters of the rest.

So both readers find the same action or comment behind such an offset, or stop with the same fault,
and the end of what they find is such an offset again.
-/

namespace SecretProjection

namespace Template

namespace Offsets

open Text.Utf8 (byte)

/-!
# Cuts
-/

theorem split?_append (front back : List Char) :
    split? (size front) (front ++ back) = some (front, back) := by
  induction front with
  | nil => rw [size_nil, List.nil_append, split?]
  | cons c front ih =>
      have hpos := c.utf8Size_pos
      cases hsize : size (c :: front) with
      | zero =>
          rw [size_cons] at hsize
          omega
      | succ offset =>
          rw [size_cons] at hsize
          have hrest : offset + 1 - c.utf8Size = size front := by omega
          rw [List.cons_append, split?, if_pos (by omega), hrest, ih]
          rfl

theorem cutFrom_append (front back : List Char) :
    cutFrom (front ++ back) (size front) = .ok back := by
  rw [cutFrom, split?_append]

theorem cut_append (front middle back : List Char) :
    cut (front ++ middle ++ back) (size front) (size (front ++ middle)) = .ok middle := by
  have hsize := size_append front middle
  have hmiddle : size (front ++ middle) - size front = size middle := by omega
  rw [cut, List.append_assoc, cutFrom_append]
  dsimp only
  rw [if_neg (by omega), hmiddle, split?_append]

theorem cut_eq_ok {text middle : List Char} {start stop : Nat}
    (h : cut text start stop = .ok middle) :
    exists front back, text = front ++ middle ++ back ∧ start = size front ∧
      stop = size (front ++ middle) := by
  unfold cut at h
  split at h
  · cases h
  · rename_i rest hrest
    rcases cutFrom_eq_ok hrest with ⟨front, rfl, rfl⟩
    split_ifs at h with horder
    split at h
    · cases h
    · rename_i back hsplit
      cases h
      rcases split?_eq_some hsplit with ⟨rfl, hsize⟩
      refine ⟨front, back, (List.append_assoc _ _ _).symm, rfl, ?_⟩
      rw [size_append]
      omega

/-- The offsets at which texts are cut are those between two characters of the source. -/
theorem isValid_size (front back : List Char) :
    String.Pos.Raw.IsValid (String.ofList (front ++ back)) ⟨size front⟩ := by
  apply String.Pos.Raw.isValid_iff_exists_append.mpr
  refine ⟨String.ofList front, String.ofList back, String.ofList_append, ?_⟩
  apply String.Pos.Raw.ext
  show size front = (String.ofList front).utf8ByteSize
  induction front with
  | nil => rfl
  | cons c front ih => simp [size_cons, ih, String.ofList_cons]

theorem isBlank_of_mem {c : Char} {b : UInt8} (h : b ∈ String.utf8EncodeChar c) :
    isBlank b = Text.isAsciiBlank c := by
  show (b == byte ' ' || b == byte '\t' || b == byte '\n' || b == byte '\x0c' || b == byte '\r') =
    (c == ' ' || c == '\t' || c == '\n' || c == '\x0c' || c == '\r')
  rw [beq_byte (by decide) h, beq_byte (by decide) h, beq_byte (by decide) h,
    beq_byte (by decide) h, beq_byte (by decide) h]

/-- The search for two characters in a row. -/
theorem find?_eq {split : List Char -> Option (List Char × List Char)} {a b : Char}
    (hseeks : Span.Seeks split a b) (text : List Char) :
    find? [a, b] text = (split text).map fun found => size found.1 := by
  induction text with
  | nil =>
      rw [hseeks.nil]
      rfl
  | cons c text ih =>
      rw [find?]
      by_cases hprefix : [a, b] <+: c :: text
      · rw [if_pos (List.isPrefixOf_iff_prefix.mpr hprefix)]
        rcases hprefix with ⟨rest, heq⟩
        cases heq
        show some 0 = (split (a :: b :: rest)).map fun found => size found.1
        rw [hseeks.found]
        rfl
      · rw [if_neg fun h => hprefix (List.isPrefixOf_iff_prefix.mp h), hseeks.cons c text hprefix,
          ih]
        cases split text <;> simp [Span.keep]

/-!
# Trim markers

A marker is told by two bytes, one of a minus sign and one of a blank.  Both readings of a text,
from its first byte on and from its last one back, give the bytes of its characters one character
after another.
-/

theorem leftMarker_bytes {f : Char -> Bytes}
    (hf : forall c, exists b others, f c = b :: others ∧ b ∈ String.utf8EncodeChar c)
    (hminus : f '-' = [45]) (text : List Char) :
    ((text.flatMap f)[0]? == some 45 && (text.flatMap f)[1]?.any isBlank) =
      (Span.leftMarker text).1 := by
  cases text with
  | nil => rfl
  | cons c text =>
      by_cases hc : c = '-'
      · rw [hc, List.flatMap_cons, hminus]
        cases text with
        | nil => rfl
        | cons d text =>
            rcases hf d with ⟨b, others, hd, hmem⟩
            rw [List.flatMap_cons, hd]
            have hblank := isBlank_of_mem hmem
            cases hascii : Text.isAsciiBlank d <;>
              simp [Span.leftMarker, hascii, hblank]
      · rcases hf c with ⟨b, others, hbytes, hmem⟩
        have hb : (b == 45) = (c == '-') := beq_byte (d := '-') (by decide) hmem
        have hno : b ≠ 45 := by
          intro heq
          rw [heq] at hb
          exact hc (beq_iff_eq.mp hb.symm)
        rw [List.flatMap_cons, hbytes]
        simp [Span.leftMarker, hno, hc]

/-- The marker behind an opening delimiter. -/
theorem leftMarker_at (front back : List Char) :
    ((bytes (front ++ back))[size front]? == some 45 &&
      (bytes (front ++ back))[size front + 1]?.any isBlank) = (Span.leftMarker back).1 := by
  have hat : forall offset,
      (bytes (front ++ back))[size front + offset]? = (bytes back)[offset]? := by
    intro offset
    have hlength : (bytes front).length = size front := rfl
    rw [bytes_append, List.getElem?_append_right (by omega), hlength, Nat.add_sub_cancel_left]
  have hfirst := hat 0
  rw [Nat.add_zero] at hfirst
  rw [hfirst, hat 1, bytes, leftMarker_bytes]
  · intro c
    cases hbytes : String.utf8EncodeChar c with
    | nil => simp at hbytes
    | cons b others => exact ⟨b, others, rfl, List.mem_cons_self⟩
  · rfl

/-- The marker before a closing delimiter. -/
theorem rightMarker_at (front body back : List Char) :
    (decide (size front + 2 ≤ size (front ++ body)) &&
      (bytes (front ++ body ++ back))[size (front ++ body) - 1]? == some 45 &&
      (bytes (front ++ body ++ back))[size (front ++ body) - 2]?.any isBlank) =
        (Span.rightMarker body).1 := by
  have hreverse : ((bytes body).reverse[0]? == some 45 && (bytes body).reverse[1]?.any isBlank) =
      (Span.rightMarker body).1 := by
    rw [Span.rightMarker_eq, bytes, List.reverse_flatMap, leftMarker_bytes]
    · intro c
      cases hbytes : (String.utf8EncodeChar c).reverse with
      | nil => simp at hbytes
      | cons b others =>
          refine ⟨b, others, hbytes, ?_⟩
          apply List.mem_reverse.mp
          rw [hbytes]
          exact List.mem_cons_self
    · rfl
  have hlength : (bytes body).length = size body := rfl
  by_cases hlong : 2 ≤ size body
  · have hat : forall offset, offset < size body ->
        (bytes (front ++ body ++ back))[size (front ++ body) - 1 - offset]? =
          (bytes body).reverse[offset]? := by
      intro offset hoffset
      have hfront : (bytes front).length = size front := rfl
      rw [List.getElem?_reverse (by omega), bytes_append, bytes_append, size_append,
        List.getElem?_append_left (by rw [List.length_append]; omega),
        List.getElem?_append_right (by omega)]
      congr 1
      omega
    rw [← hreverse, ← hat 0 (by omega), ← hat 1 (by omega), size_append,
      decide_eq_true (by omega)]
    simp only [Bool.true_and, Nat.sub_zero, Nat.sub_sub]
  · have hshort : (bytes body).reverse[1]? = none := by
      rw [List.getElem?_eq_none]
      rw [List.length_reverse]
      omega
    rw [← hreverse, hshort, size_append, decide_eq_false (by omega)]
    simp

theorem eq_of_leftMarker (text : List Char) :
    text = (if (Span.leftMarker text).1 then ['-'] else []) ++ (Span.leftMarker text).2 := by
  unfold Span.leftMarker
  split
  · split <;> rfl
  · rfl

theorem eq_of_rightMarker (body : List Char) :
    body = (Span.rightMarker body).2 ++ (if (Span.rightMarker body).1 then ['-'] else []) := by
  have hreverse := congrArg List.reverse (eq_of_leftMarker body.reverse)
  rw [List.reverse_reverse, List.reverse_append] at hreverse
  rw [Span.rightMarker_eq]
  split at hreverse
  · rename_i hmarker
    rw [if_pos hmarker]
    exact hreverse
  · rename_i hmarker
    rw [if_neg hmarker]
    exact hreverse

/-- The body in front of a closing delimiter ends where its marker starts. -/
theorem size_rightMarker (front body : List Char) :
    (if (Span.rightMarker body).1 then size (front ++ body) - 1 else size (front ++ body)) =
      size (front ++ (Span.rightMarker body).2) := by
  have hbody := congrArg (fun text => size (front ++ text)) (eq_of_rightMarker body)
  split at hbody
  · rename_i hmarker
    rw [if_pos hmarker, hbody, ← List.append_assoc, size_append _ ['-']]
    rfl
  · rename_i hmarker
    rw [if_neg hmarker, hbody, List.append_nil]

theorem cut_rightMarker (front body back : List Char) :
    cut (front ++ body ++ back) (size front) (size (front ++ (Span.rightMarker body).2)) =
      .ok (Span.rightMarker body).2 := by
  have hparts := eq_of_rightMarker body
  generalize Span.rightMarker body = found at hparts ⊢
  rw [hparts, ← List.append_assoc, List.append_assoc (front ++ found.2), cut_append]

/-!
# Actions and comments
-/

/-- A body stands at an offset of a source, and its string literals have these ranges. -/
structure BodyAt (source : List Char) (offset : Nat) (body : List Char) (quoted : List Range) :
    Prop where
  cut : cut source offset (offset + size body) = .ok body
  quoted : Quoted offset body quoted

/-- A span that starts at an offset of a source and is followed by a rest is placed there. -/
structure PlacedAt (source : List Char) (start : Nat) (span : Span) (rest : List Char)
    (placed : Placed) : Prop where
  start : placed.start = start
  stop : placed.stop + size rest = size source
  found : placed.span = span
  body : forall body, placed.span.body = some body ->
    BodyAt source placed.bodyStart body placed.quoted

/-- Two readers of one source find the same span in front of the same rest, or stop with the same
fault. -/
inductive Agree (source : List Char) (start : Nat) :
    Except ParseFault (Span × List Char) -> Except Stop Placed -> Prop where
  | fault (fault : ParseFault) : Agree source start (.error fault) (.error (.fault fault))
  | found {span : Span} {rest : List Char} {placed : Placed}
      (hplaced : PlacedAt source start span rest placed) :
      Agree source start (.ok (span, rest)) (.ok placed)

theorem cutFrom_blank {c : Char} (hblank : Text.isAsciiBlank c = true) (rest : List Char) :
    cutFrom (c :: rest) 1 = .ok rest := by
  have hsize : size [c] = 1 := by
    simp only [Text.isAsciiBlank, Bool.or_eq_true, beq_iff_eq] at hblank
    rcases hblank with (((rfl | rfl) | rfl) | rfl) | rfl <;> rfl
  rw [← hsize]
  exact cutFrom_append [c] rest

theorem commentEnd_braces (rest : List Char) :
    commentEnd ('\x7d' :: '\x7d' :: rest) = .ok (false, 2) := rfl

theorem commentEnd_marker {c : Char} (hblank : Text.isAsciiBlank c = true) (rest : List Char) :
    commentEnd (c :: '-' :: '\x7d' :: '\x7d' :: rest) = .ok (true, 4) := by
  have hbraces : ¬ ['\x7d', '\x7d'].isPrefixOf (c :: '-' :: '\x7d' :: '\x7d' :: rest) := by
    simp [List.isPrefixOf]
  unfold commentEnd
  rw [if_neg hbraces, List.head?_cons, Option.any_some, if_pos hblank, cutFrom_blank hblank]
  rfl

theorem commentEnd_fault {rest : List Char}
    (hbraces : forall tail, rest ≠ '\x7d' :: '\x7d' :: tail)
    (hmarker : forall c tail, Text.isAsciiBlank c = true ->
      rest ≠ c :: '-' :: '\x7d' :: '\x7d' :: tail) :
    commentEnd rest = .error (.fault .commentEnd) := by
  have hno : ¬ ['\x7d', '\x7d'].isPrefixOf rest := by
    intro hprefix
    rcases List.isPrefixOf_iff_prefix.mp hprefix with ⟨tail, heq⟩
    exact hbraces tail heq.symm
  unfold commentEnd
  rw [if_neg hno]
  cases rest with
  | nil => rfl
  | cons c tail =>
      rw [List.head?_cons, Option.any_some]
      by_cases hblank : Text.isAsciiBlank c = true
      · have hend : ¬ ['-', '\x7d', '\x7d'].isPrefixOf tail := by
          intro hprefix
          rcases List.isPrefixOf_iff_prefix.mp hprefix with ⟨more, heq⟩
          exact hmarker c more hblank (by rw [← heq]; rfl)
        rw [if_pos hblank, cutFrom_blank hblank]
        simp only [bind, Except.bind, throw, throwThe, MonadExceptOf.throw]
        rw [if_neg hend]
      · rw [if_neg hblank]
        rfl

theorem agree_comment (front text : List Char) (start : Nat) (trimLeft : Bool) :
    Agree (front ++ text) start (Span.ofComment trimLeft text)
      (placeComment (front ++ text) start (size front) trimLeft) := by
  unfold placeComment Span.ofComment
  rw [cutFrom_append]
  simp only [bind, Except.bind, throw, throwThe, MonadExceptOf.throw, pure, Except.pure]
  rw [find?_eq Span.seeks_splitCommentEnd]
  cases hsplit : Span.splitCommentEnd text with
  | none => exact .fault _
  | some found =>
      rcases found with ⟨note, rest⟩
      have hwhole : front ++ text = front ++ note ++ ['*', '/'] ++ rest := by
        rw [Span.seeks_splitCommentEnd.eq_append hsplit]
        simp
      have hoffset : size (front ++ note ++ ['*', '/']) = size front + size note + 2 := by
        rw [size_append, size_append]
        rfl
      have hcut : cutFrom (front ++ text) (size front + size note + 2) = .ok rest := by
        rw [hwhole, ← hoffset, cutFrom_append]
      have hsize : size (front ++ text) = size front + size note + 2 + size rest := by
        rw [hwhole, size_append, hoffset]
      simp only [Option.map_some, hcut]
      split
      · rename_i tail
        have hlength : size ('\x7d' :: '\x7d' :: tail) = 2 + size tail :=
          size_append ['\x7d', '\x7d'] tail
        rw [commentEnd_braces]
        refine .found ⟨rfl, ?_, rfl, fun body hbody => nomatch hbody⟩
        dsimp only
        omega
      · rename_i c tail
        by_cases hblank : Text.isAsciiBlank c = true
        · have hshorter := size_cutFrom (cutFrom_blank hblank ('-' :: '\x7d' :: '\x7d' :: tail))
          have hlength : size ('-' :: '\x7d' :: '\x7d' :: tail) = 3 + size tail :=
            size_append ['-', '\x7d', '\x7d'] tail
          rw [if_pos hblank, commentEnd_marker hblank]
          refine .found ⟨rfl, ?_, rfl, fun body hbody => nomatch hbody⟩
          dsimp only
          omega
        · rw [if_neg hblank, commentEnd_fault]
          · exact .fault _
          · exact fun tail heq => nomatch heq
          · intro d more hd heq
            cases heq
            exact hblank hd
      · rename_i hbraces hmarker
        rw [commentEnd_fault hbraces fun c tail _ => hmarker c tail]
        exact .fault _

theorem append_of_splitClose {text body rest : List Char} (front : List Char)
    (h : Span.splitClose none text = some (body, rest)) :
    front ++ text = front ++ body ++ '\x7d' :: '\x7d' :: rest := by
  rw [Span.eq_of_splitClose h, List.append_assoc]

/-- The body of an action ends at the closing delimiter, or at the trim marker before it. -/
theorem placedAt_action {front text body rest : List Char} {start : Nat} {trimLeft : Bool}
    {quoted : List Range} (hstart : size front = if trimLeft then start + 3 else start + 2)
    (hsplit : Span.splitClose none text = some (body, rest))
    (hquoted : Quoted (size front) body quoted) :
    PlacedAt (front ++ text) start
      ⟨trimLeft, (Span.rightMarker body).1, some (Span.rightMarker body).2⟩ rest
      ⟨start, size (front ++ body) + 2,
        ⟨trimLeft, (Span.rightMarker body).1, some (Span.rightMarker body).2⟩, quoted⟩ := by
  rw [append_of_splitClose front hsplit]
  refine ⟨rfl, ?_, rfl, ?_⟩
  · have hbraces : size ('\x7d' :: '\x7d' :: rest) = 2 + size rest :=
      size_append ['\x7d', '\x7d'] rest
    rw [size_append (front ++ body), hbraces, Nat.add_assoc]
  · intro inner hinner
    cases hinner
    show BodyAt _ (if trimLeft then start + 3 else start + 2) _ quoted
    rw [← hstart]
    constructor
    · rw [← size_append, cut_rightMarker]
    · rw [eq_of_rightMarker body] at hquoted
      apply hquoted.of_append_right
      intro c hc
      split at hc
      · cases List.mem_singleton.mp hc
        rfl
      · cases hc

/-- The readers of an action or comment, each behind the opening delimiter and its marker. -/
theorem agree_body {front behind : List Char} {start : Nat}
    (hstart : size front = if (Span.leftMarker behind).1 then start + 3 else start + 2) :
    Agree (front ++ (Span.leftMarker behind).2) start (Span.ofOpen behind)
      (placeBody (front ++ (Span.leftMarker behind).2) start (size front)
        (Span.leftMarker behind).1) := by
  unfold Span.ofOpen placeBody
  generalize Span.leftMarker behind = marker at hstart ⊢
  rcases marker with ⟨trimLeft, text⟩
  dsimp only at hstart ⊢
  simp only [bind, Except.bind, throw, throwThe, MonadExceptOf.throw, pure, Except.pure]
  rcases Text.exists_trimStart text with ⟨blanks, htext, _⟩
  have hleading : size text - size (Text.trimStart text) = size blanks := by
    have hsize := congrArg size htext
    rw [size_append] at hsize
    omega
  have hfront : front ++ text = front ++ blanks ++ Text.trimStart text := by
    rw [List.append_assoc, ← htext]
  have hcut : cutFrom (front ++ text) (size front + size blanks) = .ok (Text.trimStart text) := by
    rw [hfront, ← size_append, cutFrom_append]
  rw [cutFrom_append]
  simp only [hleading, hcut]
  split
  · rename_i comment hcomment
    have hprefix : ['/', '*'].isPrefixOf ('/' :: '*' :: comment) = true := rfl
    rw [hcomment, if_pos hprefix]
    have hwhole : front ++ text = front ++ blanks ++ ['/', '*'] ++ comment := by
      rw [hfront, hcomment]
      simp
    have hoffset : size front + size blanks + 2 = size (front ++ blanks ++ ['/', '*']) := by
      rw [size_append, size_append]
      rfl
    rw [hwhole, hoffset]
    exact agree_comment _ comment start trimLeft
  · rename_i hcomment
    rw [if_neg fun hprefix => ?_]
    · -- From here on one reader goes through bytes and the other one through characters.
      have hdrop : (bytes (front ++ text)).drop (size front) = bytes text := by
        rw [bytes_append]
        exact List.drop_left
      rw [hdrop]
      rcases close?_eq_splitClose (size front) text with
        ⟨hnone, hclose⟩ | ⟨body, rest, quoted, hsome, hquoted, hclose⟩
      · rw [hnone, hclose]
        exact .fault _
      · have hplaced := placedAt_action hstart hsome hquoted
        have hwhole := append_of_splitClose front hsome
        rw [hsome, hclose]
        dsimp only
        rw [hwhole] at hplaced ⊢
        rw [← size_append, rightMarker_at, size_rightMarker, cut_rightMarker]
        exact .found hplaced
    · rcases List.isPrefixOf_iff_prefix.mp hprefix with ⟨comment, heq⟩
      exact hcomment comment heq.symm

/-!
# Sources
-/

/-- Without an opening delimiter in the rest of a source there is nothing to be found there. -/
theorem next?_of_none {back : List Char} (h : Span.splitOpen back = none) (front : List Char) :
    next? (front ++ back) (size front) = .ok none := by
  unfold next?
  rw [cutFrom_append]
  simp only [bind, Except.bind, pure, Except.pure]
  rw [find?_eq Span.seeks_splitOpen, h]
  rfl

/-- Both readers look for the next action or comment at the first opening delimiter. -/
theorem agree_next? {back text behind : List Char}
    (h : Span.splitOpen back = some (text, behind)) (front : List Char) :
    exists found, Agree (front ++ back) (size (front ++ text)) (Span.ofOpen behind) found ∧
      next? (front ++ back) (size front) = found.map some := by
  have hwhole : front ++ back = front ++ text ++ ['\x7b', '\x7b'] ++ behind := by
    rw [Span.seeks_splitOpen.eq_append h]
    simp
  have hopen : size (front ++ text ++ ['\x7b', '\x7b']) = size (front ++ text) + 2 :=
    size_append _ _
  have hmarker := leftMarker_at (front ++ text ++ ['\x7b', '\x7b']) behind
  rw [← hwhole, hopen] at hmarker
  have hbody : size (front ++ text ++ ['\x7b', '\x7b'] ++
      if (Span.leftMarker behind).1 then ['-'] else []) =
        if (Span.leftMarker behind).1 then size (front ++ text) + 3
        else size (front ++ text) + 2 := by
    rw [size_append, hopen]
    split <;> rfl
  have hsource : front ++ back = (front ++ text ++ ['\x7b', '\x7b'] ++
      if (Span.leftMarker behind).1 then ['-'] else []) ++ (Span.leftMarker behind).2 := by
    rw [List.append_assoc (front ++ text ++ _), ← eq_of_leftMarker, hwhole]
  refine ⟨placeBody (front ++ back) (size (front ++ text))
    (if (Span.leftMarker behind).1 then size (front ++ text) + 3 else size (front ++ text) + 2)
    (Span.leftMarker behind).1, ?_, ?_⟩
  · have hagree := agree_body hbody
    rw [← hsource, hbody] at hagree
    exact hagree
  · unfold next?
    rw [cutFrom_append]
    simp only [bind, Except.bind, pure, Except.pure]
    rw [find?_eq Span.seeks_splitOpen, h]
    simp only [Option.map_some, ← size_append]
    rw [hmarker]
    split <;> rename_i hfound <;> rw [hfound] <;> rfl

section Next

variable {back : List Char}

theorem next?_of_error {fault : ParseFault} (h : Span.next? back = .error fault)
    (front : List Char) : next? (front ++ back) (size front) = .error (.fault fault) := by
  unfold Span.next? at h
  split at h
  · cases h
  · rename_i text behind hsplit
    rcases agree_next? hsplit front with ⟨found, hagree, hnext⟩
    rw [hnext]
    split at h
    · rename_i hopen
      cases h
      rw [hopen] at hagree
      cases hagree
      rfl
    · cases h

theorem next?_of_some {text rest : List Char} {span : Span}
    (h : Span.next? back = .ok (some (text, span, rest))) (front : List Char) :
    exists placed, next? (front ++ back) (size front) = .ok (some placed) ∧
      PlacedAt (front ++ back) (size (front ++ text)) span rest placed := by
  rcases Span.next?_eq_some.mp h with ⟨behind, hsplit, hopen⟩
  rcases agree_next? hsplit front with ⟨found, hagree, hnext⟩
  rw [hopen] at hagree
  cases hagree with
  | found hplaced => exact ⟨_, hnext, hplaced⟩

/-- Whatever is found from an offset on is found in the rest of the source that starts there. -/
theorem exists_of_next? {source : List Char} {offset : Nat} {placed : Placed}
    (h : next? source offset = .ok (some placed)) :
    exists front back text rest, source = front ++ back ∧ offset = size front ∧
      Span.next? back = .ok (some (text, placed.span, rest)) ∧
      PlacedAt source (size (front ++ text)) placed.span rest placed := by
  cases hcut : cutFrom source offset with
  | error stop =>
      unfold next? at h
      rw [hcut] at h
      cases h
  | ok back =>
      rcases cutFrom_eq_ok hcut with ⟨front, rfl, rfl⟩
      cases hback : Span.next? back with
      | error fault =>
          rw [next?_of_error hback] at h
          cases h
      | ok found =>
          cases found with
          | none =>
              rw [next?_of_none (Span.next?_eq_none.mp hback)] at h
              cases h
          | some found =>
              rcases found with ⟨text, span, rest⟩
              rcases next?_of_some hback front with ⟨other, hother, hplaced⟩
              rw [h] at hother
              cases hother
              have hspan := hplaced.found
              rw [← hspan] at hplaced hback
              exact ⟨front, back, text, rest, rfl, rfl, hback, hplaced⟩

end Next

end Offsets

end Template

end SecretProjection
