import SecretProjection.Proofs.Continuation

/-!
# Trim markers

A trim marker drops all the white space beside it, so that it makes no difference how much stands
there.  This holds of every kind of white space, though the marker itself has to be set off by an
ASCII character, and it holds before and behind comments as well as actions.  On the left the text
is cut when the marker is met; on the right the marker is kept in mind until the next text.
-/

namespace SecretProjection

namespace Template

/-!
# White space before a marker
-/

theorem textNode_append_blank {blanks : List Char}
    (h : forall c, c ∈ blanks -> Text.isBlank c = true) (trimNext : Bool) (text : List Char) :
    textNode trimNext true (text ++ blanks) = textNode trimNext true text := by
  cases trimNext with
  | false => simp [textNode, Text.trimEnd_append_of_blank h]
  | true => simp [textNode, Text.trimEnd_trimStart_append_of_blank h]

theorem textNode_blank_append {blanks : List Char}
    (h : forall c, c ∈ blanks -> Text.isBlank c = true) (trimRight : Bool) (text : List Char) :
    textNode true trimRight (blanks ++ text) = textNode true trimRight text := by
  simp [textNode, Text.trimStart_append_of_blank h]

/-- No delimiter starts in white space. -/
theorem splitOpen_blank {blanks : List Char}
    (h : forall c, c ∈ blanks -> Text.isBlank c = true) : Span.splitOpen blanks = none := by
  apply Span.splitOpen_eq_none
  rintro ⟨front, back, heq⟩
  have hbrace : '\x7b' ∈ blanks := by
    rw [← heq]
    simp
  exact absurd (h _ hbrace) (by decide)

theorem getLast?_ne_brace_of_blank {blanks : List Char}
    (h : forall c, c ∈ blanks -> Text.isBlank c = true) : blanks.getLast? ≠ some '\x7b' := by
  intro hlast
  exact absurd (h _ (List.mem_of_getLast? hlast)) (by decide)

/-- Behind the opening delimiter and a marker stands a span that trims to its left. -/
theorem trimLeft_of_marker {rest behind : List Char} {span : Span}
    (h : Span.ofOpen ('-' :: ' ' :: rest) = .ok (span, behind)) : span.trimLeft = true := by
  have hmarker : Span.leftMarker ('-' :: ' ' :: rest) = (true, ' ' :: rest) := rfl
  rcases Span.ofOpen_eq_ok.mp h with ⟨comment, _, hspan⟩ | ⟨_, body, _, rfl⟩
  · rw [hmarker] at hspan
    rcases Span.ofComment_eq_ok.mp hspan with ⟨_, ⟨_, rfl⟩ | ⟨_, _, _, rfl⟩⟩
    · rfl
    · rfl
  · rw [hmarker]

/-- White space at the end of a text makes no difference before a trim marker. -/
theorem parseFrom_blank_marker {text blanks : List Char} (trimNext : Bool)
    (htext : Span.splitOpen text = none) (hlast : text.getLast? ≠ some '\x7b')
    (h : forall c, c ∈ blanks -> Text.isBlank c = true) (rest : List Char) :
    parseFrom trimNext (text ++ blanks ++ '\x7b' :: '\x7b' :: '-' :: ' ' :: rest) =
      parseFrom trimNext (text ++ '\x7b' :: '\x7b' :: '-' :: ' ' :: rest) := by
  have hlonger : Span.splitOpen (text ++ blanks) = none := by
    rw [Span.splitOpen_append_of_none htext fun hboth => hlast hboth.1, splitOpen_blank h]
    rfl
  have hlongerLast : (text ++ blanks).getLast? ≠ some '\x7b' := by
    rw [List.getLast?_append]
    cases hblanks : blanks.getLast? with
    | none => exact hlast
    | some c =>
        intro hbrace
        exact getLast?_ne_brace_of_blank h (hblanks.trans hbrace)
  rw [parseFrom_eq, parseFrom_eq trimNext (text ++ _),
    Span.next?_append_of_none hlonger fun hboth => hlongerLast hboth.1,
    Span.next?_append_of_none htext fun hboth => hlast hboth.1]
  have hopen : Span.splitOpen ('\x7b' :: '\x7b' :: '-' :: ' ' :: rest) =
      some ([], '-' :: ' ' :: rest) := rfl
  cases hspan : Span.ofOpen ('-' :: ' ' :: rest) with
  | error fault =>
      have hnext : Span.next? ('\x7b' :: '\x7b' :: '-' :: ' ' :: rest) = .error fault := by
        simp only [Span.next?, hopen, hspan]
      rw [hnext]
      rfl
  | ok found =>
      rcases found with ⟨span, behind⟩
      rw [Span.next?_eq_some.mpr ⟨_, hopen, hspan⟩]
      simp only [Except.map, Option.map_some, List.append_nil, trimLeft_of_marker hspan,
        textNode_append_blank h]

/-!
# White space behind a marker
-/

/-- White space at the start makes no difference behind a trim marker. -/
theorem parseFrom_marker_blank {blanks : List Char}
    (h : forall c, c ∈ blanks -> Text.isBlank c = true) (rest : List Char) :
    parseFrom true (blanks ++ rest) = parseFrom true rest := by
  rw [parseFrom_eq, parseFrom_eq true rest, Span.next?_append_of_none (splitOpen_blank h)
    fun hboth => getLast?_ne_brace_of_blank h hboth.1]
  cases Span.next? rest with
  | error fault => rfl
  | ok found =>
      cases found with
      | none => simp only [Except.map, Option.map_none, textNode_blank_append h]
      | some found => simp only [Except.map, Option.map_some, textNode_blank_append h]

/-! ## Markers at the end of a source -/

/-- A trim marker and the closing delimiter behind it. -/
def closingMarker : List Char := [' ', '-', '\x7d', '\x7d']

theorem suffix_of_brace_cons {source behind : List Char} (hsource : closingMarker <:+ source)
    (h : '\x7b' :: behind <:+ source) : closingMarker <:+ behind := by
  rcases List.suffix_or_suffix_of_suffix hsource h with hmarker | hbrace
  · rcases List.suffix_cons_iff.mp hmarker with heq | hbehind
    · cases heq
    · exact hbehind
  · exact absurd (hbrace.subset List.mem_cons_self) (by decide)

theorem closingMarker_suffix_leftMarker {text : List Char} (h : closingMarker <:+ text) :
    closingMarker <:+ (Span.leftMarker text).2 := by
  unfold Span.leftMarker
  split
  · split
    · rcases List.suffix_cons_iff.mp h with heq | hrest
      · cases heq
      · exact hrest
    · exact h
  · exact h

/-- An action or comment that ends with a marker and the closing delimiter trims to its right. -/
theorem trimRight_of_closingMarker {text : List Char} {span : Span}
    (hend : closingMarker <:+ text) (h : Span.ofOpen text = .ok (span, [])) :
    span.trimRight = true := by
  have hmarker := closingMarker_suffix_leftMarker hend
  rcases Span.ofOpen_eq_ok.mp h with ⟨comment, hcomment, hspan⟩ | ⟨_, body, hsplit, rfl⟩
  · rcases Span.ofComment_eq_ok.mp hspan with ⟨before, ⟨hsplit, _⟩ | ⟨_, _, _, rfl⟩⟩
    · -- The slash that ends such a comment stands where the marker has its minus sign.
      have hslash : ['*', '/', '\x7d', '\x7d'] <:+ (Span.leftMarker text).2 := by
        refine List.IsSuffix.trans ?_ (List.dropWhile_suffix Text.isBlank)
        rw [show List.dropWhile Text.isBlank (Span.leftMarker text).2 = '/' :: '*' :: comment
          from hcomment, Span.seeks_splitCommentEnd.eq_append hsplit]
        exact ⟨'/' :: '*' :: before, by simp⟩
      exact absurd (List.IsSuffix.eq_of_length_le
        (List.suffix_of_suffix_length_le hslash hmarker (by decide)) (by decide)) (by decide)
    · rfl
  · rcases hmarker with ⟨front, heq⟩
    have hbody : body = front ++ [' ', '-'] := by
      have hboth : body ++ ['\x7d', '\x7d'] = front ++ [' ', '-'] ++ ['\x7d', '\x7d'] := by
        rw [← Span.eq_of_splitClose hsplit, ← heq]
        simp [closingMarker]
      exact List.append_cancel_right hboth
    rw [hbody]
    simp [Span.rightMarker, Text.isAsciiBlank]

theorem brace_mem_of_tail_cut {source : List Char} (hne : source ≠ [])
    (h : (cut source).tail = []) : '\x7b' ∈ source := by
  rw [cut] at h
  split at h
  · rename_i text span rest hnext
    rcases Span.next?_eq_some.mp hnext with ⟨behind, hsplit, _⟩
    rw [Span.seeks_splitOpen.eq_append hsplit]
    simp
  · exact absurd h hne

/-- Where the last action or comment of a source ends with the source and a marker, what is
written behind the source is trimmed. -/
theorem trimsTail_of_closingMarker {source : List Char} (hend : closingMarker <:+ source)
    (h : (cut source).tail = []) (before : Bool) : (cut source).trimsTail before = true := by
  fun_induction cut source generalizing before with
  | case1 source text span rest hnext ih =>
      rw [Cut.trimsTail_cons]
      by_cases hrest : rest = []
      · subst hrest
        rcases Span.next?_eq_some.mp hnext with ⟨behind, hsplit, hopen⟩
        have hbehind : '\x7b' :: behind <:+ source := by
          rw [Span.seeks_splitOpen.eq_append hsplit]
          exact ⟨text ++ ['\x7b'], by simp⟩
        rw [cut_of_none rfl]
        exact trimRight_of_closingMarker (suffix_of_brace_cons hend hbehind) hopen
      · apply ih
        · rcases List.suffix_or_suffix_of_suffix hend (Span.suffix_of_next? hnext) with
            hmarker | hshort
          · exact hmarker
          · exact absurd (hshort.subset (brace_mem_of_tail_cut hrest h)) (by decide)
        · exact h
  | case2 source hnone =>
      change source = [] at h
      subst h
      exact absurd hend (by decide)

/-!
# Absorption
-/

/-- White space next to a trim marker makes no difference.  On the left of a marker it may stand
behind any source that can be read and does not end with a brace; on the right, behind any source
whose last action or comment ends with the marker at the end of the source. -/
theorem trim_markers_absorb_blanks :
    (forall source blanks rest : String,
      (exists template, parse source = .ok template) ->
      source.toList.getLast? ≠ some '\x7b' ->
      (forall c, c ∈ blanks.toList -> Text.isBlank c = true) ->
      parse (source ++ blanks ++ "\x7b\x7b- " ++ rest) = parse (source ++ "\x7b\x7b- " ++ rest)) ∧
    (forall source blanks rest : String,
      (exists template, parse (source ++ " -\x7d\x7d") = .ok template) ->
      (cut (source ++ " -\x7d\x7d").toList).tail = [] ->
      (forall c, c ∈ blanks.toList -> Text.isBlank c = true) ->
      parse (source ++ " -\x7d\x7d" ++ blanks ++ rest) =
        parse (source ++ " -\x7d\x7d" ++ rest)) := by
  constructor
  · rintro source blanks rest ⟨template, htemplate⟩ hlast hblank
    rcases parseFrom_append htemplate with ⟨htail, nodes, _, hmore⟩
    have htailLast : (cut source.toList).tail.getLast? ≠ some '\x7b' :=
      fun hbrace => hlast (getLast?_tail_cut hbrace)
    have hmarker : "\x7b\x7b- ".toList = ['\x7b', '\x7b', '-', ' '] := rfl
    simp only [parse, String.toList_append, List.append_assoc, hmarker]
    rw [hmore, hmore, ← List.append_assoc]
    exact congrArg _ (parseFrom_blank_marker _ htail htailLast hblank rest.toList)
  · rintro source blanks rest ⟨template, htemplate⟩ htail hblank
    rcases parseFrom_append htemplate with ⟨_, nodes, _, hmore⟩
    have hend : closingMarker <:+ (source ++ " -\x7d\x7d").toList := by
      rw [String.toList_append]
      exact List.suffix_append _ _
    rw [trimsTail_of_closingMarker hend htail, htail] at hmore
    have hbehind : forall more : String, parse (source ++ " -\x7d\x7d" ++ more) =
        (parseFrom true more.toList).map (nodes ++ ·) := by
      intro more
      rw [parse, String.toList_append, hmore]
      rfl
    rw [String.append_assoc, hbehind, hbehind, String.toList_append,
      parseFrom_marker_blank hblank]

/-- An em space, a vertical tab, a line feed and a no-break space. -/
def wideBlanks : String := "\u2003\x0b\n\u00a0"

theorem wideBlanks_absorbed :
    parse ("a \x7b\x7b .x \x7d\x7d b" ++ wideBlanks ++ "\x7b\x7b- " ++ ".y \x7d\x7d\n") =
        .ok [.text "a ", .action [.operand (.field ["x"])], .text " b",
          .action [.operand (.field ["y"])], .text "\n"] ∧
      parse ("\x7b\x7b/* \x7d\x7d */" ++ " -\x7d\x7d" ++ wideBlanks ++ "c") =
        .ok [.text "c"] ∧
      parse ("\x7b\x7b/* \x7d\x7d */" ++ " -\x7d\x7d" ++ wideBlanks ++ "c \x7b\x7b .x") =
        .error .unclosedAction := by
  have hblank : forall c, c ∈ wideBlanks.toList -> Text.isBlank c = true :=
    List.all_eq_true.mp (by decide +kernel)
  have haction : parse "a \x7b\x7b .x \x7d\x7d b" =
      .ok [.text "a ", .action [.operand (.field ["x"])], .text " b"] := by
    decide +kernel
  have hcomment : parse ("\x7b\x7b/* \x7d\x7d */" ++ " -\x7d\x7d") = .ok [] := by
    decide +kernel
  have hend : (cut ("\x7b\x7b/* \x7d\x7d */" ++ " -\x7d\x7d").toList).tail = [] := by
    decide +kernel
  refine ⟨?_, ?_, ?_⟩
  · rw [trim_markers_absorb_blanks.1 _ _ _ ⟨_, haction⟩ (by decide +kernel) hblank]
    decide +kernel
  · rw [trim_markers_absorb_blanks.2 _ _ _ ⟨_, hcomment⟩ hend hblank]
    decide +kernel
  · rw [trim_markers_absorb_blanks.2 _ _ _ ⟨_, hcomment⟩ hend hblank]
    decide +kernel

end Template

end SecretProjection
