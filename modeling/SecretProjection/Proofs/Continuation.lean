import SecretProjection.Proofs.Blanks
import SecretProjection.Proofs.CanonicalSource
import SecretProjection.Proofs.Results

/-!
# Reading on behind a source

A reader that finds a delimiter in a source finds it at the same place when the source goes on.
Therefore the actions and comments of a source stay what they are whatever is written behind it,
and only the text behind the last of them grows.  `cut` names the two parts, and
`parseFrom_append` says that reading a longer source comes down to reading on from that text.
-/

namespace SecretProjection

namespace Template

namespace Span

/-! ## Delimiters -/

/-- What a search finds does not depend on how the source goes on behind it. -/
def Settled (split : List Char -> Option (List Char × List Char)) : Prop :=
  forall {source text rest : List Char}, split source = some (text, rest) ->
    forall more, split (source ++ more) = some (text, rest ++ more)

/-- A search for the first place where two characters stand in a row. -/
structure Seeks (split : List Char -> Option (List Char × List Char)) (a b : Char) : Prop where
  nil : split [] = none
  found : forall rest, split (a :: b :: rest) = some ([], rest)
  cons : forall c rest, ¬ [a, b] <+: c :: rest -> split (c :: rest) = keep c (split rest)

namespace Seeks

variable {split : List Char -> Option (List Char × List Char)} {a b : Char}

theorem eq_append (hseeks : Seeks split a b) {source text rest : List Char}
    (h : split source = some (text, rest)) : source = text ++ a :: b :: rest := by
  induction source generalizing text rest with
  | nil =>
      rw [hseeks.nil] at h
      cases h
  | cons c tail ih =>
      by_cases hprefix : [a, b] <+: c :: tail
      · rcases hprefix with ⟨behind, heq⟩
        rw [← heq] at h ⊢
        simp only [List.cons_append, List.nil_append, hseeks.found] at h ⊢
        cases h
        rfl
      · rw [hseeks.cons c tail hprefix] at h
        rcases keep_eq_some_iff.mp h with ⟨before, hsplit, rfl⟩
        rw [ih hsplit, List.cons_append]

/-- The two characters do not stand in a row in front of the first place where they do. -/
theorem not_infix (hseeks : Seeks split a b) {source text rest : List Char}
    (h : split source = some (text, rest)) : ¬ [a, b] <:+: text := by
  induction source generalizing text rest with
  | nil =>
      rw [hseeks.nil] at h
      cases h
  | cons c tail ih =>
      by_cases hstart : [a, b] <+: c :: tail
      · rcases hstart with ⟨behind, heq⟩
        rw [← heq] at h
        simp only [List.cons_append, List.nil_append, hseeks.found] at h
        cases h
        simp
      · rw [hseeks.cons c tail hstart] at h
        rcases keep_eq_some_iff.mp h with ⟨before, hsplit, rfl⟩
        rw [List.infix_cons_iff, not_or]
        refine ⟨fun hbefore => hstart ?_, ih hsplit⟩
        rw [hseeks.eq_append hsplit, ← List.cons_append]
        exact hbefore.trans (List.prefix_append _ _)

theorem not_infix_of_none (hseeks : Seeks split a b) {source : List Char}
    (h : split source = none) : ¬ [a, b] <:+: source := by
  induction source with
  | nil => simp
  | cons c tail ih =>
      by_cases hstart : [a, b] <+: c :: tail
      · rcases hstart with ⟨behind, heq⟩
        rw [← heq] at h
        simp only [List.cons_append, List.nil_append, hseeks.found] at h
        cases h
      · rw [hseeks.cons c tail hstart] at h
        rw [List.infix_cons_iff, not_or]
        exact ⟨hstart, ih (Option.map_eq_none_iff.mp h)⟩

theorem settled (hseeks : Seeks split a b) : Settled split := by
  intro source text rest h more
  induction source generalizing text rest with
  | nil =>
      rw [hseeks.nil] at h
      cases h
  | cons c tail ih =>
      by_cases hprefix : [a, b] <+: c :: tail
      · rcases hprefix with ⟨behind, heq⟩
        rw [← heq] at h ⊢
        simp only [List.cons_append, List.nil_append, hseeks.found] at h ⊢
        cases h
        rfl
      · rw [hseeks.cons c tail hprefix] at h
        rcases keep_eq_some_iff.mp h with ⟨before, hsplit, rfl⟩
        have hmore : ¬ [a, b] <+: c :: (tail ++ more) := by
          intro hlonger
          cases tail with
          | nil =>
              rw [hseeks.nil] at hsplit
              cases hsplit
          | cons d tail =>
              simp only [List.cons_append, List.cons_prefix_cons] at hlonger hprefix
              exact hprefix ⟨hlonger.1, hlonger.2.1, List.nil_prefix⟩
        rw [List.cons_append, hseeks.cons c _ hmore, ih hsplit]
        rfl

end Seeks

theorem seeks_splitOpen : Seeks splitOpen '\x7b' '\x7b' :=
  ⟨rfl, fun _ => rfl, fun _ _ h => splitOpen_cons h⟩

theorem seeks_splitCommentEnd : Seeks splitCommentEnd '*' '/' where
  nil := rfl
  found _ := rfl
  cons c rest h := by
    rw [splitCommentEnd]
    rintro tail rfl rfl
    exact h ⟨tail, rfl⟩

theorem settled_splitClose (quote : Option Char) : Settled (splitClose quote) := by
  intro source text rest h more
  fun_induction splitClose quote source generalizing text rest with
  | case1 => cases h
  | case2 c tail hquote ih =>
      rcases keep_eq_some_iff.mp h with ⟨before, hsplit, rfl⟩
      rw [List.cons_append, splitClose_quote hquote, ih hsplit]
      rfl
  | case3 tail hquote =>
      cases h
      rfl
  | case4 c tail hclose hquote ih =>
      rcases keep_eq_some_iff.mp h with ⟨before, hsplit, rfl⟩
      have hmore : ¬ ['\x7d', '\x7d'] <+: c :: (tail ++ more) := by
        intro hprefix
        cases tail with
        | nil => cases hsplit
        | cons d tail =>
            rcases hprefix with ⟨behind, heq⟩
            cases heq
            exact hclose tail rfl rfl
      rw [List.cons_append, splitClose_plain (Bool.eq_false_iff.mpr hquote) hmore, ih hsplit]
      rfl
  | case5 => cases h
  | case6 c q hescape d tail ih =>
      rcases hescape with ⟨rfl, rfl⟩
      rcases keep_eq_some_iff.mp h with ⟨escaped, hescaped, rfl⟩
      rcases keep_eq_some_iff.mp hescaped with ⟨before, hsplit, rfl⟩
      rw [List.cons_append, List.cons_append, splitClose_escape, ih hsplit]
      rfl
  | case7 c tail q hescape ih =>
      rcases keep_eq_some_iff.mp h with ⟨before, hsplit, rfl⟩
      rw [List.cons_append, splitClose_inside hescape, ih hsplit]
      rfl

theorem eq_of_splitClose {quote : Option Char} {source body rest : List Char}
    (h : splitClose quote source = some (body, rest)) :
    source = body ++ '\x7d' :: '\x7d' :: rest := by
  fun_induction splitClose quote source generalizing body rest with
  | case1 => cases h
  | case2 c tail hquote ih =>
      rcases keep_eq_some_iff.mp h with ⟨before, hsplit, rfl⟩
      rw [ih hsplit, List.cons_append]
  | case3 tail hquote =>
      cases h
      rfl
  | case4 c tail hclose hquote ih =>
      rcases keep_eq_some_iff.mp h with ⟨before, hsplit, rfl⟩
      rw [ih hsplit, List.cons_append]
  | case5 => cases h
  | case6 c q hescape d tail ih =>
      rcases keep_eq_some_iff.mp h with ⟨escaped, hescaped, rfl⟩
      rcases keep_eq_some_iff.mp hescaped with ⟨before, hsplit, rfl⟩
      rw [ih hsplit, List.cons_append, List.cons_append]
  | case7 c tail q hescape ih =>
      rcases keep_eq_some_iff.mp h with ⟨before, hsplit, rfl⟩
      rw [ih hsplit, List.cons_append]

/-! ## Spans -/

theorem leftMarker_append {text : List Char} (h : 2 ≤ text.length) (more : List Char) :
    leftMarker (text ++ more) = ((leftMarker text).1, (leftMarker text).2 ++ more) := by
  match text, h with
  | a :: b :: rest, _ =>
      by_cases ha : a = '-'
      · subst ha
        by_cases hb : Text.isAsciiBlank b = true
        · simp [leftMarker, hb]
        · simp [leftMarker, hb]
      · simp [leftMarker, ha]

theorem rightMarker_eq (body : List Char) :
    rightMarker body = ((leftMarker body.reverse).1, (leftMarker body.reverse).2.reverse) := by
  unfold rightMarker leftMarker
  split
  · rename_i c _ _
    by_cases hblank : Text.isAsciiBlank c = true <;> simp [hblank]
  · rw [List.reverse_reverse]

/-- The minus sign of a marker has a blank at its other side, so that a character that is neither
keeps what stands behind it from being a marker. -/
theorem leftMarker_append_cons {c : Char} (hblank : Text.isAsciiBlank c = false)
    (hminus : c ≠ '-') (text more : List Char) :
    leftMarker (text ++ c :: more) = ((leftMarker text).1, (leftMarker text).2 ++ c :: more) := by
  match text with
  | [] => simp [leftMarker, hminus]
  | [a] =>
      by_cases ha : a = '-'
      · subst ha
        simp [leftMarker, hblank]
      · simp [leftMarker, ha]
  | a :: b :: rest => exact leftMarker_append (by simp) _

theorem rightMarker_append_cons {c : Char} (hblank : Text.isAsciiBlank c = false)
    (hminus : c ≠ '-') (front text : List Char) :
    rightMarker (front ++ c :: text) =
      ((rightMarker text).1, front ++ c :: (rightMarker text).2) := by
  rw [rightMarker_eq, rightMarker_eq, List.reverse_append, List.reverse_cons, List.append_assoc,
    List.singleton_append, leftMarker_append_cons hblank hminus]
  simp

theorem ofComment_eq_ok {trimLeft : Bool} {text rest : List Char} {span : Span} :
    ofComment trimLeft text = .ok (span, rest) <->
      exists before,
        (splitCommentEnd text = some (before, '\x7d' :: '\x7d' :: rest) ∧
          span = ⟨trimLeft, false, none⟩) ∨
        exists c, Text.isAsciiBlank c = true ∧
          splitCommentEnd text = some (before, c :: '-' :: '\x7d' :: '\x7d' :: rest) ∧
          span = ⟨trimLeft, true, none⟩ := by
  unfold ofComment
  constructor
  · intro h
    split at h
    · cases h
    · rename_i before behind hsplit
      refine ⟨before, ?_⟩
      split at h
      · cases h
        exact .inl ⟨hsplit, rfl⟩
      · rename_i c tail
        by_cases hblank : Text.isAsciiBlank c = true
        · rw [if_pos hblank] at h
          cases h
          exact .inr ⟨c, hblank, hsplit, rfl⟩
        · rw [if_neg hblank] at h
          cases h
      · cases h
  · intro h
    rcases h with ⟨before, ⟨hsplit, rfl⟩ | ⟨c, hblank, hsplit, rfl⟩⟩
    · simp only [hsplit]
    · simp only [hsplit, hblank, if_true]

theorem ofComment_append {trimLeft : Bool} {text rest : List Char} {span : Span}
    (h : ofComment trimLeft text = .ok (span, rest)) (more : List Char) :
    ofComment trimLeft (text ++ more) = .ok (span, rest ++ more) := by
  rcases ofComment_eq_ok.mp h with ⟨before, ⟨hsplit, hspan⟩ | ⟨c, hblank, hsplit, hspan⟩⟩
  · exact ofComment_eq_ok.mpr ⟨before, .inl ⟨seeks_splitCommentEnd.settled hsplit more, hspan⟩⟩
  · exact ofComment_eq_ok.mpr
      ⟨before, .inr ⟨c, hblank, seeks_splitCommentEnd.settled hsplit more, hspan⟩⟩

theorem ofOpen_eq_ok {text rest : List Char} {span : Span} :
    ofOpen text = .ok (span, rest) <->
      (exists comment, Text.trimStart (leftMarker text).2 = '/' :: '*' :: comment ∧
        ofComment (leftMarker text).1 comment = .ok (span, rest)) ∨
      (¬ ['/', '*'] <+: Text.trimStart (leftMarker text).2 ∧
        exists body, splitClose none (leftMarker text).2 = some (body, rest) ∧
          span = ⟨(leftMarker text).1, (rightMarker body).1, some (rightMarker body).2⟩) := by
  unfold ofOpen
  simp only
  split
  · rename_i comment hcomment
    rw [hcomment]
    constructor
    · intro h
      exact .inl ⟨comment, rfl, h⟩
    · rintro (⟨other, hother, h⟩ | ⟨hno, _⟩)
      · cases hother
        exact h
      · exact absurd ⟨comment, rfl⟩ hno
  · rename_i hcomment
    have hno : ¬ ['/', '*'] <+: Text.trimStart (leftMarker text).2 := by
      rintro ⟨comment, heq⟩
      exact hcomment comment heq.symm
    constructor
    · intro h
      split at h
      · cases h
      · rename_i body behind hsplit
        cases h
        exact .inr ⟨hno, body, hsplit, rfl⟩
    · rintro (⟨comment, heq, _⟩ | ⟨_, body, hsplit, rfl⟩)
      · exact absurd heq (hcomment comment)
      · simp only [hsplit]

/-- What follows an action or comment is the end of the text that it starts. -/
theorem suffix_of_ofOpen {text rest : List Char} {span : Span}
    (h : ofOpen text = .ok (span, rest)) : rest <:+ text := by
  have hmarker : (leftMarker text).2 <:+ text := by
    unfold leftMarker
    split
    · split
      · exact List.suffix_cons _ _
      · exact List.suffix_rfl
    · exact List.suffix_rfl
  rcases ofOpen_eq_ok.mp h with ⟨comment, hcomment, hspan⟩ | ⟨_, body, hsplit, _⟩
  · have hstart : comment <:+ (leftMarker text).2 := by
      have htrim := List.dropWhile_suffix (l := (leftMarker text).2) Text.isBlank
      rw [show List.dropWhile Text.isBlank (leftMarker text).2 = '/' :: '*' :: comment
        from hcomment] at htrim
      exact List.IsSuffix.trans ⟨['/', '*'], rfl⟩ htrim
    refine List.IsSuffix.trans ?_ (hstart.trans hmarker)
    rcases ofComment_eq_ok.mp hspan with ⟨before, ⟨hsplit, _⟩ | ⟨c, _, hsplit, _⟩⟩
    · rw [seeks_splitCommentEnd.eq_append hsplit]
      exact ⟨before ++ ['*', '/', '\x7d', '\x7d'], by simp⟩
    · rw [seeks_splitCommentEnd.eq_append hsplit]
      exact ⟨before ++ ['*', '/', c, '-', '\x7d', '\x7d'], by simp⟩
  · refine List.IsSuffix.trans ?_ hmarker
    rw [eq_of_splitClose hsplit]
    exact ⟨body ++ ['\x7d', '\x7d'], by simp⟩

/-- What starts in front of a closing delimiter starts there with at least two characters. -/
theorem exists_trimStart_of_splitClose {quote : Option Char} {text body rest : List Char}
    (h : splitClose quote text = some (body, rest)) :
    exists c d tail, Text.trimStart text = c :: d :: tail := by
  rw [eq_of_splitClose h, Text.trimStart_append_cons (by decide)]
  match Text.trimStart body with
  | [] => exact ⟨_, _, _, rfl⟩
  | [c] => exact ⟨_, _, _, rfl⟩
  | c :: d :: tail => exact ⟨_, _, _, rfl⟩

theorem two_le_length_of_trimStart {text tail : List Char} {c d : Char}
    (h : Text.trimStart (leftMarker text).2 = c :: d :: tail) : 2 ≤ text.length := by
  have hmarker := length_leftMarker_le text
  have htrim := Text.length_trimStart_le (leftMarker text).2
  rw [h, List.length_cons, List.length_cons] at htrim
  omega

theorem ofOpen_append {text rest : List Char} {span : Span}
    (h : ofOpen text = .ok (span, rest)) (more : List Char) :
    ofOpen (text ++ more) = .ok (span, rest ++ more) := by
  rcases ofOpen_eq_ok.mp h with ⟨comment, hcomment, hspan⟩ | ⟨hno, body, hsplit, hspan⟩
  · have hmarker := leftMarker_append (two_le_length_of_trimStart hcomment) more
    apply ofOpen_eq_ok.mpr
    rw [hmarker]
    refine .inl ⟨comment ++ more, ?_, ofComment_append hspan more⟩
    exact Text.trimStart_append_of_cons hcomment more
  · rcases exists_trimStart_of_splitClose hsplit with ⟨c, d, tail, hstart⟩
    have hmarker := leftMarker_append (two_le_length_of_trimStart hstart) more
    apply ofOpen_eq_ok.mpr
    rw [hmarker]
    refine .inr ⟨?_, body, settled_splitClose none hsplit more, hspan⟩
    rw [Text.trimStart_append_of_cons hstart]
    rw [hstart] at hno
    simpa using hno

/-! ## Sources -/

theorem next?_eq_some {source text rest : List Char} {span : Span} :
    next? source = .ok (some (text, span, rest)) <->
      exists behind, splitOpen source = some (text, behind) ∧ ofOpen behind = .ok (span, rest) := by
  unfold next?
  constructor
  · intro h
    split at h
    · cases h
    · rename_i before behind hsplit
      split at h
      · cases h
      · rename_i found left hopen
        cases h
        exact ⟨behind, hsplit, hopen⟩
  · rintro ⟨behind, hsplit, hopen⟩
    simp only [hsplit, hopen]

theorem next?_eq_none {source : List Char} :
    next? source = .ok none <-> splitOpen source = none := by
  unfold next?
  constructor
  · intro h
    split at h
    · assumption
    · split at h
      · cases h
      · cases h
  · intro h
    simp only [h]

theorem next?_append {source text rest : List Char} {span : Span}
    (h : next? source = .ok (some (text, span, rest))) (more : List Char) :
    next? (source ++ more) = .ok (some (text, span, rest ++ more)) := by
  rcases next?_eq_some.mp h with ⟨behind, hsplit, hopen⟩
  exact next?_eq_some.mpr
    ⟨behind ++ more, seeks_splitOpen.settled hsplit more, ofOpen_append hopen more⟩

theorem suffix_of_next? {source text rest : List Char} {span : Span}
    (h : next? source = .ok (some (text, span, rest))) : rest <:+ source := by
  rcases next?_eq_some.mp h with ⟨behind, hsplit, hopen⟩
  refine (suffix_of_ofOpen hopen).trans ?_
  rw [seeks_splitOpen.eq_append hsplit]
  exact ⟨text ++ ['\x7b', '\x7b'], by simp⟩

theorem next?_append_of_none {text more : List Char} (h : splitOpen text = none)
    (hbraces : ¬ (text.getLast? = some '\x7b' ∧ more.head? = some '\x7b')) :
    next? (text ++ more) =
      (next? more).map (Option.map fun found => (text ++ found.1, found.2)) := by
  unfold next?
  rw [splitOpen_append_of_none h hbraces]
  cases splitOpen more with
  | none => rfl
  | some found =>
      simp only [Option.map_some]
      cases ofOpen found.2 <;> rfl

end Span

/-! ## Cuts -/

/-- What a source is cut into, as far as its actions are concerned. -/
structure Cut where
  /-- The actions and comments from left to right, up to the first one that is not closed. -/
  spans : List Span
  /-- What follows the last of them. -/
  tail : List Char
  deriving DecidableEq

def cut (source : List Char) : Cut :=
  match _ : Span.next? source with
  | .ok (some (_, span, rest)) => ⟨span :: (cut rest).spans, (cut rest).tail⟩
  | _ => ⟨[], source⟩
termination_by source.length
decreasing_by exact Span.length_next? ‹_›

/-- Whether the text behind the last span stands behind a trim marker.  `before` says it of the
source as a whole. -/
def Cut.trimsTail (before : Bool) (parts : Cut) : Bool :=
  (parts.spans.getLast?.map (·.trimRight)).getD before

theorem cut_of_none {source : List Char} (h : Span.next? source = .ok none) :
    cut source = ⟨[], source⟩ := by
  rw [cut]
  split
  · rename_i hnext
    rw [h] at hnext
    cases hnext
  · rfl

theorem cut_of_some {source text rest : List Char} {span : Span}
    (h : Span.next? source = .ok (some (text, span, rest))) :
    cut source = ⟨span :: (cut rest).spans, (cut rest).tail⟩ := by
  rw [cut]
  split
  · rename_i hnext
    rw [h] at hnext
    cases hnext
    rfl
  · rename_i hnext
    exact absurd h (hnext _ _ _)

theorem Cut.trimsTail_cons (before : Bool) (span : Span) (parts : Cut) :
    Cut.trimsTail before ⟨span :: parts.spans, parts.tail⟩ =
      parts.trimsTail span.trimRight := by
  unfold Cut.trimsTail
  rw [List.getLast?_cons]
  cases parts.spans.getLast? <;> rfl

theorem suffix_tail_cut (source : List Char) : (cut source).tail <:+ source := by
  fun_induction cut source with
  | case1 source text span rest hnext ih => exact ih.trans (Span.suffix_of_next? hnext)
  | case2 => exact List.suffix_rfl

theorem getLast?_tail_cut {source : List Char} {c : Char}
    (h : (cut source).tail.getLast? = some c) : source.getLast? = some c := by
  rcases suffix_tail_cut source with ⟨front, heq⟩
  rw [← heq, List.getLast?_append, h]
  rfl

/-- How a source is read that can be read: up to the last span, and then on behind it. -/
theorem parseFrom_append {trimNext : Bool} {source : List Char} {template : Template}
    (h : parseFrom trimNext source = .ok template) :
    Span.splitOpen (cut source).tail = none ∧
      exists nodes,
        template = nodes ++
          textNode ((cut source).trimsTail trimNext) false (cut source).tail ∧
        forall more, parseFrom trimNext (source ++ more) =
          (parseFrom ((cut source).trimsTail trimNext) ((cut source).tail ++ more)).map
            (nodes ++ ·) := by
  fun_induction parseFrom trimNext source generalizing template with
  | case1 => cases h
  | case2 trimNext source hnext =>
      cases h
      rw [cut_of_none hnext]
      refine ⟨Span.next?_eq_none.mp hnext, [], rfl, fun more => ?_⟩
      change parseFrom trimNext (source ++ more) = (parseFrom trimNext (source ++ more)).map _
      cases parseFrom trimNext (source ++ more) <;> rfl
  | case3 => cases h
  | case4 trimNext source text span rest hnext nodes hspan ih =>
      rcases map_eq_ok_iff.mp h with ⟨later, hrest, rfl⟩
      rcases ih hrest with ⟨htail, found, rfl, hmore⟩
      rw [cut_of_some hnext, Cut.trimsTail_cons]
      refine ⟨htail, textNode trimNext span.trimLeft text ++ nodes ++ found, ?_, ?_⟩
      · simp only [List.append_assoc]
      · intro more
        rw [parseFrom_of_some (Span.next?_append hnext more) hspan, hmore]
        cases parseFrom ((cut rest).trimsTail span.trimRight) ((cut rest).tail ++ more) with
        | error fault => rfl
        | ok template => simp [Except.map, List.append_assoc]

end Template

end SecretProjection
