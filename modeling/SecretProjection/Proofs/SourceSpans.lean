import SecretProjection.Proofs.Offsets

/-!
# Spans of a source

What a source is read as tells how the source is laid out: texts without an opening delimiter, and
between them the actions and comments, one behind the other up to the end.  `Written` says how a
span is written in its source, and `Laid` how a template lies in one.

Reading by offsets comes to the same templates and faults as reading characters.  In particular no
cut is ever refused.
-/

namespace SecretProjection

namespace Template

/-!
# Single spans
-/

namespace Span

def opening (trimLeft : Bool) : List Char :=
  '\x7b' :: '\x7b' :: if trimLeft then ['-'] else []

def closing (trimRight : Bool) : List Char :=
  (if trimRight then ['-'] else []) ++ ['\x7d', '\x7d']

/-- The text of a span in its source, from delimiter to delimiter. -/
structure Written (span : Span) (text : List Char) : Prop where
  delimited : exists inner, text = ['\x7b', '\x7b'] ++ inner ++ ['\x7d', '\x7d']
  trimLeft : span.trimLeft = true <->
    exists c, Text.isAsciiBlank c = true ∧ ['\x7b', '\x7b', '-', c] <+: text
  trimRight : span.trimRight = true <->
    exists c, Text.isAsciiBlank c = true ∧ [c, '-', '\x7d', '\x7d'] <:+ text
  comment : span.body = none <->
    exists blanks, (forall c, c ∈ blanks -> Text.isBlank c = true) ∧
      opening span.trimLeft ++ blanks ++ ['/', '*'] <+: text
  action : forall body, span.body = some body ->
    text = opening span.trimLeft ++ body ++ closing span.trimRight

theorem leftMarker_eq_true {text : List Char} :
    (leftMarker text).1 = true <->
      exists c, Text.isAsciiBlank c = true ∧ ['-', c] <+: text := by
  constructor
  · intro h
    unfold leftMarker at h
    split at h
    · rename_i c rest
      by_cases hblank : Text.isAsciiBlank c = true
      · exact ⟨c, hblank, ⟨rest, rfl⟩⟩
      · rw [if_neg hblank] at h
        cases h
    · cases h
  · intro h
    rcases h with ⟨c, hblank, ⟨rest, rfl⟩⟩
    show (leftMarker ('-' :: c :: rest)).1 = true
    rw [leftMarker, if_pos hblank]

theorem rightMarker_eq_true {text : List Char} :
    (rightMarker text).1 = true <->
      exists c, Text.isAsciiBlank c = true ∧ [c, '-'] <:+ text := by
  have hreverse : forall c : Char, ['-', c] <+: text.reverse <-> [c, '-'] <:+ text := by
    intro c
    exact @List.reverse_prefix _ [c, '-'] text
  rw [rightMarker_eq, leftMarker_eq_true]
  simp only [hreverse]

/-- The blank of a marker stands in the body, as no character of an opening delimiter is one. -/
theorem rightMarker_opening (trimLeft : Bool) (body : List Char) :
    (rightMarker (opening trimLeft ++ body)).1 = (rightMarker body).1 := by
  have hbraces := rightMarker_append_cons (c := '\x7b') (by decide) (by decide) ['\x7b']
  cases trimLeft with
  | false =>
      show (rightMarker (['\x7b'] ++ '\x7b' :: body)).1 = _
      rw [hbraces]
  | true =>
      show (rightMarker (['\x7b'] ++ '\x7b' :: '-' :: body)).1 = _
      rw [hbraces, Bool.eq_iff_iff, rightMarker_eq_true, rightMarker_eq_true]
      constructor
      · rintro ⟨c, hblank, hsuffix⟩
        rcases List.suffix_cons_iff.mp hsuffix with heq | hsuffix
        · cases heq
          cases hblank
        · exact ⟨c, hblank, hsuffix⟩
      · rintro ⟨c, hblank, hsuffix⟩
        exact ⟨c, hblank, hsuffix.trans (List.suffix_cons _ _)⟩

/-- A marker behind an opening delimiter stands in the text of the span. -/
theorem leftMarker_written {behind inner rest : List Char}
    (h : behind = inner ++ ['\x7d', '\x7d'] ++ rest) :
    (leftMarker behind).1 = true <->
      exists c, Text.isAsciiBlank c = true ∧
        ['\x7b', '\x7b', '-', c] <+: ['\x7b', '\x7b'] ++ inner ++ ['\x7d', '\x7d'] := by
  have hlength : 2 ≤ (inner ++ ['\x7d', '\x7d']).length := by simp
  rw [h, leftMarker_append hlength, leftMarker_eq_true]
  simp only [List.cons_append, List.nil_append, List.cons_prefix_cons, true_and]

/-- A marker before a closing delimiter. -/
theorem rightMarker_written {front : List Char} :
    (rightMarker front).1 = true <->
      exists c, Text.isAsciiBlank c = true ∧
        [c, '-', '\x7d', '\x7d'] <:+ front ++ ['\x7d', '\x7d'] := by
  have hsuffix : forall c : Char, [c, '-', '\x7d', '\x7d'] <:+ front ++ ['\x7d', '\x7d'] <->
      [c, '-'] <:+ front := by
    intro c
    exact @List.suffix_append_self_iff _ [c, '-'] front ['\x7d', '\x7d']
  rw [rightMarker_eq_true]
  simp only [hsuffix]

theorem written_action {behind body rest : List Char}
    (hcomment : ¬ ['/', '*'] <+: Text.trimStart (leftMarker behind).2)
    (hsplit : splitClose none (leftMarker behind).2 = some (body, rest)) :
    exists text, '\x7b' :: '\x7b' :: behind = text ++ rest ∧
      Written ⟨(leftMarker behind).1, (rightMarker body).1, some (rightMarker body).2⟩ text := by
  have hinner := eq_of_splitClose hsplit
  have hbehind : behind =
      ((if (leftMarker behind).1 then ['-'] else []) ++ body) ++ ['\x7d', '\x7d'] ++ rest := by
    conv_lhs => rw [Offsets.eq_of_leftMarker behind, hinner]
    simp
  refine ⟨opening (leftMarker behind).1 ++ body ++ ['\x7d', '\x7d'], ?_, ?_⟩
  · conv_lhs => rw [hbehind]
    simp [opening]
  · constructor
    · exact ⟨(if (leftMarker behind).1 then ['-'] else []) ++ body, by simp [opening]⟩
    · have hleft := leftMarker_written hbehind
      rw [← List.append_assoc] at hleft
      exact hleft
    · rw [← rightMarker_written, rightMarker_opening]
    · constructor
      · exact nofun
      · intro h
        rcases h with ⟨blanks, hblanks, ⟨more, hmore⟩⟩
        rw [List.append_assoc, List.append_assoc, List.append_assoc] at hmore
        have hbody := List.append_cancel_left hmore
        refine absurd ⟨more ++ rest, ?_⟩ hcomment
        have hwhole : (leftMarker behind).2 = blanks ++ '/' :: '*' :: (more ++ rest) := by
          calc (leftMarker behind).2
              = body ++ ['\x7d', '\x7d'] ++ rest := by simp [hinner]
            _ = blanks ++ '/' :: '*' :: (more ++ rest) := by simp [← hbody]
        rw [hwhole, Text.trimStart_append_of_blank hblanks]
        rfl
    · intro other hother
      cases hother
      conv_lhs => rw [Offsets.eq_of_rightMarker body]
      simp [closing]

/-- The text of a comment up to the delimiter, with the marker that may stand there. -/
theorem written_none {behind rest : List Char} {trimRight : Bool} (blanks note marker : List Char)
    (hblanks : forall c, c ∈ blanks -> Text.isBlank c = true)
    (hinner : (leftMarker behind).2 =
      blanks ++ ['/', '*'] ++ note ++ ['*', '/'] ++ marker ++ ['\x7d', '\x7d'] ++ rest)
    (hmarker : forall front, (rightMarker (front ++ ['*', '/'] ++ marker)).1 = trimRight) :
    exists text, '\x7b' :: '\x7b' :: behind = text ++ rest ∧
      Written ⟨(leftMarker behind).1, trimRight, none⟩ text := by
  have hbehind : behind = ((if (leftMarker behind).1 then ['-'] else []) ++
      (blanks ++ ['/', '*'] ++ note ++ ['*', '/'] ++ marker)) ++ ['\x7d', '\x7d'] ++ rest := by
    conv_lhs => rw [Offsets.eq_of_leftMarker behind, hinner]
    simp
  refine ⟨opening (leftMarker behind).1 ++ (blanks ++ ['/', '*'] ++ note) ++ ['*', '/'] ++ marker ++
    ['\x7d', '\x7d'], ?_, ?_⟩
  · conv_lhs => rw [hbehind]
    simp [opening]
  · constructor
    · exact ⟨(if (leftMarker behind).1 then ['-'] else []) ++
        (blanks ++ ['/', '*'] ++ note ++ ['*', '/'] ++ marker), by simp [opening]⟩
    · have hleft := leftMarker_written hbehind
      simp only [opening, List.append_assoc, List.cons_append, List.nil_append] at hleft ⊢
      exact hleft
    · rw [← rightMarker_written, hmarker]
    · refine ⟨fun _ => ⟨blanks, hblanks, ?_⟩, fun _ => rfl⟩
      exact ⟨note ++ ['*', '/'] ++ marker ++ ['\x7d', '\x7d'], by simp⟩
    · exact nofun

theorem written_comment {behind comment rest : List Char} {span : Span}
    (hcomment : Text.trimStart (leftMarker behind).2 = '/' :: '*' :: comment)
    (hspan : ofComment (leftMarker behind).1 comment = .ok (span, rest)) :
    exists text, '\x7b' :: '\x7b' :: behind = text ++ rest ∧ Written span text := by
  rcases Text.exists_trimStart (leftMarker behind).2 with ⟨blanks, hinner, hblanks⟩
  rw [hcomment] at hinner
  have hslash := rightMarker_append_cons (c := '/') (by decide) (by decide)
  rcases ofComment_eq_ok.mp hspan with ⟨note, ⟨hsplit, rfl⟩ | ⟨c, hblank, hsplit, rfl⟩⟩
  · apply written_none blanks note [] hblanks
    · rw [hinner, seeks_splitCommentEnd.eq_append hsplit]
      simp
    · intro front
      rw [List.append_nil, List.append_cons, hslash]
      rfl
  · apply written_none blanks note [c, '-'] hblanks
    · rw [hinner, seeks_splitCommentEnd.eq_append hsplit]
      simp
    · intro front
      exact rightMarker_eq_true.mpr ⟨c, hblank, List.suffix_append _ _⟩

/-- Every action and comment that is found stands behind a text without opening delimiters. -/
theorem written_of_next? {source gap rest : List Char} {span : Span}
    (h : next? source = .ok (some (gap, span, rest))) :
    exists text, source = gap ++ text ++ rest ∧ ¬ ['\x7b', '\x7b'] <:+: gap ∧
      Written span text := by
  rcases next?_eq_some.mp h with ⟨behind, hsplit, hopen⟩
  have hwritten : exists text, '\x7b' :: '\x7b' :: behind = text ++ rest ∧ Written span text := by
    rcases ofOpen_eq_ok.mp hopen with ⟨comment, hcomment, hspan⟩ | ⟨hcomment, body, hclose, rfl⟩
    · exact written_comment hcomment hspan
    · exact written_action hcomment hclose
  rcases hwritten with ⟨text, htext, hwritten⟩
  refine ⟨text, ?_, seeks_splitOpen.not_infix hsplit, hwritten⟩
  rw [seeks_splitOpen.eq_append hsplit, htext, List.append_assoc]

end Span

/-!
# Layouts
-/

namespace Offsets

/-- How a template lies in the rest of a source behind a front part.  Gaps without opening
delimiters and the spans take turns up to the end.  White space of a gap is dropped where the span
at that side has its marker. -/
inductive Laid : Bool -> List Char -> List Char -> List Placed -> Template -> Prop where
  | tail {trimNext : Bool} {front gap : List Char} (hfree : ¬ ['\x7b', '\x7b'] <:+: gap) :
      Laid trimNext front gap [] (textNode trimNext false gap)
  | span {trimNext : Bool} {front gap text rest : List Char} {placed : Placed}
      {others : List Placed} {nodes : List Node} {later : Template}
      (hfree : ¬ ['\x7b', '\x7b'] <:+: gap) (hwritten : placed.span.Written text)
      (hstart : placed.start = size (front ++ gap))
      (hstop : placed.stop = size (front ++ gap ++ text))
      (hnodes : spanNode placed.span = .ok nodes)
      (hlater : Laid placed.span.trimRight (front ++ gap ++ text) rest others later) :
      Laid trimNext front (gap ++ text ++ rest) (placed :: others)
        (textNode trimNext placed.span.trimLeft gap ++ nodes ++ later)

theorem readFrom_eq (source : List Char) (trimNext : Bool) (offset : Nat) :
    readFrom source trimNext offset =
      match next? source offset with
      | .error stop => .error stop
      | .ok none =>
          (cutFrom source offset).map fun tail => ([], textNode trimNext false tail)
      | .ok (some placed) =>
          match cut source offset placed.start with
          | .error stop => .error stop
          | .ok text =>
              match spanNode placed.span with
              | .error fault => .error (.fault fault)
              | .ok nodes =>
                  (readFrom source placed.span.trimRight placed.stop).map fun found =>
                    (placed :: found.1,
                      textNode trimNext placed.span.trimLeft text ++ nodes ++ found.2) := by
  rw [readFrom]
  split
  · rename_i stop hnext
    simp only [hnext]
  · rename_i hnext
    simp only [hnext]
  · rename_i placed hnext
    cases hcut : cut source offset placed.start with
    | error stop => simp only [hnext, hcut]
    | ok text => cases hspan : spanNode placed.span <;> simp only [hnext, hcut, hspan]

theorem append_parts (front gap text rest : List Char) :
    front ++ (gap ++ text ++ rest) = front ++ gap ++ text ++ rest := by
  simp

theorem PlacedAt.stop_eq {front rest : List Char} {start : Nat} {span : Span} {placed : Placed}
    (h : PlacedAt (front ++ rest) start span rest placed) : placed.stop = size front := by
  have hsize := h.stop
  rw [size_append] at hsize
  exact Nat.add_right_cancel hsize

theorem cut_gap (front gap text rest : List Char) :
    cut (front ++ (gap ++ text ++ rest)) (size front) (size (front ++ gap)) = .ok gap := by
  rw [append_parts, List.append_assoc, cut_append]

/-- Reading on from an offset gives what reading the rest of the source gives, and the places of the
spans in it. -/
theorem readFrom_append (trimNext : Bool) (front back : List Char) :
    (exists fault, parseFrom trimNext back = .error fault ∧
      readFrom (front ++ back) trimNext (size front) = .error (.fault fault)) ∨
    exists template placed, parseFrom trimNext back = .ok template ∧
      readFrom (front ++ back) trimNext (size front) = .ok (placed, template) ∧
      Laid trimNext front back placed template := by
  fun_induction parseFrom trimNext back generalizing front with
  | case1 trimNext back fault hnext =>
      left
      refine ⟨fault, rfl, ?_⟩
      rw [readFrom_eq, next?_of_error hnext]
  | case2 trimNext back hnext =>
      right
      have hnone := Span.next?_eq_none.mp hnext
      refine ⟨_, [], rfl, ?_, .tail (Span.seeks_splitOpen.not_infix_of_none hnone)⟩
      rw [readFrom_eq, next?_of_none hnone]
      dsimp only
      rw [cutFrom_append]
      rfl
  | case3 trimNext back gap span rest hnext fault hspan =>
      left
      rcases Span.written_of_next? hnext with ⟨text, rfl, hfree, hwritten⟩
      rcases next?_of_some hnext front with ⟨placed, hplaced, hat⟩
      refine ⟨fault, rfl, ?_⟩
      rw [readFrom_eq, hplaced]
      dsimp only
      rw [hat.start, cut_gap, hat.found, hspan]
  | case4 trimNext back gap span rest hnext nodes hspan ih =>
      rcases Span.written_of_next? hnext with ⟨text, rfl, hfree, hwritten⟩
      rcases next?_of_some hnext front with ⟨placed, hplaced, hat⟩
      have hsource := append_parts front gap text rest
      rw [hsource] at hat
      have hstop := hat.stop_eq
      -- The span joins the front part, so that the next step starts at its end.
      have hread : readFrom (front ++ (gap ++ text ++ rest)) trimNext (size front) =
          (readFrom (front ++ gap ++ text ++ rest) span.trimRight
            (size (front ++ gap ++ text))).map fun found =>
              (placed :: found.1, textNode trimNext span.trimLeft gap ++ nodes ++ found.2) := by
        rw [readFrom_eq, hplaced]
        dsimp only
        rw [hat.start, cut_gap, hat.found, hspan, hstop, hsource]
      rw [hread]
      rcases ih (front ++ gap ++ text) with
        ⟨fault, hparse, hlater⟩ | ⟨template, others, hparse, hlater, hlaid⟩
      · left
        exact ⟨fault, by rw [hparse]; rfl, by rw [hlater]; rfl⟩
      · right
        refine ⟨textNode trimNext span.trimLeft gap ++ nodes ++ template, placed :: others,
          by rw [hparse]; rfl, by rw [hlater]; rfl, ?_⟩
        rw [← hat.found] at hwritten hlaid hspan ⊢
        exact .span hfree hwritten hat.start hstop hspan hlaid

/-!
## Places
-/

theorem size_of_written {span : Span} {text : List Char} (h : span.Written text) :
    4 ≤ size text := by
  rcases h.delimited with ⟨inner, rfl⟩
  have hopen : size ['\x7b', '\x7b'] = 2 := rfl
  have hclose : size ['\x7d', '\x7d'] = 2 := rfl
  rw [size_append, size_append]
  omega

/-- A span stands in a source from one offset up to another one. -/
structure Sliced (source : List Char) (placed : Placed) : Prop where
  nonempty : placed.start + 4 ≤ placed.stop
  inside : placed.stop ≤ size source
  start : String.Pos.Raw.IsValid (String.ofList source) ⟨placed.start⟩
  stop : String.Pos.Raw.IsValid (String.ofList source) ⟨placed.stop⟩
  written : exists text, cut source placed.start placed.stop = .ok text ∧ placed.span.Written text

theorem sliced {front text back : List Char} {placed : Placed} (hwritten : placed.span.Written text)
    (hstart : placed.start = size front) (hstop : placed.stop = size (front ++ text)) :
    Sliced (front ++ text ++ back) placed := by
  have hlength := size_of_written hwritten
  constructor
  · rw [hstart, hstop, size_append]
    omega
  · rw [hstop, size_append (front ++ text)]
    omega
  · rw [hstart, List.append_assoc]
    exact isValid_size _ _
  · rw [hstop]
    exact isValid_size _ _
  · refine ⟨text, ?_, hwritten⟩
    rw [hstart, hstop, cut_append]

/-- A search finds a span behind the offset where it starts. -/
theorem sliced_of_next? {source : List Char} {offset : Nat} {placed : Placed}
    (h : next? source offset = .ok (some placed)) :
    offset ≤ placed.start ∧ Sliced source placed := by
  rcases exists_of_next? h with ⟨front, back, gap, rest, rfl, rfl, hnext, hat⟩
  rcases Span.written_of_next? hnext with ⟨text, rfl, _, hwritten⟩
  rw [append_parts] at hat ⊢
  constructor
  · rw [hat.start, size_append]
    exact Nat.le_add_right _ _
  · exact sliced hwritten hat.start hat.stop_eq

namespace Laid

variable {trimNext : Bool} {front back : List Char} {placed : List Placed} {template : Template}

theorem sliced (h : Laid trimNext front back placed template) :
    forall place, place ∈ placed -> size front ≤ place.start ∧ Sliced (front ++ back) place := by
  induction h with
  | tail => exact nofun
  | @span trimNext front gap text rest first others nodes later hfree hwritten hstart hstop hnodes
      hlater ih =>
      intro place hplace
      rw [append_parts]
      rcases List.mem_cons.mp hplace with rfl | hplace
      · refine ⟨?_, Offsets.sliced hwritten hstart hstop⟩
        rw [hstart, size_append]
        exact Nat.le_add_right _ _
      · rcases ih place hplace with ⟨hbehind, hsliced⟩
        refine ⟨?_, hsliced⟩
        rw [size_append, size_append] at hbehind
        omega

/-- Every span ends where the next one starts or before. -/
theorem pairwise (h : Laid trimNext front back placed template) :
    placed.Pairwise fun first second => first.stop ≤ second.start := by
  induction h with
  | tail => exact .nil
  | span hfree hwritten hstart hstop hnodes hlater ih =>
      refine List.pairwise_cons.mpr ⟨?_, ih⟩
      intro place hplace
      rw [hstop]
      exact (hlater.sliced place hplace).1

end Laid

end Offsets

/-- No text of a source is lost or read twice.  Reading by offsets gives what reading characters
gives, every search ends behind its start, and no cut is refused.  A source that is read as a
template consists of the gaps and spans that the template tells, in order and one behind the
other. -/
theorem source_laid (source : String) :
    (Offsets.read source).map Prod.snd = (parse source).mapError .fault ∧
    (forall offset, Offsets.read source ≠ .error (.badOffset offset)) ∧
    (forall offset placed, Offsets.next? source.toList offset = .ok (some placed) ->
      offset ≤ placed.start ∧ Offsets.Sliced source.toList placed) ∧
    forall template, parse source = .ok template ->
      exists placed, Offsets.read source = .ok (placed, template) ∧
        Offsets.Laid false [] source.toList placed template ∧
        (placed.Pairwise fun first second => first.stop ≤ second.start) ∧
        forall place, place ∈ placed -> Offsets.Sliced source.toList place := by
  have hread := Offsets.readFrom_append false [] source.toList
  rw [List.nil_append, Offsets.size_nil] at hread
  refine ⟨?_, ?_, ?_, ?_⟩
  · rcases hread with ⟨fault, hparse, hread⟩ | ⟨template, placed, hparse, hread, _⟩
    · rw [parse, Offsets.read, hparse, hread]
      rfl
    · rw [parse, Offsets.read, hparse, hread]
      rfl
  · intro offset h
    rw [Offsets.read] at h
    rcases hread with ⟨fault, _, hread⟩ | ⟨template, placed, _, hread, _⟩
    · rw [hread] at h
      cases h
    · rw [hread] at h
      cases h
  · intro offset placed h
    exact Offsets.sliced_of_next? h
  · intro template h
    rcases hread with ⟨fault, hparse, _⟩ | ⟨found, placed, hparse, hread, hlaid⟩
    · rw [parse, hparse] at h
      cases h
    · rw [parse, hparse] at h
      cases h
      refine ⟨placed, hread, hlaid, hlaid.pairwise, ?_⟩
      intro place hplace
      exact (hlaid.sliced place hplace).2

/-- A comment and actions with markers at one side, at both sides or at none, with wide characters
around them. -/
def mixed : String :=
  "é \x7b\x7b- /* ö\x7d\x7d */\x7d\x7d ü\x7b\x7b . -\x7d\x7d \x7b\x7b- nil\n-\x7d\x7d €\x7b "

def mixedTemplate : Template :=
  [.text "é", .text " ü", .action [.operand .root], .action [.operand (.literal .nil)],
    .text "€\x7b "]

theorem mixed_laid :
    (0 ≤ 3 ∧ Offsets.Sliced mixed.toList ⟨3, 19, ⟨true, false, none⟩, []⟩) ∧
    exists placed, Offsets.read mixed = .ok (placed, mixedTemplate) ∧
      Offsets.Laid false [] mixed.toList placed mixedTemplate ∧
      (placed.Pairwise fun first second => first.stop ≤ second.start) ∧
      forall place, place ∈ placed -> Offsets.Sliced mixed.toList place :=
  ⟨(source_laid mixed).2.2.1 0 ⟨3, 19, ⟨true, false, none⟩, []⟩ (by decide +kernel),
    (source_laid mixed).2.2.2 mixedTemplate (by decide +kernel)⟩

example : Offsets.read mixed =
    .ok ([⟨3, 19, ⟨true, false, none⟩, []⟩, ⟨22, 30, ⟨false, true, some " . ".toList⟩, []⟩,
      ⟨31, 42, ⟨true, true, some " nil\n".toList⟩, []⟩], mixedTemplate) := by
  decide +kernel

end Template

end SecretProjection
