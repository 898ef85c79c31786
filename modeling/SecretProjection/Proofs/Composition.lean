import SecretProjection.Proofs.Continuation
import SecretProjection.Template.Eval

/-!
# Sources put together

Two sources that can be read are read together as they are read apart, provided that no delimiter
arises between them and that no trim marker looks across the gap.  The output of the two is the
output of the first and behind it that of the second.  A text without delimiters therefore stands
for itself wherever it is written.
-/

namespace SecretProjection

namespace Template

/-!
# Outputs of nodes put together
-/

/-- What comes of two parts one behind the other: the first fault, or else both outputs. -/
def joined (first second : Except EvalFault String) : Except EvalFault String :=
  first.bind fun text => second.map (text ++ ·)

@[simp] theorem joined_error (fault : EvalFault) (second : Except EvalFault String) :
    joined (.error fault) second = .error fault := rfl

@[simp] theorem joined_ok_error (text : String) (fault : EvalFault) :
    joined (.ok text) (.error fault) = .error fault := rfl

@[simp] theorem joined_ok_ok (text other : String) :
    joined (.ok text) (.ok other) = .ok (text ++ other) := rfl

theorem joined_empty (second : Except EvalFault String) : joined (.ok "") second = second := by
  cases second with
  | error fault => rfl
  | ok text => simp

theorem joined_assoc (first second third : Except EvalFault String) :
    joined (joined first second) third = joined first (joined second third) := by
  cases first with
  | error fault => rfl
  | ok text =>
      cases second with
      | error fault => rfl
      | ok other =>
          cases third with
          | error fault => rfl
          | ok last => simp [String.append_assoc]

theorem execute_cons (root : Json) (node : Node) (rest : Template) :
    execute root (node :: rest) = joined (node.output root) (execute root rest) := by
  rw [execute]
  cases node.output root <;> rfl

theorem execute_append (root : Json) (first second : Template) :
    execute root (first ++ second) = joined (execute root first) (execute root second) := by
  induction first with
  | nil => exact (joined_empty _).symm
  | cons node rest ih => rw [List.cons_append, execute_cons, execute_cons, ih, joined_assoc]

/-- A text without trim markers beside it is output as it is. -/
theorem execute_textNode (root : Json) (text : List Char) :
    execute root (textNode false false text) = .ok (String.ofList text) := by
  by_cases hempty : text = []
  · subst hempty
    rfl
  · simp only [textNode, Bool.false_eq_true, if_false, if_neg hempty]
    rw [execute_cons]
    simp [Node.output, execute]

/-!
# Two sources
-/

/-- Two sources that may stand one behind the other: no trim marker looks from one to the other,
and no delimiter has its first brace in the one and its second brace in the other. -/
structure Abut (first second : String) : Prop where
  right : forall span, (cut first.toList).spans.getLast? = some span -> span.trimRight = false
  left : forall span, (cut second.toList).spans.head? = some span -> span.trimLeft = false
  braces : ¬ (first.toList.getLast? = some '\x7b' ∧ second.toList.head? = some '\x7b')

instance (first second : String) : Decidable (Abut first second) :=
  decidable_of_iff
    ((forall span, span ∈ (cut first.toList).spans.getLast? -> span.trimRight = false) ∧
      (forall span, span ∈ (cut second.toList).spans.head? -> span.trimLeft = false) ∧
      ¬ (first.toList.getLast? = some '\x7b' ∧ second.toList.head? = some '\x7b'))
    ⟨fun h => ⟨h.1, h.2.1, h.2.2⟩, fun h => ⟨h.right, h.left, h.braces⟩⟩

theorem Abut.trimsTail {first second : String} (h : Abut first second) :
    (cut first.toList).trimsTail false = false := by
  unfold Cut.trimsTail
  cases hlast : (cut first.toList).spans.getLast? with
  | none => rfl
  | some span => exact h.right span hlast

/-- A text before a source that can be read is output before the output of the source. -/
theorem execute_of_text_before {text source : List Char} {template : Template}
    (htext : Span.splitOpen text = none)
    (hleft : forall span, (cut source).spans.head? = some span -> span.trimLeft = false)
    (hbraces : ¬ (text.getLast? = some '\x7b' ∧ source.head? = some '\x7b'))
    (h : parseFrom false source = .ok template) :
    exists whole, parseFrom false (text ++ source) = .ok whole ∧
      forall root, execute root whole =
        joined (.ok (String.ofList text)) (execute root template) := by
  have hnext := Span.next?_append_of_none htext hbraces
  rw [parseFrom_eq] at h
  cases hsource : Span.next? source with
  | error fault =>
      rw [hsource] at h
      cases h
  | ok found =>
      rw [hsource] at h hnext
      cases found with
      | none =>
          cases h
          refine ⟨_, parseFrom_of_none hnext, fun root => ?_⟩
          rw [execute_textNode, execute_textNode, joined_ok_ok, String.ofList_append]
      | some found =>
          rcases found with ⟨before, span, rest⟩
          have htrim : span.trimLeft = false := by
            apply hleft
            rw [cut_of_some hsource]
            rfl
          simp only [htrim] at h
          cases hspan : spanNode span with
          | error fault =>
              rw [hspan] at h
              cases h
          | ok nodes =>
              rw [hspan] at h
              cases hrest : parseFrom span.trimRight rest with
              | error fault =>
                  rw [hrest] at h
                  cases h
              | ok later =>
                  rw [hrest] at h
                  cases h
                  refine ⟨textNode false false (text ++ before) ++ nodes ++ later, ?_, ?_⟩
                  · rw [parseFrom_of_some hnext hspan, hrest, htrim]
                    rfl
                  · intro root
                    simp only [List.append_assoc, execute_append, execute_textNode]
                    rw [String.ofList_append, ← joined_ok_ok, joined_assoc]

theorem exists_parse_append {first second : String} {one other : Template}
    (hone : parse first = .ok one) (hother : parse second = .ok other)
    (h : Abut first second) :
    exists whole, parse (first ++ second) = .ok whole ∧
      forall root, execute root whole = joined (execute root one) (execute root other) := by
  rcases parseFrom_append hone with ⟨htail, nodes, rfl, hmore⟩
  rw [h.trimsTail] at hmore ⊢
  have hbraces : ¬ ((cut first.toList).tail.getLast? = some '\x7b' ∧
      second.toList.head? = some '\x7b') :=
    fun hboth => h.braces ⟨getLast?_tail_cut hboth.1, hboth.2⟩
  rcases execute_of_text_before htail h.left hbraces hother with ⟨later, hlater, hexecute⟩
  refine ⟨nodes ++ later, ?_, fun root => ?_⟩
  · rw [parse, String.toList_append, hmore, hlater]
    rfl
  · rw [execute_append, execute_append, execute_textNode, hexecute, joined_assoc]

/-!
# Texts
-/

/-- A text without delimiters is its own output. -/
theorem exists_parse_text {text : String} (h : ¬ ['\x7b', '\x7b'] <:+: text.toList) :
    exists template, parse text = .ok template ∧
      forall root, execute root template = .ok text := by
  refine ⟨_, parseFrom_of_not_infix h, fun root => ?_⟩
  rw [execute_textNode, String.ofList_toList]

/-- Sources that abut compose: reading them together succeeds, and the output is that of the
first and behind it that of the second, with the fault of the first one that has any.  A text
without delimiters stands for itself between any two sources. -/
theorem sources_compose :
    (forall (first second : String) (one other : Template),
      parse first = .ok one -> parse second = .ok other -> Abut first second ->
      exists whole, parse (first ++ second) = .ok whole ∧
        forall root,
          (forall text more, execute root one = .ok text -> execute root other = .ok more ->
            execute root whole = .ok (text ++ more)) ∧
          (forall fault, execute root one = .error fault ->
            execute root whole = .error fault) ∧
          (forall text fault, execute root one = .ok text ->
            execute root other = .error fault -> execute root whole = .error fault)) ∧
    (forall text : String, ¬ ['\x7b', '\x7b'] <:+: text.toList ->
      (exists template, parse text = .ok template ∧
        forall root, execute root template = .ok text) ∧
      forall (first second : String) (one other : Template),
        parse first = .ok one -> parse second = .ok other ->
        Abut first text -> Abut (first ++ text) second ->
        exists whole, parse (first ++ text ++ second) = .ok whole ∧
          forall root, execute root whole =
            joined (execute root one) (joined (.ok text) (execute root other))) := by
  constructor
  · intro first second one other hone hother habut
    rcases exists_parse_append hone hother habut with ⟨whole, hwhole, hexecute⟩
    refine ⟨whole, hwhole, fun root => ⟨?_, ?_, ?_⟩⟩
    · intro text more htext hmore
      rw [hexecute, htext, hmore, joined_ok_ok]
    · intro fault hfault
      rw [hexecute, hfault, joined_error]
    · intro text fault htext hfault
      rw [hexecute, htext, hfault, joined_ok_error]
  · intro text hfree
    rcases exists_parse_text hfree with ⟨template, htemplate, houtput⟩
    refine ⟨⟨template, htemplate, houtput⟩, ?_⟩
    intro first second one other hone hother hbefore hbehind
    rcases exists_parse_append hone htemplate hbefore with ⟨front, hfront, hexecuteFront⟩
    rcases exists_parse_append hfront hother hbehind with ⟨whole, hwhole, hexecute⟩
    refine ⟨whole, hwhole, fun root => ?_⟩
    rw [hexecute, hexecuteFront, houtput, joined_assoc]

/-- A source that starts with a text and ends with a brace. -/
def greeting : String := "hello \x7b\x7b- .user | upper \x7d\x7d \x7b"

/-- A source with a comment and a literal that hold delimiters. -/
def whereabouts : String :=
  " at \x7b\x7b/* \x7d\x7d */ -\x7d\x7d \x7b\x7b printf \"%s\x7d\x7d\" .host \x7d\x7d"

theorem greeting_composes :
    (exists whole, parse (greeting ++ whereabouts) = .ok whole ∧
      execute (.object [("host", .string "h"), ("user", .string "ana")]) whole =
        .ok "helloANA \x7b at h\x7d\x7d" ∧
      execute (.object [("host", .string "h")]) whole = .error .noValue ∧
      execute (.object [("user", .string "ana")]) whole = .error .noValue) ∧
    exists whole, parse (greeting ++ " = " ++ whereabouts) = .ok whole ∧
      execute (.object [("host", .string "h"), ("user", .string "ana")]) whole =
        .ok "helloANA \x7b =  at h\x7d\x7d" := by
  have hgreeting : parse greeting = .ok
      [.text "hello", .action [.operand (.field ["user"]), .call .upper []], .text " \x7b"] := by
    decide +kernel
  have hwhereabouts : parse whereabouts = .ok
      [.text " at ",
        .action [.call .printf [.literal (.string "%s\x7d\x7d"), .field ["host"]]]] := by
    decide +kernel
  constructor
  · rcases sources_compose.1 greeting whereabouts _ _ hgreeting hwhereabouts (by decide +kernel)
      with ⟨whole, hwhole, hexecute⟩
    refine ⟨whole, hwhole, ?_, ?_, ?_⟩
    · exact (hexecute _).1 "helloANA \x7b" " at h\x7d\x7d" (by decide +kernel) (by decide +kernel)
    · exact (hexecute _).2.1 .noValue (by decide +kernel)
    · exact (hexecute _).2.2 "helloANA \x7b" .noValue (by decide +kernel) (by decide +kernel)
  · rcases (sources_compose.2 " = " (by decide +kernel)).2 greeting whereabouts _ _ hgreeting
      hwhereabouts (by decide +kernel) (by decide +kernel) with ⟨whole, hwhole, hexecute⟩
    refine ⟨whole, hwhole, ?_⟩
    rw [hexecute]
    decide +kernel

end Template

end SecretProjection
