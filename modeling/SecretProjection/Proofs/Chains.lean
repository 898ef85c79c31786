import SecretProjection.Proofs.Continuation
import SecretProjection.Proofs.Results
import SecretProjection.Proofs.Stops

/-!
# Chains of field names and `index`

A chain of field names and a call of `index` with the root and these names walk the same way down a
value: at every object, null and scalar they take the same step or both fail.  They fail with
different words, so that what they have in common is `toOption` of what comes of them.

Behind a pipe sign the reader does not look back.  Whatever is piped into, the two forms therefore
are read to the same template but for the first command, or both cannot be read.
-/

namespace SecretProjection

namespace Template

/-!
# Walks
-/

/-- Names as the keys of a call of `index` at the root. -/
def indexCall (names : List String) : Command :=
  .call .index (.root :: names.map fun name => .literal (.string name))

theorem toOption_lookup (names : List String) (value : Json) :
    (lookup names value).toOption = (indexInto value (names.map Json.string)).toOption := by
  induction names generalizing value with
  | nil => rfl
  | cons name names ih =>
      cases value with
      | object members => exact ih _
      | null => exact ih .null
      | array _ | bool _ | number _ | string _ => rfl

theorem evalOperands_strings (root : Json) (names : List String) :
    evalOperands root (names.map fun name => .literal (.string name)) =
      .ok (names.map Json.string) := by
  induction names with
  | nil => rfl
  | cons name names ih =>
      rw [List.map_cons, evalOperands, ih]
      rfl

theorem toOption_eval_field (root : Json) (names : List String) :
    ((Command.operand (.field names)).eval root []).toOption =
      ((indexCall names).eval root []).toOption := by
  have hindex : (indexCall names).eval root [] = indexInto root (names.map Json.string) := by
    simp only [indexCall, Command.eval, evalOperands, Operand.eval, evalOperands_strings,
      Except.map, List.append_nil, Function.apply]
  rw [hindex]
  exact toOption_lookup names root

/-!
# Templates that differ in their first command
-/

section FirstCommand

variable {root : Json} {command other : Command}
  (h : (command.eval root []).toOption = (other.eval root []).toOption)

include h

theorem toOption_evalPipeline (rest : List Command) :
    (evalPipeline root [] (command :: rest)).toOption =
      (evalPipeline root [] (other :: rest)).toOption := by
  rcases toOption_eq_iff.mp h with ⟨value, hfirst, hsecond⟩ | ⟨⟨_, hfirst⟩, _, hsecond⟩
  · rw [evalPipeline_cons_of_ok hfirst, evalPipeline_cons_of_ok hsecond]
  · rw [evalPipeline_cons_of_error hfirst, evalPipeline_cons_of_error hsecond]
    rfl

theorem toOption_output_action (rest : List Command) :
    ((Node.action (command :: rest)).output root).toOption =
      ((Node.action (other :: rest)).output root).toOption := by
  rcases toOption_eq_iff.mp (toOption_evalPipeline h rest) with
    ⟨value, hfirst, hsecond⟩ | ⟨⟨_, hfirst⟩, _, hsecond⟩
  · rw [output_action_of_ok hfirst, output_action_of_ok hsecond]
  · rw [output_action_of_error hfirst, output_action_of_error hsecond]
    rfl

theorem toOption_execute (rest : List Command) (more : Template) :
    (execute root (.action (command :: rest) :: more)).toOption =
      (execute root (.action (other :: rest) :: more)).toOption := by
  rcases toOption_eq_iff.mp (toOption_output_action h rest) with
    ⟨text, hfirst, hsecond⟩ | ⟨⟨_, hfirst⟩, _, hsecond⟩
  · rw [execute_cons_of_ok hfirst, execute_cons_of_ok hsecond]
  · rw [execute_cons_of_error hfirst, execute_cons_of_error hsecond]
    rfl

end FirstCommand

/-!
# Reading behind a pipe sign

A body is quoted in the faults of its pipeline and nowhere else.  Hence the commands behind the
first pipe sign can be read with another body, the empty one.
-/

theorem toOption_prepend {row other : Except ParseFault (List Token)}
    (h : row.toOption = other.toOption) (token : Token) :
    (Token.prepend token row).toOption = (Token.prepend token other).toOption := by
  rw [Token.prepend, Token.prepend, toOption_map, toOption_map, h]

theorem toOption_scan (body other : String) (text : List Char) :
    (Token.scan body text).toOption = (Token.scan other text).toOption := by
  fun_induction Token.scan body text with
  | case1 => rw [Token.scan]
  | case2 c rest hblank ih =>
      rw [Token.scan, if_pos hblank]
      exact ih
  | case3 rest hblank ih =>
      rw [Token.scan, if_neg hblank, if_pos rfl]
      exact toOption_prepend ih _
  | case4 rest hsplit =>
      rw [Token.scan_quote, hsplit]
      rfl
  | case5 rest literal tail hsplit message hread =>
      simp only [Token.scan_quote, hsplit, hread]
  | case6 rest literal tail hsplit text hread _ _ ih =>
      simp only [Token.scan_quote, hsplit, hread]
      exact toOption_prepend ih _
  | case7 rest hsplit =>
      rw [Token.scan_backquote, hsplit]
      rfl
  | case8 rest raw tail hsplit _ _ _ ih =>
      simp only [Token.scan_backquote, hsplit]
      exact toOption_prepend ih _
  | case9 c rest hblank hpipe hquote hback ih =>
      rw [Token.scan, if_neg hblank, if_neg hpipe, if_neg hquote, if_neg hback]
      exact toOption_prepend ih _

theorem toOption_ofTokens (body other : String) (tokens : List Token) :
    (Command.ofTokens body tokens).toOption = (Command.ofTokens other tokens).toOption := by
  cases tokens with
  | nil => rfl
  | cons first rest =>
      rw [Command.ofTokens, Command.ofTokens]
      cases callee? first with
      | some name => rfl
      | none =>
          by_cases hrest : rest = []
          · simp only [hrest, if_true]
          · simp only [hrest, if_false]
            rfl

theorem toOption_commands (body other : String) (rows : List (List Token)) :
    (commands body rows).toOption = (commands other rows).toOption := by
  induction rows with
  | nil => rfl
  | cons row rest ih =>
      rw [commands, commands]
      rcases toOption_eq_iff.mp (toOption_ofTokens body other row) with
        ⟨command, hfirst, hsecond⟩ | ⟨⟨_, hfirst⟩, _, hsecond⟩
      · simp only [hfirst, hsecond, toOption_map, ih]
      · rw [hfirst, hsecond]
        rfl

/-- The commands behind a pipe sign, all of which have to be calls. -/
def piped (behind : List Char) : Option (List Command) :=
  (Token.scan "" behind).toOption.bind fun tokens =>
    (commands "" (stages tokens)).toOption.filter fun found => found.all Command.isCall

theorem scan_piped {command : Command} (h : command.WellFormed) (behind : List Char)
    (body : String) :
    Token.scan body (command.source ++ ' ' :: '|' :: behind) =
      (Token.scan body behind).map (command.tokens ++ .pipe :: ·) := by
  have hpipe : Token.scan body (' ' :: '|' :: behind) =
      Token.prepend .pipe (Token.scan body behind) := by
    rw [Token.scan, if_pos (by decide), Token.scan, if_neg (by decide), if_pos rfl]
  rw [(Command.row h).scan_append (by rintro d ⟨⟩; decide), hpipe]
  cases Token.scan body behind <;> rfl

theorem toOption_pipeline {command : Command} (h : command.WellFormed) (behind : List Char) :
    (pipeline (command.source ++ ' ' :: '|' :: behind)).toOption =
      (piped behind).map (command :: ·) := by
  have hne : command.source ++ ' ' :: '|' :: behind ≠ [] := by simp
  rw [pipeline, if_neg hne, piped]
  simp only [scan_piped h]
  generalize String.ofList (command.source ++ ' ' :: '|' :: behind) = body
  rw [toOption_scan "" body]
  cases Token.scan body behind with
  | error fault => rfl
  | ok tokens =>
      simp only [Except.map, stages_append command.pipe_not_mem_tokens, commands,
        Command.ofTokens_tokens h, toOption_ok, Option.bind_some, toOption_commands "" body]
      cases commands body (stages tokens) with
      | error fault => rfl
      | ok found =>
          simp only [List.drop_succ_cons, List.drop_zero, toOption_ok]
          by_cases hcalls : found.all Command.isCall = true
          · rw [if_pos hcalls, Option.filter_some, if_pos hcalls]
            rfl
          · rw [if_neg hcalls, Option.filter_some, if_neg hcalls]
            rfl

/-!
# Sources
-/

/-- The search for the end of an action passes over the first command and the pipe sign, and the
markers inside the delimiters do not touch them. -/
theorem next?_piped {chars : List Char} {tokens : List Token} (h : Row chars tokens)
    (behind : List Char) :
    Span.next? ('\x7b' :: '\x7b' :: ' ' :: (chars ++ ' ' :: '|' :: behind)) =
      match Span.splitClose none behind with
      | none => .error .unclosedAction
      | some (body, rest) =>
          .ok (some ([], ⟨false, (Span.rightMarker body).1,
            some (' ' :: (chars ++ ' ' :: '|' :: (Span.rightMarker body).2))⟩, rest)) := by
  have hopen : Span.splitOpen ('\x7b' :: '\x7b' :: ' ' :: (chars ++ ' ' :: '|' :: behind)) =
      some ([], ' ' :: (chars ++ ' ' :: '|' :: behind)) := rfl
  have hsplit : Span.splitClose none (' ' :: (chars ++ ' ' :: '|' :: behind)) =
      (Span.splitClose none behind).map fun found =>
        (' ' :: (chars ++ ' ' :: '|' :: found.1), found.2) := by
    have hspace : Passes (Span.splitClose none) [' '] :=
      Span.passes_splitClose_singleton (by decide) (by decide)
    simpa using hspace.append (h.append (.single .pipe)).passes_splitClose behind
  have hend : forall body, Span.rightMarker (' ' :: (chars ++ ' ' :: '|' :: body)) =
      ((Span.rightMarker body).1, ' ' :: (chars ++ ' ' :: '|' :: (Span.rightMarker body).2)) := by
    intro body
    have hpipe := Span.rightMarker_append_cons (c := '|') (by decide) (by decide)
      (' ' :: (chars ++ [' '])) body
    simpa using hpipe
  rcases h.starts with ⟨c, tail, rfl, hblank, hslash⟩
  rw [Span.next?, hopen]
  simp only [List.cons_append, Span.ofOpen_space hblank hslash] at hsplit hend ⊢
  rw [hsplit]
  cases Span.splitClose none behind with
  | none => rfl
  | some found => simp only [Option.map_some, hend]

theorem trim_piped {chars : List Char} {tokens : List Token} (h : Row chars tokens)
    (inner : List Char) :
    Text.trim (' ' :: (chars ++ ' ' :: '|' :: inner)) =
      chars ++ ' ' :: '|' :: Text.trimEnd inner := by
  have hend : Text.trimEnd (chars ++ ' ' :: '|' :: inner) =
      chars ++ ' ' :: '|' :: Text.trimEnd inner := by
    have hpipe := Text.trimEnd_append_cons (c := '|') (by decide) (chars ++ [' ']) inner
    simpa using hpipe
  rcases h.starts with ⟨c, tail, rfl, hblank, _⟩
  rw [Text.trim, Text.trimStart_cons_of_blank (by decide), List.cons_append,
    Text.trimStart_cons_of_not_blank hblank]
  exact hend

theorem toOption_parseFrom {trimNext : Bool} {source text rest : List Char} {span : Span}
    (h : Span.next? source = .ok (some (text, span, rest))) :
    (parseFrom trimNext source).toOption =
      (spanNode span).toOption.bind fun nodes =>
        (parseFrom span.trimRight rest).toOption.map
          (textNode trimNext span.trimLeft text ++ nodes ++ ·) := by
  cases hspan : spanNode span with
  | error fault =>
      rw [parseFrom_eq, h]
      simp only [hspan]
      rfl
  | ok nodes =>
      rw [parseFrom_of_some h hspan, toOption_map]
      rfl

/-- What is read behind the first pipe sign of an action: the other commands and the template
behind the action. -/
def continuation (behind : List Char) : Option (List Command × Template) :=
  (Span.splitClose none behind).bind fun found =>
    (piped (Text.trimEnd (Span.rightMarker found.1).2)).bind fun rest =>
      (parseFrom (Span.rightMarker found.1).1 found.2).toOption.map fun more => (rest, more)

theorem toOption_parseFrom_piped {command : Command} (h : command.WellFormed)
    (behind : List Char) :
    (parseFrom false
        ('\x7b' :: '\x7b' :: ' ' :: (command.source ++ ' ' :: '|' :: behind))).toOption =
      (continuation behind).map fun found => .action (command :: found.1) :: found.2 := by
  have hrow := Command.row h
  have hnext := next?_piped hrow behind
  rw [continuation]
  cases hclose : Span.splitClose none behind with
  | none =>
      rw [hclose] at hnext
      rw [parseFrom_eq, hnext]
      rfl
  | some found =>
      rw [hclose] at hnext
      rw [toOption_parseFrom hnext]
      simp only [spanNode, trim_piped hrow, toOption_map, toOption_pipeline h]
      simp [Option.bind_map, Option.map_bind, textNode, Function.comp_def]

theorem toOption_parse_piped {command : Command} (h : command.WellFormed) (call : String) :
    (parse ("\x7b\x7b " ++ String.ofList command.source ++ " | " ++ call ++
        " \x7d\x7d")).toOption =
      (continuation (' ' :: (call.toList ++ [' ', '\x7d', '\x7d']))).map fun found =>
        .action (command :: found.1) :: found.2 := by
  rw [← toOption_parseFrom_piped h, parse]
  simp

/-!
# Sources with the same output
-/

/-- Both sources have the same output, or neither has any. -/
def RenderAlike (root : Json) (first second : String) : Prop :=
  (exists text, render first root = .ok text ∧ render second root = .ok text) ∨
    (exists fault, render first root = .error fault) ∧
      exists reason, render second root = .error reason

theorem toOption_render (source : String) (root : Json) :
    (render source root).toOption =
      (parse source).toOption.bind fun template => (execute root template).toOption := by
  cases hparse : parse source with
  | error fault =>
      rw [render_of_unparsed hparse]
      rfl
  | ok template =>
      rw [render_of_parsed hparse]
      simp only [toOption_ok, Option.bind_some]
      cases execute root template <;> rfl

/-- Commands with the same values may stand for each other as the first command of an action. -/
theorem renderAlike_commands {root : Json} {command other : Command}
    (hcommand : command.WellFormed) (hother : other.WellFormed)
    (h : (command.eval root []).toOption = (other.eval root []).toOption) :
    RenderAlike root ("\x7b\x7b " ++ String.ofList command.source ++ " \x7d\x7d")
        ("\x7b\x7b " ++ String.ofList other.source ++ " \x7d\x7d") ∧
      forall call : String,
        RenderAlike root
          ("\x7b\x7b " ++ String.ofList command.source ++ " | " ++ call ++ " \x7d\x7d")
          ("\x7b\x7b " ++ String.ofList other.source ++ " | " ++ call ++ " \x7d\x7d") := by
  constructor
  · apply toOption_eq_iff.mp
    rw [toOption_render, toOption_render, parse_command hcommand, parse_command hother]
    exact toOption_execute h [] []
  · intro call
    apply toOption_eq_iff.mp
    rw [toOption_render, toOption_render, toOption_parse_piped hcommand,
      toOption_parse_piped hother]
    cases continuation (' ' :: (call.toList ++ [' ', '\x7d', '\x7d'])) with
    | none => rfl
    | some found => exact toOption_execute h found.1 found.2

/-- A chain of field names. -/
def chainText (names : List String) : String := String.join (names.map fun name => "." ++ name)

/-- A call of `index` with the root and names. -/
def indexText (names : List String) : String :=
  "index ." ++ String.join (names.map fun name => " \"" ++ name ++ "\"")

theorem chainText_eq (names : List String) :
    chainText names = String.ofList (Command.operand (.field names)).source := by
  apply String.toList_inj.mp
  simp [chainText, Command.source, Operand.source, List.flatMap_map]

theorem escapeChar_of_isPlain {c : Char} (h : isPlain c = true) : Json.escapeChar c = [c] := by
  have hcontrol : ¬ c.toNat < 0x20 := by
    have hcode := toNat_of_isPlain h
    omega
  have hne : forall d, isPlain d = false -> c ≠ d := fun _ hd => ne_of_isPlain h hd
  simp [Json.escapeChar, hcontrol, hne '"' (by decide), hne '\\' (by decide),
    hne '\x08' (by decide), hne '\x0c' (by decide), hne '\n' (by decide), hne '\r' (by decide),
    hne '\t' (by decide)]

/-- No character of an identifier is escaped in its literal. -/
theorem quote_of_isIdentifier {name : String} (h : isIdentifier name.toList = true) :
    Json.quote name = '"' :: (name.toList ++ ['"']) := by
  have hplain : name.toList.flatMap Json.escapeChar = name.toList.flatMap fun c => [c] := by
    apply List.flatMap_congr
    intro c hc
    exact escapeChar_of_isPlain
      (isPlain_of_continuesIdentifier (continuesIdentifier_of_isIdentifier h hc))
  rw [Json.quote, hplain, List.flatMap_singleton']

theorem indexText_eq {names : List String}
    (h : forall name, name ∈ names -> isIdentifier name.toList = true) :
    indexText names = String.ofList (indexCall names).source := by
  have hquotes : (names.flatMap fun name => ' ' :: Json.quote name) =
      names.flatMap fun name => ' ' :: '"' :: (name.toList ++ ['"']) := by
    apply List.flatMap_congr
    intro name hname
    rw [quote_of_isIdentifier (h name hname)]
  apply String.toList_inj.mp
  simp [indexText, indexCall, Command.source, Function.name, argumentsSource, Operand.source,
    Literal.source, List.flatMap_map, hquotes]

theorem wellFormed_indexCall (names : List String) : (indexCall names).WellFormed := by
  intro argument hargument
  rcases List.mem_cons.mp hargument with rfl | hargument
  · trivial
  · rcases List.mem_map.mp hargument with ⟨name, _, rfl⟩
    trivial

/-- A chain of field names and `index` with these names render alike for every root, alone and in
front of whatever they are piped into. -/
theorem chain_and_index_render_alike (names : List String) (hne : names ≠ [])
    (hnames : forall name, name ∈ names -> isIdentifier name.toList = true) (root : Json) :
    RenderAlike root ("\x7b\x7b " ++ chainText names ++ " \x7d\x7d")
        ("\x7b\x7b " ++ indexText names ++ " \x7d\x7d") ∧
      forall call : String,
        RenderAlike root ("\x7b\x7b " ++ chainText names ++ " | " ++ call ++ " \x7d\x7d")
          ("\x7b\x7b " ++ indexText names ++ " | " ++ call ++ " \x7d\x7d") := by
  have hchain : (Command.operand (.field names)).WellFormed := ⟨hne, hnames⟩
  rw [chainText_eq, indexText_eq hnames]
  exact renderAlike_commands hchain (wellFormed_indexCall names) (toOption_eval_field root names)

/-- The two forms find the same user, and in an array both fail, each with its own words. -/
theorem user_renders_alike :
    (RenderAlike (.object [("db", .object [("user", .string "ana")])])
        "\x7b\x7b .db.user | upper \x7d\x7d"
        "\x7b\x7b index . \"db\" \"user\" | upper \x7d\x7d" ∧
      render "\x7b\x7b index . \"db\" \"user\" | upper \x7d\x7d"
        (.object [("db", .object [("user", .string "ana")])]) = .ok "ANA") ∧
    RenderAlike (.array []) "\x7b\x7b .db.user \x7d\x7d"
        "\x7b\x7b index . \"db\" \"user\" \x7d\x7d" ∧
      render "\x7b\x7b .db.user \x7d\x7d" (.array []) =
        .error (.execute (.noField "db" "array")) ∧
      render "\x7b\x7b index . \"db\" \"user\" \x7d\x7d" (.array []) =
        .error (.execute (.notIndexable "array" "string")) := by
  have hidentifiers : forall name, name ∈ ["db", "user"] -> isIdentifier name.toList = true := by
    decide
  have halike := chain_and_index_render_alike ["db", "user"] (List.cons_ne_nil _ _) hidentifiers
  have hchain : chainText ["db", "user"] = ".db.user" := by decide +kernel
  have hindex : indexText ["db", "user"] = "index . \"db\" \"user\"" := by decide +kernel
  rw [hchain, hindex] at halike
  exact ⟨⟨(halike _).2 "upper", by decide +kernel⟩, (halike _).1, by decide +kernel,
    by decide +kernel⟩

end Template

end SecretProjection
