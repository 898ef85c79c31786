import Mathlib.Data.List.Chain
import SecretProjection.Proofs.Digits
import SecretProjection.Proofs.Tokens
import SecretProjection.Template.Eval
import SecretProjection.Template.Printer

/-!
# Reading canonical sources

Reading undoes writing: the canonical source of a well-formed template is read as that template.
What is written for a pipeline is a row of tokens, so that the search for its end, the trimming and
the scanning are those of rows, and only the tokens are left to be understood.
-/

namespace SecretProjection

namespace Template

/-! ## Well-formed templates

These are the trees whose source shows where each node starts and ends: texts lie between actions
and hold no opening delimiter.  Of a pipeline only the first command may be an operand. -/

def Operand.WellFormed : Operand -> Prop
  | .root => True
  | .field names => names ≠ [] ∧ forall name, name ∈ names -> isIdentifier name.toList = true
  | .literal (.integer n) => -2 ^ 63 ≤ n ∧ n < 2 ^ 63
  | .literal _ => True

def Command.WellFormed : Command -> Prop
  | .operand value => value.WellFormed
  | .call _ arguments => forall argument, argument ∈ arguments -> argument.WellFormed

structure WellFormedPipeline (pipeline : List Command) : Prop where
  nonempty : pipeline ≠ []
  commands : forall command, command ∈ pipeline -> command.WellFormed
  calls : forall command, command ∈ pipeline.tail -> command.isCall = true

def Node.WellFormed : Node -> Prop
  | .text content => content.toList ≠ [] ∧ ¬ ['\x7b', '\x7b'] <:+: content.toList
  | .action pipeline => WellFormedPipeline pipeline

/-- Whether two nodes may be neighbours: two texts would be one, and a brace at the end of a text
would move the opening delimiter behind it. -/
def Node.MayPrecede : Node -> Node -> Prop
  | .text _, .text _ => False
  | .text content, .action _ => content.toList.getLast? ≠ some '\x7b'
  | .action _, _ => True

structure WellFormed (template : Template) : Prop where
  nodes : forall node, node ∈ template -> node.WellFormed
  neighbours : template.IsChain Node.MayPrecede

instance (operand : Operand) : Decidable operand.WellFormed :=
  match operand with
  | .root => .isTrue trivial
  | .field _ => inferInstanceAs (Decidable (_ ∧ _))
  | .literal (.integer _) => inferInstanceAs (Decidable (_ ∧ _))
  | .literal (.string _) => .isTrue trivial
  | .literal (.bool _) => .isTrue trivial
  | .literal .nil => .isTrue trivial

instance (command : Command) : Decidable command.WellFormed :=
  match command with
  | .operand value => inferInstanceAs (Decidable value.WellFormed)
  | .call _ arguments => inferInstanceAs (Decidable (forall argument, argument ∈ arguments -> _))

instance (pipeline : List Command) : Decidable (WellFormedPipeline pipeline) :=
  decidable_of_iff
    (pipeline ≠ [] ∧ (forall command, command ∈ pipeline -> command.WellFormed) ∧
      forall command, command ∈ pipeline.tail -> command.isCall = true)
    ⟨fun h => ⟨h.1, h.2.1, h.2.2⟩, fun h => ⟨h.nonempty, h.commands, h.calls⟩⟩

instance (node : Node) : Decidable node.WellFormed :=
  match node with
  | .text _ => inferInstanceAs (Decidable (_ ∧ _))
  | .action pipeline => inferInstanceAs (Decidable (WellFormedPipeline pipeline))

instance (node next : Node) : Decidable (node.MayPrecede next) :=
  match node, next with
  | .text _, .text _ => .isFalse id
  | .text _, .action _ => inferInstanceAs (Decidable (_ ≠ _))
  | .action _, _ => .isTrue trivial

instance (template : Template) : Decidable (WellFormed template) :=
  decidable_of_iff
    ((forall node, node ∈ template -> node.WellFormed) ∧ template.IsChain Node.MayPrecede)
    ⟨fun h => ⟨h.1, h.2⟩, fun h => ⟨h.nodes, h.neighbours⟩⟩

/-! ## Words

Identifiers, chains of field names and integers are written with plain characters only, and no two
of these kinds share a word. -/

theorem isPlain_of_isDigit {c : Char} (h : Text.isDigit c = true) : isPlain c = true := by
  rw [Text.isDigit_eq] at h
  simp [isPlain, Char.isAlphanum, h]

theorem not_startsIdentifier_of_isDigit {c : Char} (h : Text.isDigit c = true) :
    startsIdentifier c = false := by
  rcases Text.toNat_of_isDigit h with ⟨hlow, hhigh⟩
  have hunderscore : c ≠ '_' := by
    rintro rfl
    cases h
  have hletter : c.isAlpha = false := by
    rw [← Bool.not_eq_true]
    intro halpha
    have hcode := Text.toNat_of_isAlpha halpha
    omega
  simp [startsIdentifier, hletter, hunderscore]

theorem isPlain_of_continuesIdentifier {c : Char} (h : continuesIdentifier c = true) :
    isPlain c = true := by
  rcases Bool.or_eq_true _ _ |>.mp h with halpha | hunderscore
  · simp [isPlain, halpha]
  · simp [isPlain, hunderscore]

theorem continuesIdentifier_of_isIdentifier {word : List Char} (h : isIdentifier word = true)
    {c : Char} (hc : c ∈ word) : continuesIdentifier c = true := by
  cases word with
  | nil => cases hc
  | cons first rest =>
      rcases Bool.and_eq_true _ _ |>.mp h with ⟨hfirst, hrest⟩
      rcases List.mem_cons.mp hc with rfl | hc
      · rcases Bool.or_eq_true _ _ |>.mp hfirst with halpha | hunderscore
        · simp [continuesIdentifier, Char.isAlphanum, halpha]
        · simp [continuesIdentifier, hunderscore]
      · exact List.all_eq_true.mp hrest c hc

theorem not_dot_mem_of_isIdentifier {word : List Char} (h : isIdentifier word = true) :
    '.' ∉ word := by
  intro hdot
  cases continuesIdentifier_of_isIdentifier h hdot

theorem ofList_cons_ne {c : Char} {rest : List Char} {word : String}
    (h : word.toList.head? ≠ some c) : String.ofList (c :: rest) ≠ word := by
  rintro rfl
  simp at h

/-! ## Chains of field names -/

theorem splitAt_of_not_mem {separator : Char} {chars : List Char} (h : separator ∉ chars) :
    splitAt separator chars = [chars] := by
  induction chars with
  | nil => rfl
  | cons c chars ih =>
      rw [List.mem_cons, not_or] at h
      rw [splitAt, if_neg (Ne.symm h.1), ih h.2]

theorem splitAt_append {separator : Char} {chars : List Char} (h : separator ∉ chars)
    (rest : List Char) :
    splitAt separator (chars ++ separator :: rest) = chars :: splitAt separator rest := by
  induction chars with
  | nil => rw [List.nil_append, splitAt, if_pos rfl]
  | cons c chars ih =>
      rw [List.mem_cons, not_or] at h
      rw [List.cons_append, splitAt, if_neg (Ne.symm h.1), ih h.2]

/-- Cutting a chain at its dots gives the names back. -/
theorem splitAt_chain {name : String} {names : List String}
    (h : forall other, other ∈ name :: names -> '.' ∉ other.toList) :
    splitAt '.' (name.toList ++ names.flatMap fun name => '.' :: name.toList) =
      (name :: names).map String.toList := by
  induction names generalizing name with
  | nil =>
      rw [List.flatMap_nil, List.append_nil, splitAt_of_not_mem (h name List.mem_cons_self)]
      rfl
  | cons next names ih =>
      rw [List.flatMap_cons, List.cons_append, splitAt_append (h name List.mem_cons_self),
        ih fun other hother => h other (List.mem_cons_of_mem name hother)]
      rfl

theorem ofWord_field {names : List String} (h : (Operand.field names).WellFormed) :
    Operand.ofWord (String.ofList (Operand.field names).source) = .ok (.field names) := by
  rcases h with ⟨hne, hnames⟩
  rcases List.exists_cons_of_ne_nil hne with ⟨name, others, rfl⟩
  have hsplit := splitAt_chain fun other hother => not_dot_mem_of_isIdentifier (hnames other hother)
  have hall : ((name :: others).map String.toList).all isIdentifier = true := by
    rw [List.all_map]
    exact List.all_eq_true.mpr hnames
  have hback : ((name :: others).map String.toList).map String.ofList = name :: others := by
    simp [Function.comp_def]
  have hroot : String.ofList ('.' :: (name.toList ++ others.flatMap fun name => '.' :: name.toList))
      ≠ "." := by
    have hname := hnames name List.mem_cons_self
    intro heq
    have hnil : name.toList ++ others.flatMap (fun name => '.' :: name.toList) = [] := by
      simpa using congrArg String.toList heq
    rw [(List.append_eq_nil_iff.mp hnil).1] at hname
    cases hname
  rw [Operand.source, List.flatMap_cons, List.cons_append, Operand.ofWord, if_neg hroot,
    if_neg (ofList_cons_ne (by decide)), if_neg (ofList_cons_ne (by decide)),
    if_neg (ofList_cons_ne (by decide)), String.toList_ofList]
  simp only [hsplit, hall, hback, if_true]

/-! ## Integers -/

/-- What is written for an integer looks neither like a name nor like a chain of fields. -/
theorem integerSource_eq_cons (n : Int) :
    exists c rest, integerSource n = c :: rest ∧ startsIdentifier c = false ∧ c ≠ '.' := by
  cases n with
  | ofNat n =>
      rcases Text.paddedDigits_eq_cons 0 n with ⟨c, digits, hdigits, hc⟩
      rw [Text.paddedDigits_zero] at hdigits
      refine ⟨c, digits, hdigits, not_startsIdentifier_of_isDigit hc, ?_⟩
      rintro rfl
      cases hc
  | negSucc n => exact ⟨'-', Nat.toDigits 10 (n + 1), rfl, by decide, by decide⟩

theorem isPlain_of_mem_integerSource {n : Int} {c : Char} (h : c ∈ integerSource n) :
    isPlain c = true := by
  cases n with
  | ofNat n => exact isPlain_of_isDigit (Text.isDigit_of_mem_toDigits h)
  | negSucc n =>
      rcases List.mem_cons.mp h with rfl | hdigit
      · decide
      · exact isPlain_of_isDigit (Text.isDigit_of_mem_toDigits hdigit)

/-- An integer is read back when it fits 64 bits, the least one included. -/
theorem integer?_source {n : Int} (hbound : -Int.pow 2 63 ≤ n ∧ n < Int.pow 2 63) :
    integer? (integerSource n) = some n := by
  cases n with
  | ofNat n =>
      rcases Text.paddedDigits_eq_cons 0 n with ⟨c, digits, hdigits, hc⟩
      rw [Text.paddedDigits_zero] at hdigits
      have hvalue := Text.natural?_toDigits n
      rw [hdigits] at hvalue
      rw [integerSource, hdigits, integer?]
      · rw [hvalue, Option.bind_some]
        exact if_pos hbound
      -- A digit is neither of the two signs.
      · rintro _ ⟨⟩
        cases hc
      · rintro _ ⟨⟩
        cases hc
  | negSucc n =>
      rw [integerSource, integer?, Text.natural?_toDigits, Option.bind_some]
      exact if_pos hbound

theorem ofWord_integer {n : Int} (h : (Operand.literal (.integer n)).WellFormed) :
    Operand.ofWord (String.ofList (integerSource n)) = .ok (.literal (.integer n)) := by
  have hread := integer?_source h
  rcases integerSource_eq_cons n with ⟨c, rest, hsource, hstart, hdot⟩
  have hletter : forall d, startsIdentifier d = true -> some d ≠ some c := by
    rintro d hd ⟨⟩
    rw [hstart] at hd
    cases hd
  have hroot : String.ofList (c :: rest) ≠ "." :=
    ofList_cons_ne fun heq => hdot (Option.some.inj heq).symm
  have htrue : String.ofList (c :: rest) ≠ "true" := ofList_cons_ne (hletter 't' (by decide))
  have hfalse : String.ofList (c :: rest) ≠ "false" := ofList_cons_ne (hletter 'f' (by decide))
  have hnil : String.ofList (c :: rest) ≠ "nil" := ofList_cons_ne (hletter 'n' (by decide))
  rw [hsource] at hread ⊢
  rw [Operand.ofWord, if_neg hroot, if_neg htrue, if_neg hfalse, if_neg hnil,
    String.toList_ofList]
  split
  · rename_i chain hchain
    exact absurd (List.cons.inj hchain).1 hdot
  · rw [hread]

/-! ## Operands -/

/-- The token that is written for an operand. -/
def Operand.token : Operand -> Token
  | .literal (.string text) => .string text
  | operand => .word (String.ofList operand.source)

theorem Operand.piece {operand : Operand} (h : operand.WellFormed) :
    Piece operand.source operand.token := by
  cases operand with
  | root => exact .word (by decide) (List.all_eq_true.mp (by decide))
  | field names =>
      rcases h with ⟨hne, hnames⟩
      apply Piece.word
      · simpa [Operand.source, List.flatMap_eq_nil_iff] using
          List.exists_mem_of_ne_nil names hne
      · intro c hc
        rcases List.mem_flatMap.mp hc with ⟨name, hname, hc⟩
        rcases List.mem_cons.mp hc with rfl | hc
        · decide
        · exact isPlain_of_continuesIdentifier
            (continuesIdentifier_of_isIdentifier (hnames name hname) hc)
  | literal value =>
      cases value with
      | string text => exact .literal text
      | integer n =>
          rcases integerSource_eq_cons n with ⟨c, rest, hsource, _⟩
          apply Piece.word
          · rw [Operand.source, Literal.source, hsource]
            exact List.cons_ne_nil c rest
          · intro c hc
            exact isPlain_of_mem_integerSource hc
      | bool value => cases value <;> exact .word (by decide) (List.all_eq_true.mp (by decide))
      | nil => exact .word (by decide) (List.all_eq_true.mp (by decide))

theorem Operand.ofToken_token {operand : Operand} (h : operand.WellFormed) :
    Operand.ofToken operand.token = .ok operand := by
  cases operand with
  | root => rfl
  | field names => exact ofWord_field h
  | literal value =>
      cases value with
      | string text => rfl
      | integer n => exact ofWord_integer h
      | bool value => cases value <;> rfl
      | nil => rfl

theorem callee?_of_head {c : Char} {rest : List Char} (h : startsIdentifier c = false) :
    callee? (.word (String.ofList (c :: rest))) = none := by
  simp [callee?, isIdentifier, h]

/-- No operand is taken for the name of a function. -/
theorem Operand.callee?_token {operand : Operand} (h : operand.WellFormed) :
    callee? operand.token = none := by
  cases operand with
  | root => rfl
  | field names =>
      rcases List.exists_cons_of_ne_nil h.1 with ⟨name, others, rfl⟩
      exact callee?_of_head (by decide)
  | literal value =>
      cases value with
      | string text => rfl
      | integer n =>
          rcases integerSource_eq_cons n with ⟨c, rest, hsource, hstart, _⟩
          have htoken : (Operand.literal (.integer n)).token = .word (String.ofList (c :: rest)) :=
            congrArg (fun chars => Token.word (String.ofList chars)) hsource
          rw [htoken, callee?_of_head hstart]
      | bool value => cases value <;> rfl
      | nil => rfl

theorem operands_map_token {arguments : List Operand}
    (h : forall argument, argument ∈ arguments -> argument.WellFormed) :
    operands (arguments.map Operand.token) = .ok arguments := by
  induction arguments with
  | nil => rfl
  | cons argument rest ih =>
      rw [List.map_cons, operands, Operand.ofToken_token (h argument List.mem_cons_self),
        ih fun other hother => h other (List.mem_cons_of_mem argument hother)]
      rfl

theorem Operand.token_ne_pipe (operand : Operand) : operand.token ≠ .pipe := by
  unfold Operand.token
  split <;> exact Token.noConfusion

/-! ## Commands -/

def Command.tokens : Command -> List Token
  | .operand value => [value.token]
  | .call function arguments => .word function.name :: arguments.map Operand.token

theorem row_arguments {arguments : List Operand}
    (h : forall argument, argument ∈ arguments -> argument.WellFormed) {chars : List Char}
    {token : Token} (hpiece : Piece chars token) :
    Row (chars ++ argumentsSource arguments) (token :: arguments.map Operand.token) := by
  induction arguments generalizing chars token with
  | nil =>
      rw [argumentsSource, List.flatMap_nil, List.append_nil]
      exact .single hpiece
  | cons argument rest ih =>
      have hrest := ih (fun other hother => h other (List.mem_cons_of_mem argument hother))
        (Operand.piece (h argument List.mem_cons_self))
      exact .cons hpiece hrest

theorem piece_name (function : Function) :
    Piece function.name.toList (.word function.name) := by
  have hpiece : Piece function.name.toList (.word (String.ofList function.name.toList)) := by
    cases function <;> exact .word (by decide) (List.all_eq_true.mp (by decide))
  rwa [String.ofList_toList] at hpiece

theorem Command.row {command : Command} (h : command.WellFormed) :
    Row command.source command.tokens := by
  cases command with
  | operand value => exact .single (Operand.piece h)
  | call function arguments => exact row_arguments h (piece_name function)

theorem callee?_name (function : Function) :
    callee? (.word function.name) = some function.name := by
  cases function <;> rfl

theorem Command.ofTokens_tokens {command : Command} (h : command.WellFormed) (body : String) :
    Command.ofTokens body command.tokens = .ok command := by
  cases command with
  | operand value =>
      rw [Command.tokens, Command.ofTokens, Operand.callee?_token h]
      simp only [if_true]
      rw [Operand.ofToken_token h]
      rfl
  | call function arguments =>
      rw [Command.tokens, Command.ofTokens, callee?_name]
      simp only [Function.ofName?_name]
      rw [operands_map_token h]
      rfl

theorem Command.pipe_not_mem_tokens (command : Command) : Token.pipe ∉ command.tokens := by
  intro hpipe
  cases command with
  | operand value => exact value.token_ne_pipe (List.mem_singleton.mp hpipe).symm
  | call function arguments =>
      rcases List.mem_cons.mp hpipe with hname | hargument
      · cases hname
      · rcases List.mem_map.mp hargument with ⟨argument, _, htoken⟩
        exact argument.token_ne_pipe htoken

/-! ## Pipelines -/

def pipelineTokens : List Command -> List Token
  | [] => []
  | [command] => command.tokens
  | command :: next :: rest => command.tokens ++ .pipe :: pipelineTokens (next :: rest)

theorem row_pipeline {pipeline : List Command} (hne : pipeline ≠ [])
    (h : forall command, command ∈ pipeline -> command.WellFormed) :
    Row (pipelineSource pipeline) (pipelineTokens pipeline) := by
  induction pipeline with
  | nil => exact absurd rfl hne
  | cons command rest ih =>
      have hrow := Command.row (h command List.mem_cons_self)
      cases rest with
      | nil => exact hrow
      | cons next rest =>
          have hrest := ih (List.cons_ne_nil next rest)
            fun other hother => h other (List.mem_cons_of_mem command hother)
          exact hrow.append (.cons .pipe hrest)

theorem stages_of_not_mem {tokens : List Token} (h : Token.pipe ∉ tokens) :
    stages tokens = [tokens] := by
  induction tokens with
  | nil => rfl
  | cons token tokens ih =>
      rw [List.mem_cons, not_or] at h
      rw [stages, ih h.2]
      intro hpipe
      exact h.1 hpipe.symm

theorem stages_append {tokens : List Token} (h : Token.pipe ∉ tokens) (rest : List Token) :
    stages (tokens ++ .pipe :: rest) = tokens :: stages rest := by
  induction tokens with
  | nil => rfl
  | cons token tokens ih =>
      rw [List.mem_cons, not_or] at h
      rw [List.cons_append, stages, ih h.2]
      intro hpipe
      exact h.1 hpipe.symm

/-- Every stage holds the tokens of one command. -/
theorem stages_pipelineTokens {pipeline : List Command} (hne : pipeline ≠ []) :
    stages (pipelineTokens pipeline) = pipeline.map Command.tokens := by
  induction pipeline with
  | nil => exact absurd rfl hne
  | cons command rest ih =>
      cases rest with
      | nil => exact stages_of_not_mem command.pipe_not_mem_tokens
      | cons next rest =>
          rw [pipelineTokens, stages_append command.pipe_not_mem_tokens,
            ih (List.cons_ne_nil next rest)]
          rfl

theorem commands_map_tokens {pipeline : List Command}
    (h : forall command, command ∈ pipeline -> command.WellFormed) (body : String) :
    commands body (pipeline.map Command.tokens) = .ok pipeline := by
  induction pipeline with
  | nil => rfl
  | cons command rest ih =>
      rw [List.map_cons, commands, Command.ofTokens_tokens (h command List.mem_cons_self),
        ih fun other hother => h other (List.mem_cons_of_mem command hother)]
      rfl

theorem pipeline_source {commands : List Command} (h : WellFormedPipeline commands) :
    pipeline (pipelineSource commands) = .ok commands := by
  have hrow := row_pipeline h.nonempty h.commands
  have hne : pipelineSource commands ≠ [] := by
    rcases hrow.starts with ⟨c, tail, hsource, _⟩
    rw [hsource]
    exact List.cons_ne_nil c tail
  have hcalls : (commands.drop 1).all Command.isCall = true := by
    rw [List.drop_one]
    exact List.all_eq_true.mpr h.calls
  rw [pipeline, if_neg hne]
  simp only [hrow.scan, stages_pipelineTokens h.nonempty, commands_map_tokens h.commands, hcalls,
    if_true]

/-! ## Templates -/

/-- One step of reading, whatever it finds. -/
theorem parseFrom_eq (trimNext : Bool) (source : List Char) :
    parseFrom trimNext source =
      match Span.next? source with
      | .error fault => .error fault
      | .ok none => .ok (textNode trimNext false source)
      | .ok (some (text, span, rest)) =>
          match spanNode span with
          | .error fault => .error fault
          | .ok node =>
              (parseFrom span.trimRight rest).map
                (textNode trimNext span.trimLeft text ++ node ++ ·) := by
  rw [parseFrom]
  split
  · rename_i fault hnext
    simp only [hnext]
  · rename_i hnext
    simp only [hnext]
  · rename_i text span rest hnext
    cases hspan : spanNode span with
    | error fault => simp only [hnext, hspan]
    | ok nodes => simp only [hnext, hspan]

theorem parseFrom_of_none {trimNext : Bool} {text : List Char} (h : Span.next? text = .ok none) :
    parseFrom trimNext text = .ok (textNode trimNext false text) := by
  rw [parseFrom_eq, h]

theorem parseFrom_of_some {trimNext : Bool} {source text rest : List Char} {span : Span}
    {nodes : List Node} (h : Span.next? source = .ok (some (text, span, rest)))
    (hspan : spanNode span = .ok nodes) :
    parseFrom trimNext source =
      (parseFrom span.trimRight rest).map
        (textNode trimNext span.trimLeft text ++ nodes ++ ·) := by
  rw [parseFrom_eq, h]
  simp only [hspan]

/-- The text before an action and the action are read as the nodes they are. -/
theorem parseFrom_action {text : List Char} {commands : List Command}
    (htext : Passes Span.splitOpen text) (h : WellFormedPipeline commands) (rest : List Char) :
    parseFrom false (text ++ ((Node.action commands).source ++ rest)) =
      (parseFrom false rest).map (textNode false false text ++ [.action commands] ++ ·) := by
  have hrow := row_pipeline h.nonempty h.commands
  rcases hrow.starts with ⟨c, tail, hsource, hblank, hslash⟩
  rcases hrow.ends with ⟨front, d, hends, hlast⟩
  have hnext := Span.next?_spaced hblank hslash (hsource ▸ hrow.passes_splitClose) htext rest
  have htrim : Text.trim (' ' :: c :: (tail ++ [' '])) = pipelineSource commands := by
    rw [Text.trim_spaced (hsource.symm.trans hends) hblank hlast, hsource]
  have hspan : spanNode ⟨false, false, some (' ' :: c :: (tail ++ [' ']))⟩ =
      .ok [.action commands] := by
    simp only [spanNode, htrim, pipeline_source h]
    rfl
  have hsrc : (Node.action commands).source ++ rest =
      '\x7b' :: '\x7b' :: ' ' :: c :: (tail ++ ' ' :: '\x7d' :: '\x7d' :: rest) := by
    simp [Node.source, hsource]
  rw [hsrc, parseFrom_of_some hnext hspan]

theorem textNode_of_wellFormed {content : String} (h : (Node.text content).WellFormed) :
    textNode false false content.toList = [.text content] := by
  simp only [textNode, Bool.false_eq_true, if_false]
  rw [if_neg h.1, String.ofList_toList]

/-- A text before an action is a node of its own. -/
theorem parseFrom_text {content : String} {commands : List Command}
    (hcontent : (Node.text content).WellFormed)
    (hlast : content.toList.getLast? ≠ some '\x7b') (h : WellFormedPipeline commands)
    (rest : List Char) :
    parseFrom false (content.toList ++ ((Node.action commands).source ++ rest)) =
      (parseFrom false ((Node.action commands).source ++ rest)).map (.text content :: ·) := by
  have hpasses := Span.passes_splitOpen hcontent.2 hlast
  have halone := parseFrom_action Passes.nil h rest
  rw [List.nil_append] at halone
  rw [parseFrom_action hpasses h, textNode_of_wellFormed hcontent, halone]
  cases parseFrom false rest <;> rfl

/-- What holds no action is one text. -/
theorem parseFrom_of_not_infix {text : List Char} (h : ¬ ['\x7b', '\x7b'] <:+: text) :
    parseFrom false text = .ok (textNode false false text) := by
  apply parseFrom_of_none
  rw [Span.next?, Span.splitOpen_eq_none h]

theorem parseFrom_source {template : Template} (h : WellFormed template) :
    parseFrom false (template.flatMap Node.source) = .ok template := by
  rcases h with ⟨hnodes, hneighbours⟩
  induction template with
  | nil => exact parseFrom_of_not_infix (by decide)
  | cons node rest ih =>
      have hnode := hnodes node List.mem_cons_self
      have hrest := ih (fun other hother => hnodes other (List.mem_cons_of_mem node hother))
        hneighbours.of_cons
      cases node with
      | action commands =>
          have hstep := parseFrom_action Passes.nil hnode (rest.flatMap Node.source)
          rw [List.nil_append, hrest] at hstep
          exact hstep
      | text content =>
          cases rest with
          | nil =>
              rw [List.flatMap_cons, List.flatMap_nil, List.append_nil]
              rw [Node.source, parseFrom_of_not_infix hnode.2, textNode_of_wellFormed hnode]
          | cons next more =>
              have hnext := hnodes next (by simp)
              have hmay := (List.isChain_cons_cons.mp hneighbours).1
              cases next with
              | text other => exact absurd hmay id
              | action commands =>
                  -- Text and action are found together, so the action is put back in front of
                  -- the rest before the induction hypothesis applies.
                  have hstep := parseFrom_text hnode hmay hnext (more.flatMap Node.source)
                  rw [← List.flatMap_cons, hrest] at hstep
                  exact hstep

theorem parse_of_wellFormed {template : Template} (h : WellFormed template) :
    parse (source template) = .ok template := by
  rw [parse, source, String.toList_ofList, parseFrom_source h]

/-! ## Single actions -/

theorem parse_action {commands : List Command} (h : WellFormedPipeline commands) :
    parse ("\x7b\x7b " ++ String.ofList (pipelineSource commands) ++ " \x7d\x7d") =
      .ok [.action commands] := by
  have hsource : "\x7b\x7b " ++ String.ofList (pipelineSource commands) ++ " \x7d\x7d" =
      source [.action commands] := by
    apply String.toList_inj.mp
    simp [source, Node.source]
  rw [hsource]
  apply parse_of_wellFormed
  refine ⟨?_, .singleton _⟩
  intro node hnode
  rw [List.mem_singleton.mp hnode]
  exact h

theorem parse_command {command : Command} (h : command.WellFormed) :
    parse ("\x7b\x7b " ++ String.ofList command.source ++ " \x7d\x7d") =
      .ok [.action [command]] := by
  refine @parse_action [command] ⟨List.cons_ne_nil _ _, ?_, ?_⟩
  · intro other hother
    rw [List.mem_singleton.mp hother]
    exact h
  · intro other hother
    exact absurd hother List.not_mem_nil

theorem render_literal (text : String) (root : Json) :
    render ("\x7b\x7b " ++ String.ofList (Json.quote text) ++ " \x7d\x7d") root = .ok text := by
  have hparse := @parse_command (.operand (.literal (.string text))) trivial
  simp only [Command.source, Operand.source, Literal.source] at hparse
  rw [render, hparse]
  simp [execute, Node.output, evalPipeline, Command.eval, Operand.eval, Literal.value, printable,
    Except.map]

/-- Reading undoes writing for every well-formed template, and every string at all has a literal
that renders as the string. -/
theorem parse_source :
    (forall template : Template, WellFormed template ->
      parse (source template) = .ok template) ∧
    forall (text : String) (root : Json),
      render ("\x7b\x7b " ++ String.ofList (Json.quote text) ++ " \x7d\x7d") root = .ok text := by
  constructor
  · intro template h
    exact parse_of_wellFormed h
  · intro text root
    exact render_literal text root

/-- A template with a keyword for a field name, the least integer, delimiters, quotes and a control
character inside a literal, and braces in its texts. -/
def awkward : Template :=
  [.text "\x7d\x7d \x7b ", .action [.operand (.field ["nil", "_x1"])],
    .action [.call .printf [.literal (.string "%s\x7d\x7d\x7b\x7b|\x60\"\\\u0001é\n"), .root,
      .literal (.integer (-9223372036854775808))], .call .default [.literal .nil], .call .quote []],
    .text "\x7d-\x7b"]

theorem awkward_read_back : WellFormed awkward ∧ parse (source awkward) = .ok awkward :=
  ⟨by decide, parse_source.1 awkward (by decide)⟩

example : source awkward =
    "\x7d\x7d \x7b \x7b\x7b .nil._x1 \x7d\x7d\x7b\x7b printf \"%s\x7d\x7d\x7b\x7b|\x60\\\"" ++
    "\\\\\\u0001é\\n\" . -9223372036854775808 | default nil | quote \x7d\x7d\x7d-\x7b" := by
  decide +kernel

/-! A brace at the end of a text is taken for the first half of the delimiter behind it. -/

example : parse (source [.text "\x7b", .action [.operand .root]]) =
    .error (.unexpectedArguments "\x7b .") := by
  decide +kernel

end Template

end SecretProjection
