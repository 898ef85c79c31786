import SecretProjection.Template.Parser
import SecretProjection.Text.LetterCase

/-!
# Output of templates

The output of a template is the concatenation of its texts and of the printable forms of its
pipelines.  A key that an object lacks has the value null, which has no printable form but may be
replaced by `default`.
-/

namespace SecretProjection

namespace Template

/-! ## Values -/

def kind : Json -> String
  | .null => "nil"
  | .bool _ => "bool"
  | .number _ => "number"
  | .string _ => "string"
  | .array _ => "array"
  | .object _ => "map"

/-- The printable form of a value.  A string stands for itself and null has none. -/
def printable : Json -> Except EvalFault String
  | .null => .error .noValue
  | .string text => .ok text
  | value => .ok value.compact

/-- Whether `default` replaces a value. -/
def isEmpty : Json -> Bool
  | .null => true
  | .bool value => !value
  | .number n => n.isZero
  | .string text => text.isEmpty
  | .array items => items.isEmpty
  | .object members => members.isEmpty

def Literal.value : Literal -> Json
  | .string text => .string text
  | .integer n => .ofInt n
  | .bool b => .bool b
  | .nil => .null

/-- The value that a chain of field names leads to. -/
def lookup : List String -> Json -> Except EvalFault Json
  | [], value => .ok value
  | name :: names, value =>
      match value with
      | .object members => lookup names ((Entries.find? name members).getD .null)
      | .null => lookup names .null
      | other => .error (.noField name (kind other))

def Operand.eval (root : Json) : Operand -> Except EvalFault Json
  | .root => .ok root
  | .field names => lookup names root
  | .literal value => .ok value.value

/-! ## Functions -/

def indexInto : Json -> List Json -> Except EvalFault Json
  | value, [] => .ok value
  | value, key :: keys =>
      match value, key with
      | .object members, .string name =>
          indexInto ((Entries.find? name members).getD .null) keys
      | .array items, .number (.integer n) =>
          if 0 ≤ n then
            match items[n.toNat]? with
            | some item => indexInto item keys
            | none => .error (.outOfRange (.integer n))
          else .error (.outOfRange (.integer n))
      | .array _, .number n => .error (.outOfRange n)
      | .null, _ => indexInto .null keys
      | value, key => .error (.notIndexable (kind value) (kind key))

/-- Fills the verbs of a format with values from left to right. -/
def format : List Char -> List Json -> Except EvalFault (List Char)
  | [], [] => .ok []
  | [], _ :: _ => .error .tooManyArguments
  | '%' :: rest, values =>
      match rest with
      | [] => .error .trailingPercent
      | verb :: rest =>
          if verb = '%' then (format rest values).map ('%' :: ·)
          else if verb = 's' ∨ verb = 'v' ∨ verb = 'd' then
            match values with
            | [] => .error (.missingArgument verb)
            | value :: values =>
                match verb, value with
                | 'd', .number (.integer n) =>
                    (format rest values).map ((toString n).toList ++ ·)
                | 'd', value => .error (.notAnInteger value)
                | _, value =>
                    match printable value with
                    | .error fault => .error fault
                    | .ok text => (format rest values).map (text.toList ++ ·)
          else .error (.unsupportedVerb verb)
  | c :: rest, values => (format rest values).map (c :: ·)

/-- Applies a function of one printable argument. -/
def onText (function : Function) (arguments : List Json)
    (f : String -> Except EvalFault String) : Except EvalFault Json :=
  match arguments with
  | [argument] =>
      match printable argument with
      | .error fault => .error fault
      | .ok text => (f text).map .string
  | _ => .error (.wrongArguments function 1 arguments.length)

/-- The text that a base64 spelling stands for. -/
def decodeBase64 (spelling : String) : Except EvalFault String :=
  match Text.Base64.decode (Text.Utf8.encode spelling) with
  | .error fault => .error (.badEncoding fault)
  | .ok bytes =>
      match Text.Utf8.decode bytes with
      | .error fault => .error (.badText fault)
      | .ok text => .ok text

def Function.apply (function : Function) (arguments : List Json) : Except EvalFault Json :=
  match function with
  | .index =>
      match arguments with
      | [] => .error (.noArguments .index)
      | collection :: keys => indexInto collection keys
  | .default =>
      match arguments with
      | [fallback, given] => .ok (if isEmpty given then fallback else given)
      | _ => .error (.wrongArguments .default 2 arguments.length)
  | .b64enc =>
      onText .b64enc arguments fun text =>
        .ok (String.ofList (Text.Base64.encode (Text.Utf8.encode text)))
  | .b64dec => onText .b64dec arguments decodeBase64
  | .upper => onText .upper arguments fun text => .ok (Text.upper text)
  | .lower => onText .lower arguments fun text => .ok (Text.lower text)
  | .trim => onText .trim arguments fun text => .ok (Text.trimString text)
  | .quote => onText .quote arguments fun text => .ok (String.ofList (Json.quote text))
  | .toJson =>
      match arguments with
      | [argument] => .ok (.string argument.compact)
      | _ => .error (.wrongArguments .toJson 1 arguments.length)
  | .printf =>
      match arguments with
      | [] => .error (.noArguments .printf)
      | layout :: values =>
          match printable layout with
          | .error fault => .error fault
          | .ok layout =>
              (format layout.toList values).map fun text => .string (String.ofList text)

/-! ## Pipelines -/

def evalOperands (root : Json) : List Operand -> Except EvalFault (List Json)
  | [] => .ok []
  | operand :: rest =>
      match operand.eval root with
      | .error fault => .error fault
      | .ok value => (evalOperands root rest).map (value :: ·)

/-- The value of a command that the values of earlier commands are piped into. -/
def Command.eval (root : Json) (piped : List Json) : Command -> Except EvalFault Json
  | .operand argument => argument.eval root
  | .call function arguments =>
      match evalOperands root arguments with
      | .error fault => .error fault
      | .ok values => function.apply (values ++ piped)

/-- The value of the last command of a pipeline. -/
def evalPipeline (root : Json) (piped : List Json) : List Command -> Except EvalFault Json
  | [] =>
      match piped with
      | [] => .error .emptyPipeline
      | value :: _ => .ok value
  | command :: rest =>
      match command.eval root piped with
      | .error fault => .error fault
      | .ok value => evalPipeline root [value] rest

/-! ## Templates -/

def Node.output (root : Json) : Node -> Except EvalFault String
  | .text literal => .ok literal
  | .action commands =>
      match evalPipeline root [] commands with
      | .error fault => .error fault
      | .ok value => printable value

/-- The output of a template for the data `root`. -/
def execute (root : Json) : Template -> Except EvalFault String
  | [] => .ok ""
  | node :: rest =>
      match node.output root with
      | .error fault => .error fault
      | .ok text => (execute root rest).map (text ++ ·)

/-- The output of a source for the data `root`. -/
def render (source : String) (root : Json) : Except Fault String :=
  match parse source with
  | .error fault => .error (.parse fault)
  | .ok template =>
      match execute root template with
      | .error fault => .error (.execute fault)
      | .ok text => .ok text

end Template

end SecretProjection
