import SecretProjection.Json.Printer
import SecretProjection.Text.Base64

/-!
# Templates

A template is a list of literal texts and actions.  An action is a pipeline: the value of each
command is the last argument of the next one.  Besides the values of the data, reached by chains
of field names from the root, there are literals and ten functions.

The faults of reading and of evaluating a template are listed here together with their wording.
-/

namespace SecretProjection

/-! ## Trees -/

namespace Template

inductive Function where
  | index
  | default
  | b64enc
  | b64dec
  | upper
  | lower
  | trim
  | quote
  | toJson
  | printf
  deriving DecidableEq, Repr

/-- The name under which a template calls the function. -/
def Function.name : Function -> String
  | .index => "index"
  | .default => "default"
  | .b64enc => "b64enc"
  | .b64dec => "b64dec"
  | .upper => "upper"
  | .lower => "lower"
  | .trim => "trim"
  | .quote => "quote"
  | .toJson => "toJson"
  | .printf => "printf"

def Function.all : List Function :=
  [.index, .default, .b64enc, .b64dec, .upper, .lower, .trim, .quote, .toJson, .printf]

def Function.ofName? (name : String) : Option Function :=
  Function.all.find? fun f => f.name == name

theorem Function.mem_all (f : Function) : f ∈ Function.all := by
  cases f <;> decide

theorem Function.ofName?_name (f : Function) : Function.ofName? f.name = some f := by
  cases f <;> decide

inductive Literal where
  | string (text : String)
  | integer (value : Int)
  | bool (value : Bool)
  | nil
  deriving DecidableEq, Repr

inductive Operand where
  | root
  | field (names : List String)
  | literal (value : Literal)
  deriving DecidableEq, Repr

inductive Command where
  | operand (operand : Operand)
  | call (function : Function) (arguments : List Operand)
  deriving DecidableEq, Repr

inductive Node where
  | text (text : String)
  | action (pipeline : List Command)
  deriving DecidableEq, Repr

end Template

abbrev Template := List Template.Node

namespace Template

/-! ## Faults -/

inductive ParseFault where
  | unclosedAction
  | unclosedComment
  | commentEnd
  | missingCommand
  | unclosedString (body : String)
  | badLiteral (message : String)
  | unclosedRawString (body : String)
  | emptyCommand (body : String)
  | undefinedFunction (name : String)
  | unexpectedArguments (body : String)
  | notAFunction (body : String)
  | unexpectedPipe
  | badFieldChain (word : String)
  | unexpectedOperand (word : String)
  deriving DecidableEq, Repr

def ParseFault.message : ParseFault -> String
  | .unclosedAction => "unclosed action"
  | .unclosedComment => "unclosed comment"
  | .commentEnd => "comment ends before closing delimiter"
  | .missingCommand => "missing value for command"
  | .unclosedString body => "unterminated string in '" ++ body ++ "'"
  | .badLiteral message => "invalid string literal: " ++ message
  | .unclosedRawString body => "unterminated raw string in '" ++ body ++ "'"
  | .emptyCommand body => "empty command in pipeline '" ++ body ++ "'"
  | .undefinedFunction name => "function \"" ++ name ++ "\" not defined"
  | .unexpectedArguments body => "unexpected arguments in '" ++ body ++ "'"
  | .notAFunction body => "non-function in pipeline '" ++ body ++ "'"
  | .unexpectedPipe => "unexpected '|'"
  | .badFieldChain word => "bad field chain '" ++ word ++ "'"
  | .unexpectedOperand word => "unexpected '" ++ word ++ "' in operand"

inductive EvalFault where
  | noValue
  | noField (name kind : String)
  | wrongArguments (function : Function) (wanted got : Nat)
  | noArguments (function : Function)
  | outOfRange (index : JsonNumber)
  | notIndexable (collection key : String)
  | badEncoding (fault : Text.Base64.Fault)
  | badText (fault : Text.Utf8.Fault)
  | missingArgument (verb : Char)
  | notAnInteger (got : Json)
  | unsupportedVerb (verb : Char)
  | trailingPercent
  | tooManyArguments
  | emptyPipeline
  deriving DecidableEq, Repr

def EvalFault.message : EvalFault -> String
  | .noValue => "value is missing (no value)"
  | .noField name kind => "can't evaluate field " ++ name ++ " in type " ++ kind
  | .wrongArguments function wanted got =>
      "wrong number of args for " ++ function.name ++ ": want " ++ toString wanted ++ " got " ++
        toString got
  | .noArguments function =>
      "wrong number of args for " ++ function.name ++ ": want at least 1 got 0"
  | .outOfRange index => "index out of range: " ++ index.text
  | .notIndexable collection key =>
      "can't index item of type " ++ collection ++ " with " ++ key
  | .badEncoding fault => "b64dec: " ++ fault.message
  | .badText fault => "b64dec: " ++ fault.message
  | .missingArgument verb => "printf: missing argument for %" ++ String.singleton verb
  | .notAnInteger got => "printf: %d needs an integer, got " ++ got.compact
  | .unsupportedVerb verb => "printf: unsupported verb %" ++ String.singleton verb
  | .trailingPercent => "printf: trailing %"
  | .tooManyArguments => "printf: too many arguments"
  | .emptyPipeline => "empty pipeline"

inductive Fault where
  | parse (fault : ParseFault)
  | execute (fault : EvalFault)
  deriving DecidableEq, Repr

def Fault.message : Fault -> String
  | .parse fault => fault.message
  | .execute fault => fault.message

end Template

end SecretProjection
