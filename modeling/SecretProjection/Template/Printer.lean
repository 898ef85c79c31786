import SecretProjection.Template.Basic

/-!
# Writing templates

Every template has one canonical source: tokens stand one space apart, stages are joined by pipe
signs between spaces, and texts are written as JSON literals.
-/

namespace SecretProjection

namespace Template

/-! ## Operands -/

def integerSource : Int -> List Char
  | .ofNat n => Nat.toDigits 10 n
  | .negSucc n => '-' :: Nat.toDigits 10 (n + 1)

def Literal.source : Literal -> List Char
  | .string text => Json.quote text
  | .integer value => integerSource value
  | .bool true => "true".toList
  | .bool false => "false".toList
  | .nil => "nil".toList

def Operand.source : Operand -> List Char
  | .root => ['.']
  | .field names => names.flatMap fun name => '.' :: name.toList
  | .literal value => value.source

/-! ## Pipelines -/

/-- The source of arguments, each behind a space. -/
def argumentsSource (arguments : List Operand) : List Char :=
  arguments.flatMap fun operand => ' ' :: operand.source

def Command.source : Command -> List Char
  | .operand value => value.source
  | .call function arguments => function.name.toList ++ argumentsSource arguments

def pipelineSource : List Command -> List Char
  | [] => []
  | [command] => command.source
  | command :: next :: rest => command.source ++ ' ' :: '|' :: ' ' :: pipelineSource (next :: rest)

/-! ## Templates -/

def Node.source : Node -> List Char
  | .text content => content.toList
  | .action pipeline =>
      '\x7b' :: '\x7b' :: ' ' :: (pipelineSource pipeline ++ [' ', '\x7d', '\x7d'])

def source (template : Template) : String := String.ofList (template.flatMap Node.source)

end Template

end SecretProjection
