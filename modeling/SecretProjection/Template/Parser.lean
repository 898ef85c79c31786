import SecretProjection.Template.Span
import SecretProjection.Template.Token

/-!
# Reading templates

A source is cut into texts and spans from left to right.  White space of a text is dropped at a
side where a trim marker stands, and a text without characters left is no piece of the template.
The first fault from left to right is the one reported.
-/

namespace SecretProjection

namespace Template

/-! ## Words -/

/-- Whether a character may start an identifier: an ASCII letter or an underscore. -/
def startsIdentifier (c : Char) : Bool := c.isAlpha || c == '_'

def continuesIdentifier (c : Char) : Bool := c.isAlphanum || c == '_'

def isIdentifier : List Char -> Bool
  | [] => false
  | c :: rest => startsIdentifier c && rest.all continuesIdentifier

/-- Whether a word is a literal in spite of its form. -/
def isKeyword (word : String) : Bool := word == "true" || word == "false" || word == "nil"

def splitAt (separator : Char) : List Char -> List (List Char)
  | [] => [[]]
  | c :: rest =>
      if c = separator then [] :: splitAt separator rest
      else
        match splitAt separator rest with
        | [] => [[c]]
        | part :: parts => (c :: part) :: parts

/-- The integer of 64 bits that a word spells, with an optional sign. -/
def integer? (word : List Char) : Option Int :=
  let bounded (n : Int) : Option Int :=
    if -Int.pow 2 63 ≤ n ∧ n < Int.pow 2 63 then some n else none
  match word with
  | '-' :: digits => (Text.natural? digits).bind fun n => bounded (-(n : Int))
  | '+' :: digits => (Text.natural? digits).bind fun n => bounded n
  | digits => (Text.natural? digits).bind fun n => bounded n

/-! ## Operands and commands -/

def Operand.ofWord (word : String) : Except ParseFault Operand :=
  if word = "." then .ok .root
  else if word = "true" then .ok (.literal (.bool true))
  else if word = "false" then .ok (.literal (.bool false))
  else if word = "nil" then .ok (.literal .nil)
  else
    match word.toList with
    | '.' :: chain =>
        let names := splitAt '.' chain
        if names.all isIdentifier then .ok (.field (names.map String.ofList))
        else .error (.badFieldChain word)
    | chars =>
        match integer? chars with
        | some n => .ok (.literal (.integer n))
        | none => .error (.unexpectedOperand word)

def Operand.ofToken : Token -> Except ParseFault Operand
  | .string text => .ok (.literal (.string text))
  | .pipe => .error .unexpectedPipe
  | .word word => Operand.ofWord word

/-- The operands of a row of tokens, up to the first fault. -/
def operands : List Token -> Except ParseFault (List Operand)
  | [] => .ok []
  | token :: rest =>
      match Operand.ofToken token with
      | .error fault => .error fault
      | .ok operand => (operands rest).map (operand :: ·)

/-- The function that a token calls: a word with the form of an identifier that is no keyword. -/
def callee? : Token -> Option String
  | .word word => if isIdentifier word.toList && !isKeyword word then some word else none
  | _ => none

def Command.ofTokens (body : String) : List Token -> Except ParseFault Command
  | [] => .error (.emptyCommand body)
  | first :: rest =>
      match callee? first with
      | some name =>
          match Function.ofName? name with
          | none => .error (.undefinedFunction name)
          | some function => (operands rest).map (.call function)
      | none =>
          if rest = [] then (Operand.ofToken first).map .operand
          else .error (.unexpectedArguments body)

/-! ## Pipelines -/

/-- The stages of a row of tokens: the rows between the pipe signs. -/
def stages : List Token -> List (List Token)
  | [] => [[]]
  | .pipe :: rest => [] :: stages rest
  | token :: rest =>
      match stages rest with
      | [] => [[token]]
      | stage :: more => (token :: stage) :: more

/-- The commands of the stages, up to the first fault. -/
def commands (body : String) : List (List Token) -> Except ParseFault (List Command)
  | [] => .ok []
  | stage :: rest =>
      match Command.ofTokens body stage with
      | .error fault => .error fault
      | .ok command => (commands body rest).map (command :: ·)

def Command.isCall : Command -> Bool
  | .call _ _ => true
  | .operand _ => false

/-- The pipeline of a body from which outer white space has been dropped. -/
def pipeline (chars : List Char) : Except ParseFault (List Command) :=
  if chars = [] then .error .missingCommand
  else
    let body := String.ofList chars
    match Token.scan body chars with
    | .error fault => .error fault
    | .ok tokens =>
        match commands body (stages tokens) with
        | .error fault => .error fault
        | .ok commands =>
            if (commands.drop 1).all Command.isCall then .ok commands
            else .error (.notAFunction body)

/-! ## Sources -/

/-- The piece of a text, or none when nothing is left of it. -/
def textNode (trimLeft trimRight : Bool) (text : List Char) : List Node :=
  let text := if trimLeft then Text.trimStart text else text
  let text := if trimRight then Text.trimEnd text else text
  if text = [] then [] else [.text (String.ofList text)]

/-- The piece of a span, or none for a comment. -/
def spanNode (span : Span) : Except ParseFault (List Node) :=
  match span.body with
  | none => .ok []
  | some body => (pipeline (Text.trim body)).map fun commands => [.action commands]

/-- The pieces of a source.  `trimNext` says that a trim marker stands right before it. -/
def parseFrom (trimNext : Bool) (source : List Char) : Except ParseFault Template :=
  match _ : Span.next? source with
  | .error fault => .error fault
  | .ok none => .ok (textNode trimNext false source)
  | .ok (some (text, span, rest)) =>
      match spanNode span with
      | .error fault => .error fault
      | .ok node =>
          (parseFrom span.trimRight rest).map
            (textNode trimNext span.trimLeft text ++ node ++ ·)
termination_by source.length
decreasing_by exact Span.length_next? ‹_›

def parse (source : String) : Except ParseFault Template := parseFrom false source.toList

end Template

end SecretProjection
