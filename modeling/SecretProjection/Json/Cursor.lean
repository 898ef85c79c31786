import SecretProjection.Json.Basic

/-!
# Places in JSON text

A reader of JSON text stands at a `Cursor`: the characters still to be read and the number of
bytes already read.  A fault names its cause and a byte offset; line and column are computed from
the offset only when the fault is put into words.  Columns count bytes.
-/

namespace SecretProjection

namespace Json

/-! ## Faults -/

/-- What a typed reader found where something else was expected. -/
inductive Found where
  | null
  | bool (value : Bool)
  | integer (value : Int)
  | float (text : String)
  | string (text : String)
  | sequence
  | map
  deriving DecidableEq, Repr

inductive Cause where
  | endInList
  | endInObject
  | endInString
  | endInValue
  | expectedColon
  | expectedListComma
  | expectedObjectComma
  | expectedIdent
  | expectedValue
  | invalidEscape
  | invalidNumber
  | numberOutOfRange
  | controlCharacter
  | keyMustBeString
  | loneSurrogate
  | endOfHexEscape
  | trailingComma
  | trailingCharacters
  | tooDeep
  | invalidType (found : Found) (expected : String)
  | invalidValue (found : Found) (expected : String)
  | invalidLength (length : Nat) (expected : String)
  | duplicateField (name : String)
  | missingField (name : String)
  | refused (message : String)
  deriving DecidableEq, Repr

/-- A cause and the byte offset it is reported at. -/
structure Fault where
  cause : Cause
  offset : Nat
  deriving DecidableEq, Repr

def Found.describe : Found -> String
  | .null => "null"
  | .bool value => "boolean `" ++ (if value then "true" else "false") ++ "`"
  | .integer value => "integer `" ++ toString value ++ "`"
  | .float text => "floating point `" ++ text ++ "`"
  | .string text => "string " ++ text
  | .sequence => "sequence"
  | .map => "map"

def Cause.message : Cause -> String
  | .endInList => "EOF while parsing a list"
  | .endInObject => "EOF while parsing an object"
  | .endInString => "EOF while parsing a string"
  | .endInValue => "EOF while parsing a value"
  | .expectedColon => "expected `:`"
  | .expectedListComma => "expected `,` or `]`"
  | .expectedObjectComma => "expected `,` or `\x7d`"
  | .expectedIdent => "expected ident"
  | .expectedValue => "expected value"
  | .invalidEscape => "invalid escape"
  | .invalidNumber => "invalid number"
  | .numberOutOfRange => "number out of range"
  | .controlCharacter => "control character (\\u0000-\\u001F) found while parsing a string"
  | .keyMustBeString => "key must be a string"
  | .loneSurrogate => "lone leading surrogate in hex escape"
  | .endOfHexEscape => "unexpected end of hex escape"
  | .trailingComma => "trailing comma"
  | .trailingCharacters => "trailing characters"
  | .tooDeep => "recursion limit exceeded"
  | .invalidType found expected => "invalid type: " ++ found.describe ++ ", expected " ++ expected
  | .invalidValue found expected =>
      "invalid value: " ++ found.describe ++ ", expected " ++ expected
  | .invalidLength length expected =>
      "invalid length " ++ toString length ++ ", expected " ++ expected
  | .duplicateField name => "duplicate field `" ++ name ++ "`"
  | .missingField name => "missing field `" ++ name ++ "`"
  | .refused message => message

/-- Line and column after the first `offset` bytes, counted from the given line and column. -/
def placeFrom (line column offset : Nat) : List Char -> Nat × Nat
  | [] => (line, column)
  | c :: rest =>
      if offset = 0 then (line, column)
      else if offset < c.utf8Size then (line, column + offset)
      else if c = '\n' then placeFrom (line + 1) 0 (offset - 1) rest
      else placeFrom line (column + c.utf8Size) (offset - c.utf8Size) rest

def Fault.message (fault : Fault) (text : List Char) : String :=
  let (line, column) := placeFrom 1 0 fault.offset text
  fault.cause.message ++ " at line " ++ toString line ++ " column " ++ toString column

/-! ## Cursors -/

/-- The characters left to read and the number of bytes read before them. -/
structure Cursor where
  rest : List Char
  offset : Nat
  deriving DecidableEq, Repr

def byteLength : List Char -> Nat
  | [] => 0
  | c :: rest => c.utf8Size + byteLength rest

namespace Cursor

def start (text : List Char) : Cursor := ⟨text, 0⟩

/-- The cursor behind the next character, which is given. -/
def skip (cursor : Cursor) (c : Char) (rest : List Char) : Cursor :=
  ⟨rest, cursor.offset + c.utf8Size⟩

def fail {α : Type} (cursor : Cursor) (cause : Cause) : Except Fault α :=
  .error ⟨cause, cursor.offset⟩

/-- A fault at the next byte, if there is one. -/
def failNext {α : Type} (cursor : Cursor) (cause : Cause) : Except Fault α :=
  .error ⟨cause, if cursor.rest.isEmpty then cursor.offset else cursor.offset + 1⟩

/-- Space, tab, line feed and carriage return. -/
def isJsonBlank (c : Char) : Bool := c == ' ' || c == '\n' || c == '\t' || c == '\r'

def skipBlank (cursor : Cursor) : Cursor :=
  let blanks := cursor.rest.takeWhile isJsonBlank
  ⟨cursor.rest.dropWhile isJsonBlank, cursor.offset + blanks.length⟩

def next? (cursor : Cursor) : Option Char := cursor.rest.head?

def advance (cursor : Cursor) : Cursor :=
  match cursor.rest with
  | [] => cursor
  | c :: rest => cursor.skip c rest

end Cursor

end Json

end SecretProjection
