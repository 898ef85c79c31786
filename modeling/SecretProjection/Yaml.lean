import SecretProjection.Json.Printer

/-!
# Values as YAML

A value is laid out in block style: each member of an object on lines of its own, two columns
further in than the object it belongs to, and each item of a list behind a dash.  A list under a
key starts in the column of the key.  Empty containers are written in flow style.  A text is
written in plain where a reader takes it for that text, and else between single quotes.
-/

namespace SecretProjection

namespace Yaml

/-! ## Texts -/

/-- The words that stand for something else than themselves. -/
def reservedWords : List String := ["null", "~", "true", "false", ".nan", ".inf", "-.inf", "+.inf"]

/-- The characters that a plain text may not begin with. -/
def indicators : List Char :=
  ['-', '?', ':', ',', '[', ']', '\x7b', '\x7d', '#', '&', '*', '!', '|', '>', '\'', '"', '%',
    '@', '\x60', ' ']

def isNumeric : List Char -> Bool
  | [] => false
  | '+' :: rest => rest.head?.any Char.isDigit
  | '.' :: rest => rest.head?.any Char.isDigit
  | c :: _ => c.isDigit

/-- Whether a colon or a space in a text ends it for a reader. -/
def breaksOff : List Char -> Bool
  | [] => false
  | [c] => c == ':' || c == ' '
  | ':' :: ' ' :: _ => true
  | ' ' :: '#' :: _ => true
  | _ :: rest => breaksOff rest

def isPlain (text : String) : Bool :=
  match text.toList with
  | [] => false
  | c :: rest =>
      !indicators.contains c && !isNumeric (c :: rest) && !breaksOff (c :: rest) &&
        !reservedWords.contains text.toLower

def quote (text : String) : String :=
  String.ofList ('\'' :: (text.toList.flatMap (fun c => if c = '\'' then ['\'', '\''] else [c]) ++
    ['\'']))

def scalarText (text : String) : String := if isPlain text then text else quote text

/-! ## Blocks -/

def indent (column : Nat) : String := String.ofList (List.replicate column ' ')

/-- A value that takes no line of its own. -/
def flow? : Json -> Option String
  | .null => some "null"
  | .bool value => some (if value then "true" else "false")
  | .number value => some value.text
  | .string text => some (scalarText text)
  | .array [] => some "[]"
  | .object [] => some "\x7b\x7d"
  | .array (_ :: _) => none
  | .object (_ :: _) => none

mutual

/-- The lines of a value; the caller has set the first one in its column. -/
def block (column : Nat) : Json -> String
  | .array items => itemLines column items
  | .object members => memberLines column members
  | value => (flow? value).getD "" ++ "\n"

/-- The lines of items, the first one without its indent. -/
def itemLines (column : Nat) : List Json -> String
  | [] => ""
  | item :: rest =>
      "- " ++ (match flow? item with
        | some text => text ++ "\n"
        | none => block (column + 2) item) ++
      (if rest.isEmpty then "" else indent column) ++ itemLines column rest

/-- The lines of members, the first one without its indent. -/
def memberLines (column : Nat) : List (String × Json) -> String
  | [] => ""
  | (key, value) :: rest =>
      scalarText key ++ ":" ++ (match flow? value with
        | some text => " " ++ text ++ "\n"
        | none =>
            match value with
            | .array items => "\n" ++ indent column ++ itemLines column items
            | value => "\n" ++ indent (column + 2) ++ block (column + 2) value) ++
      (if rest.isEmpty then "" else indent column) ++ memberLines column rest

end

def document (value : Json) : String := block 0 value

end Yaml

end SecretProjection
