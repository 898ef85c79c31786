import SecretProjection.Json.Basic
import SecretProjection.Text.Quoted

/-!
# JSON text

The compact text of a value.  Strings escape quotes, backslashes and controls and nothing else.
Floating point numbers have the fewest digits that read back; they are written positionally when
the place of the first digit lies in `JsonNumber.positional`.
-/

namespace SecretProjection

/-! ## Numbers -/

namespace JsonNumber

/-- The places of the first digit for which a number is written without an exponent. -/
def positional (place : Int) : Bool := -5 ≤ place && place ≤ 15

/-- A number without trailing zeros, given by its digits and the place of the last one. -/
def stripZeros (place : Int) : List Char -> List Char × Int
  | digits =>
      let kept := (digits.reverse.dropWhile (· == '0')).reverse
      (kept, place + (digits.length - kept.length : Nat))

/-- Positional or scientific text of significant digits whose first one has the given place. -/
def layout (digits : List Char) (place : Int) : List Char :=
  if positional place then
    if 0 ≤ place then
      let whole := place.toNat + 1
      let padded := digits ++ List.replicate (whole - digits.length) '0'
      let fraction := padded.drop whole
      padded.take whole ++ '.' :: (if fraction = [] then ['0'] else fraction)
    else ['0', '.'] ++ List.replicate (-place - 1).toNat '0' ++ digits
  else
    let fraction := digits.drop 1
    let sign := if place < 0 then '-' else '+'
    digits.take 1 ++ (if fraction = [] then [] else '.' :: fraction) ++ 'e' :: sign ::
      Nat.toDigits 10 place.natAbs

/-- The text of a non-negative floating point number. -/
def magnitudeText (x : Binary64) : List Char :=
  if x.isZero then ['0', '.', '0']
  else
    let (digits, place) := x.shortestDecimal
    let (kept, last) := stripZeros place (Nat.toDigits 10 digits)
    layout kept (last + (kept.length - 1 : Nat))

def text : JsonNumber -> String
  | .integer n => toString n
  | .float negative magnitude =>
      String.ofList (if negative then '-' :: magnitudeText magnitude else magnitudeText magnitude)

def isZero : JsonNumber -> Bool
  | .integer n => n == 0
  | .float _ magnitude => magnitude.isZero

end JsonNumber

/-! ## Strings -/

namespace Json

def fourHex (n : Nat) : List Char :=
  let digits := Text.hexDigits n
  List.replicate (4 - digits.length) '0' ++ digits

/-- One character inside a string literal. -/
def escapeChar (c : Char) : List Char :=
  if c == '"' then ['\\', '"']
  else if c == '\\' then ['\\', '\\']
  else if c == '\x08' then ['\\', 'b']
  else if c == '\x0c' then ['\\', 'f']
  else if c == '\n' then ['\\', 'n']
  else if c == '\r' then ['\\', 'r']
  else if c == '\t' then ['\\', 't']
  else if c.toNat < 0x20 then '\\' :: 'u' :: fourHex c.toNat
  else [c]

def quote (text : String) : List Char := '"' :: (text.toList.flatMap escapeChar ++ ['"'])

/-! ## Values -/

mutual

def print : Json -> List Char
  | .null => ['n', 'u', 'l', 'l']
  | .bool true => ['t', 'r', 'u', 'e']
  | .bool false => ['f', 'a', 'l', 's', 'e']
  | .number n => n.text.toList
  | .string s => quote s
  | .array items => '[' :: (printItems items ++ [']'])
  | .object members => '\x7b' :: (printMembers members ++ ['\x7d'])

def printItems : List Json -> List Char
  | [] => []
  | [item] => print item
  | item :: next :: rest => print item ++ ',' :: printItems (next :: rest)

def printMembers : List (String × Json) -> List Char
  | [] => []
  | [(key, value)] => quote key ++ ':' :: print value
  | (key, value) :: next :: rest =>
      quote key ++ ':' :: print value ++ ',' :: printMembers (next :: rest)

end

def compact (value : Json) : String := String.ofList (print value)

end Json

end SecretProjection
