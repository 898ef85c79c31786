import SecretProjection.Text.LetterCase.Runs
import SecretProjection.Text.LetterCase.Classes

/-!
# Upper and lower case

The full Unicode case mappings of texts.  A character may have several characters as its upper
case.  Lower case depends on the context in one place: a capital sigma at the end of a word
becomes the final form of the letter.
-/

namespace SecretProjection

namespace Text

namespace LetterCase

/-- The image of a character under the first run that contains it. -/
def image? (runs : List (Nat × Nat × Nat × Nat)) (n : Nat) : Option Nat :=
  match runs with
  | [] => none
  | (first, last, step, start) :: rest =>
      if first ≤ n && n ≤ last && (n - first) % step == 0 then some (start + (n - first))
      else image? rest n

/-- The characters an expansion table lists for a character. -/
def expansion? (table : List (Nat × List Nat)) (n : Nat) : Option (List Nat) :=
  match table with
  | [] => none
  | (key, chars) :: rest => if key == n then some chars else expansion? rest n

/-- A character through an expansion table and, failing that, through runs. -/
def convert (table : List (Nat × List Nat)) (runs : List (Nat × Nat × Nat × Nat)) (c : Char) :
    List Char :=
  match expansion? table c.toNat with
  | some chars => chars.map Char.ofNat
  | none =>
      match image? runs c.toNat with
      | some n => [Char.ofNat n]
      | none => [c]

def upperChar (c : Char) : List Char :=
  if c.toNat < 0x80 then [c.toUpper] else convert upperExpansions upperRuns c

/-- The lower case of one character outside any context. -/
def lowerChar (c : Char) : List Char :=
  if c.toNat < 0x80 then [c.toLower] else convert lowerExpansions lowerRuns c

/-- Whether a cased character comes first once the ignorable ones are skipped. -/
def startsCased (text : List Char) : Bool :=
  match text.dropWhile isIgnorable with
  | [] => false
  | c :: _ => isCased c

/-- The lower case of a text whose preceding characters, last first, are `before`. -/
def lowerAfter (before : List Char) : List Char -> List Char
  | [] => []
  | c :: rest =>
      let here :=
        if c == 'Σ' then
          if startsCased before && !startsCased rest then ['ς'] else ['σ']
        else lowerChar c
      here ++ lowerAfter (c :: before) rest

end LetterCase

def upper (text : String) : String :=
  String.ofList (text.toList.flatMap LetterCase.upperChar)

def lower (text : String) : String :=
  String.ofList (LetterCase.lowerAfter [] text.toList)

end Text

end SecretProjection
