import SecretProjection.Json.Reader
import SecretProjection.Json.Printer

/-!
# Shapes

A shape says what a typed reader expects of JSON text.  `Shape.parse` reads text at a shape and
reports the first fault, of the text or of its type, in the order in which a reader meets them.
The value it yields has every field of every record, in canonical form: defaults are filled in,
records given as arrays become objects, and members nobody asked for are dropped.
-/

namespace SecretProjection

namespace Json

inductive Presence where
  | required
  | optional
  | default (value : Json)

inductive Shape where
  | any
  | boolean
  | string
  | unsigned (bits : Nat)
  | signed
  | anyMap
  | nullable (inner : Shape)
  | list (inner : Shape)
  | table (inner : Shape)
  /-- A record that refuses a repeated field and may be given as an array. -/
  | strict (title : String) (fields : List (String × Presence × Shape))
  /-- A record that takes the last of repeated fields and is always an object. -/
  | loose (title : String) (fields : List (String × Shape))
  /-- A string that a check accepts or refuses with a message; the first text says what is
  expected. -/
  | checked (expected : String) (check : String -> Except String Unit)
  /-- One string only, as a field of a loose record. -/
  | exactly (text : String)

namespace Shape

def foundNumber : JsonNumber -> Found
  | .integer n => .integer n
  | other => .float other.text

/-- Reads what stands at the cursor and refuses it as of the wrong type. -/
def refuseType {α : Type} (expected : String) (cursor : Cursor) : Read α :=
  let cursor := cursor.skipBlank
  let refuse (found : Found) (at_ : Cursor) : Read α := at_.fail (.invalidType found expected)
  match cursor.rest with
  | [] => cursor.fail .endInValue
  | c :: rest =>
      let after := cursor.skip c rest
      if c = 'n' then
        match readWord ['u', 'l', 'l'] after with
        | .error fault => .error fault
        | .ok at_ => refuse .null at_
      else if c = 't' then
        match readWord ['r', 'u', 'e'] after with
        | .error fault => .error fault
        | .ok at_ => refuse (.bool true) at_
      else if c = 'f' then
        match readWord ['a', 'l', 's', 'e'] after with
        | .error fault => .error fault
        | .ok at_ => refuse (.bool false) at_
      else if c = '-' then
        match readNumber .keep true after with
        | .error fault => .error fault
        | .ok (n, at_) => refuse (foundNumber n) at_
      else if Text.isDigit c then
        match readNumber .keep false cursor with
        | .error fault => .error fault
        | .ok (n, at_) => refuse (foundNumber n) at_
      else if c = '"' then
        match readString .keep after with
        | .error fault => .error fault
        | .ok (s, at_) => refuse (.string (Text.quoted s)) at_
      else if c = '[' then refuse .sequence cursor
      else if c = '\x7b' then refuse .map cursor
      else cursor.failNext .expectedValue

/-- Reads a number whose integers are accepted when `fits` says so. -/
def readInteger (expected : String) (fits : Int -> Bool) (cursor : Cursor) : Read Json :=
  let cursor := cursor.skipBlank
  let accept : Read JsonNumber -> Read Json
    | .error fault => .error fault
    | .ok (.integer n, at_) =>
        if fits n then .ok (.ofInt n, at_) else at_.fail (.invalidValue (.integer n) expected)
    | .ok (n, at_) => at_.fail (.invalidType (foundNumber n) expected)
  match cursor.rest with
  | [] => cursor.fail .endInValue
  | c :: rest =>
      if c = '-' then accept (readNumber .keep true (cursor.skip c rest))
      else if Text.isDigit c then accept (readNumber .keep false cursor)
      else refuseType expected cursor

/-- The cursor behind a closing brace, if one comes next, for a fault found in the record. -/
def closeObject (cursor : Cursor) : Cursor :=
  let cursor := cursor.skipBlank
  match cursor.rest with
  | '\x7d' :: _ => cursor.advance
  | _ => cursor

/-- The cursor behind a closing bracket, if one comes next, for a fault found in the list. -/
def closeArray (cursor : Cursor) : Cursor :=
  let cursor := cursor.skipBlank
  match cursor.rest with
  | ']' :: _ => cursor.advance
  | ',' :: _ => cursor.advance.skipBlank
  | _ => cursor

/-- Ends a list of known length: only its closing bracket may follow. -/
def endArray (value : Json) (cursor : Cursor) : Read Json :=
  let cursor := cursor.skipBlank
  match cursor.rest with
  | [] => cursor.fail .endInList
  | ']' :: _ => .ok (value, cursor.advance)
  | ',' :: _ =>
      let after := cursor.advance.skipBlank
      match after.rest with
      | ']' :: _ => after.failNext .trailingComma
      | _ => after.failNext .trailingCharacters
  | _ => cursor.failNext .trailingCharacters

/-- How a record with a number of fields is named. -/
def lengthText (title : String) (count : Nat) : String :=
  title ++ " with " ++ toString count ++ (if count = 1 then " element" else " elements")

/-- The fields of a record with the absent ones filled in, or the first that is missing. -/
def complete (fields : List (String × Presence × Shape)) (members : List (String × Json)) :
    Except String (List (String × Json)) :=
  fields.foldl (fun acc field =>
    match acc, field with
    | .error name, _ => .error name
    | .ok done, (name, presence, _) =>
        match Entries.find? name members, presence with
        | some value, _ => .ok (Entries.insert name value done)
        | none, .required => .error name
        | none, .optional => .ok (Entries.insert name .null done)
        | none, .default value => .ok (Entries.insert name value done)) (.ok [])

mutual

/-- Reads a value at a shape.  `depth` is the number of levels left, `fuel` bounds the
recursion. -/
def read (fuel depth : Nat) (shape : Shape) (cursor : Cursor) : Read Json :=
  match fuel with
  | 0 => cursor.fail .tooDeep
  | fuel + 1 =>
      let cursor := cursor.skipBlank
      match shape with
      | .any => readValue .keep (fuelFor cursor.rest) depth cursor
      | .boolean =>
          match cursor.rest with
          | 't' :: _ => readValue .keep 1 depth cursor
          | 'f' :: _ => readValue .keep 1 depth cursor
          | _ => refuseType "a boolean" cursor
      | .string =>
          match cursor.rest with
          | '"' :: _ => readValue .keep 1 depth cursor
          | _ => refuseType "a string" cursor
      | .unsigned bits =>
          readInteger ("u" ++ toString bits) (fun n => 0 ≤ n && n < Int.pow 2 bits) cursor
      | .signed => readInteger "i64" (fun n => -Int.pow 2 63 ≤ n && n < Int.pow 2 63) cursor
      | .anyMap =>
          match cursor.rest with
          | '\x7b' :: _ => readValue .keep (fuelFor cursor.rest) depth cursor
          | _ => refuseType "a map" cursor
      | .nullable inner =>
          match cursor.rest with
          | 'n' :: _ => readValue .keep 1 depth cursor
          | _ => read fuel depth inner cursor
      | .list inner =>
          match cursor.rest with
          | '[' :: _ =>
              match checkDepth .keep depth cursor with
              | .error fault => .error fault
              | .ok () => readList fuel (depth - 1) inner true [] cursor.advance
          | _ => refuseType "a sequence" cursor
      | .table inner =>
          match cursor.rest with
          | '\x7b' :: _ =>
              match checkDepth .keep depth cursor with
              | .error fault => .error fault
              | .ok () => readTable fuel (depth - 1) inner true [] cursor.advance
          | _ => refuseType "a map" cursor
      | .strict title fields =>
          match cursor.rest with
          | '[' :: _ =>
              match checkDepth .keep depth cursor with
              | .error fault => .error fault
              | .ok () =>
                  readPositional fuel (depth - 1) title fields.length 0 fields [] cursor.advance
          | '\x7b' :: _ =>
              match checkDepth .keep depth cursor with
              | .error fault => .error fault
              | .ok () => readStrict fuel (depth - 1) fields true [] cursor.advance
          | _ => refuseType title cursor
      | .loose title fields =>
          match cursor.rest with
          | '[' :: _ => (closeArray cursor.advance).fail (.invalidType .sequence title)
          | '\x7b' :: _ =>
              match checkDepth .keep depth cursor with
              | .error fault => .error fault
              | .ok () => readLoose fuel (depth - 1) fields true [] cursor.advance
          | _ => refuseType title cursor
      | .checked expected check =>
          match cursor.rest with
          | '"' :: _ =>
              match readString .keep cursor.advance with
              | .error fault => .error fault
              | .ok (s, after) =>
                  match check s with
                  | .ok () => .ok (.string s, after)
                  | .error message => after.fail (.refused message)
          | _ => refuseType expected cursor
      | .exactly text =>
          match cursor.rest with
          | '"' :: _ =>
              match readString .keep cursor.advance with
              | .error fault => .error fault
              | .ok (s, after) =>
                  if s = text then .ok (.string s, after)
                  else (closeObject after).fail (.invalidValue (.string (Text.quoted s)) text)
          | _ => refuseType "a string" cursor

def readList (fuel depth : Nat) (inner : Shape) (first : Bool) (items : List Json)
    (cursor : Cursor) : Read Json :=
  match fuel with
  | 0 => cursor.fail .tooDeep
  | fuel + 1 =>
      match nextItem .keep first cursor with
      | .error fault => .error fault
      | .ok none => .ok (.array items.reverse, cursor.skipBlank.advance)
      | .ok (some here) =>
          match read fuel depth inner here with
          | .error fault => .error fault
          | .ok (item, cursor) => readList fuel depth inner false (item :: items) cursor

def readTable (fuel depth : Nat) (inner : Shape) (first : Bool) (members : List (String × Json))
    (cursor : Cursor) : Read Json :=
  match fuel with
  | 0 => cursor.fail .tooDeep
  | fuel + 1 =>
      match nextKey .keep first cursor with
      | .error fault => .error fault
      | .ok none => .ok (.object members, cursor.skipBlank.advance)
      | .ok (some here) =>
          match readString .keep here with
          | .error fault => .error fault
          | .ok (key, cursor) =>
              match readColon cursor with
              | .error fault => .error fault
              | .ok cursor =>
                  match read fuel depth inner cursor with
                  | .error fault => .error fault
                  | .ok (value, cursor) =>
                      readTable fuel depth inner false (Entries.insert key value members) cursor

/-- Reads the fields of a record in the order of their declaration. -/
def readPositional (fuel depth : Nat) (title : String) (count index : Nat)
    (fields : List (String × Presence × Shape)) (members : List (String × Json))
    (cursor : Cursor) : Read Json :=
  match fuel with
  | 0 => cursor.fail .tooDeep
  | fuel + 1 =>
      match fields with
      | [] => endArray (.object members) cursor
      | (name, presence, shape) :: fields =>
          match nextItem .keep (index == 0) cursor with
          | .error fault => .error fault
          | .ok none =>
              match presence with
              | .default value =>
                  readPositional fuel depth title count (index + 1) fields
                    (Entries.insert name value members) cursor
              | _ => (closeArray cursor).fail (.invalidLength index (lengthText title count))
          | .ok (some here) =>
              match read fuel depth shape here with
              | .error fault => .error fault
              | .ok (value, cursor) =>
                  readPositional fuel depth title count (index + 1) fields
                    (Entries.insert name value members) cursor

/-- Reads the members of a record that refuses repeated fields. -/
def readStrict (fuel depth : Nat) (fields : List (String × Presence × Shape)) (first : Bool)
    (members : List (String × Json)) (cursor : Cursor) : Read Json :=
  match fuel with
  | 0 => cursor.fail .tooDeep
  | fuel + 1 =>
      match nextKey .keep first cursor with
      | .error fault => .error fault
      | .ok none =>
          match complete fields members with
          | .ok members => .ok (.object members, cursor.skipBlank.advance)
          | .error name => (closeObject cursor).fail (.missingField name)
      | .ok (some here) =>
          match readString .keep here with
          | .error fault => .error fault
          | .ok (key, cursor) =>
              let known := fields.find? fun field => field.1 == key
              if known.isSome && (Entries.find? key members).isSome then
                (closeObject cursor).fail (.duplicateField key)
              else
                match readColon cursor with
                | .error fault => .error fault
                | .ok cursor =>
                    match known with
                    | none =>
                        match readValue .skip (fuelFor cursor.rest) depth cursor with
                        | .error fault => .error fault
                        | .ok (_, cursor) => readStrict fuel depth fields false members cursor
                    | some (name, _, shape) =>
                        match read fuel depth shape cursor with
                        | .error fault => .error fault
                        | .ok (value, cursor) =>
                            readStrict fuel depth fields false (Entries.insert name value members)
                              cursor

/-- Reads the members of a record that takes the last of repeated fields. -/
def readLoose (fuel depth : Nat) (fields : List (String × Shape)) (first : Bool)
    (members : List (String × Json)) (cursor : Cursor) : Read Json :=
  match fuel with
  | 0 => cursor.fail .tooDeep
  | fuel + 1 =>
      match nextKey .keep first cursor with
      | .error fault => .error fault
      | .ok none => .ok (.object members, cursor.skipBlank.advance)
      | .ok (some here) =>
          match readString .keep here with
          | .error fault => .error fault
          | .ok (key, cursor) =>
              match readColon cursor with
              | .error fault => .error fault
              | .ok cursor =>
                  match fields.find? fun field => field.1 == key with
                  | none =>
                      match readValue .skip (fuelFor cursor.rest) depth cursor with
                      | .error fault => .error fault
                      | .ok (_, cursor) => readLoose fuel depth fields false members cursor
                  | some (name, shape) =>
                      match read fuel depth shape cursor with
                      | .error fault => .error fault
                      | .ok (value, cursor) =>
                          readLoose fuel depth fields false (Entries.insert name value members)
                            cursor

end

/-- The value of a whole text at a shape, or the first fault. -/
def parseChars (shape : Shape) (text : List Char) : Except Fault Json :=
  match shape.read (fuelFor text) depthLimit (Cursor.start text) with
  | .error fault => .error fault
  | .ok (value, cursor) => finish value cursor

/-- The value of a whole text at a shape, or the wording of the first fault. -/
def parse (shape : Shape) (text : String) : Except String Json :=
  match shape.parseChars text.toList with
  | .ok value => .ok value
  | .error fault => .error (fault.message text.toList)

end Shape

end Json

end SecretProjection
