import SecretProjection.Json.Cursor
import SecretProjection.Text.Digits

/-!
# Reading JSON text

Values are read from text with the exact place of the first fault.  A value that nobody asks for
is read in the mode `skip`: it is checked for its form only, so that numbers may be out of range,
surrogates may stand alone and nesting is not limited.
-/

namespace SecretProjection

namespace Json

/-- Whether a value is kept or only passed over. -/
inductive Mode where
  | keep
  | skip
  deriving DecidableEq, Repr

/-- A result and the cursor behind what was read. -/
abbrev Read (α : Type) := Except Fault (α × Cursor)

/-! ## Words -/

def readWord (word : List Char) (cursor : Cursor) : Except Fault Cursor :=
  match word with
  | [] => .ok cursor
  | expected :: word =>
      match cursor.rest with
      | [] => cursor.fail .endInValue
      | c :: rest =>
          if c = expected then readWord word (cursor.skip c rest)
          else .error ⟨.expectedIdent, cursor.offset + 1⟩

/-! ## Strings -/

def hexQuad? (a b c d : Char) : Option Nat := do
  let a <- Text.hexValue? a
  let b <- Text.hexValue? b
  let c <- Text.hexValue? c
  let d <- Text.hexValue? d
  return ((a * 16 + b) * 16 + c) * 16 + d

/-- The fault of an escape that lacks four hexadecimal digits. -/
def hexFault (cursor : Cursor) : Fault :=
  if byteLength cursor.rest < 4 then ⟨.endInString, cursor.offset + byteLength cursor.rest⟩
  else ⟨.invalidEscape, cursor.offset + 4⟩

def simpleEscape? (c : Char) : Option Char :=
  if c = '"' then some '"'
  else if c = '\\' then some '\\'
  else if c = '/' then some '/'
  else if c = 'b' then some '\x08'
  else if c = 'f' then some '\x0c'
  else if c = 'n' then some '\n'
  else if c = 'r' then some '\r'
  else if c = 't' then some '\t'
  else none

/-- The fault of a leading surrogate whose four digits end at the cursor and that no trailing
surrogate follows. -/
def surrogateFault (cursor : Cursor) : Fault :=
  match cursor.rest with
  | [] => ⟨.endInString, cursor.offset⟩
  | '\\' :: rest =>
      match rest with
      | [] => ⟨.endInString, cursor.offset + 1⟩
      | 'u' :: digits =>
          match digits with
          | a :: b :: c :: d :: _ =>
              match hexQuad? a b c d with
              | some _ => ⟨.loneSurrogate, cursor.offset + 6⟩
              | none => hexFault ⟨digits, cursor.offset + 2⟩
          | _ => hexFault ⟨digits, cursor.offset + 2⟩
      | _ :: _ => ⟨.endOfHexEscape, cursor.offset + 2⟩
  | _ :: _ => ⟨.endOfHexEscape, cursor.offset + 1⟩

/-- Puts a character in front of what is read next. -/
def prepend (c : Char) : Read (List Char) -> Read (List Char)
  | .ok (text, cursor) => .ok (c :: text, cursor)
  | .error fault => .error fault

/-- Reads a string behind its opening quote.  A leading surrogate needs a trailing one. -/
def readText (mode : Mode) (offset : Nat) : List Char -> Read (List Char)
  | [] => .error ⟨.endInString, offset⟩
  | '"' :: rest => .ok ([], ⟨rest, offset + 1⟩)
  | '\\' :: 'u' :: a :: b :: c :: d :: rest =>
      match hexQuad? a b c d with
      | none => .error (hexFault ⟨a :: b :: c :: d :: rest, offset + 2⟩)
      | some n =>
          if mode = .skip then prepend '?' (readText mode (offset + 6) rest)
          else if 0xDC00 ≤ n ∧ n ≤ 0xDFFF then .error ⟨.loneSurrogate, offset + 6⟩
          else if 0xD800 ≤ n ∧ n ≤ 0xDBFF then
            match rest with
            | '\\' :: 'u' :: e :: f :: g :: h :: tail =>
                match hexQuad? e f g h with
                | some m =>
                    if 0xDC00 ≤ m ∧ m ≤ 0xDFFF then
                      let code := 0x10000 + (n - 0xD800) * 0x400 + (m - 0xDC00)
                      prepend (Char.ofNat code) (readText mode (offset + 12) tail)
                    else .error (surrogateFault ⟨rest, offset + 6⟩)
                | none => .error (surrogateFault ⟨rest, offset + 6⟩)
            | _ => .error (surrogateFault ⟨rest, offset + 6⟩)
          else prepend (Char.ofNat n) (readText mode (offset + 6) rest)
  | '\\' :: 'u' :: rest => .error (hexFault ⟨rest, offset + 2⟩)
  | ['\\'] => .error ⟨.endInString, offset + 1⟩
  | '\\' :: c :: rest =>
      match simpleEscape? c with
      | some escaped => prepend escaped (readText mode (offset + 2) rest)
      | none => .error ⟨.invalidEscape, offset + 2⟩
  | c :: rest =>
      if c.toNat < 0x20 then
        .error ⟨.controlCharacter, if mode = .skip then offset else offset + 1⟩
      else prepend c (readText mode (offset + c.utf8Size) rest)

/-- Reads a string behind its opening quote. -/
def readString (mode : Mode) (cursor : Cursor) : Read String :=
  match readText mode cursor.offset cursor.rest with
  | .ok (text, cursor) => .ok (String.ofList text, cursor)
  | .error fault => .error fault

/-! ## Numbers -/

/-- The digits at the cursor and the cursor behind them. -/
def takeDigits (cursor : Cursor) : List Char × Cursor :=
  let digits := cursor.rest.takeWhile Text.isDigit
  (digits, ⟨cursor.rest.dropWhile Text.isDigit, cursor.offset + digits.length⟩)

/-- Reads the digits of an exponent one by one, and stops as soon as they pass 31 bits.  The last
component says whether that happened. -/
def readExponentDigits (value : Nat) (offset : Nat) : List Char -> Nat × Cursor × Bool
  | [] => (value, ⟨[], offset⟩, false)
  | c :: rest =>
      if Text.isDigit c then
        let value := value * 10 + (c.toNat - 48)
        if 2147483647 < value then (value, ⟨rest, offset + 1⟩, true)
        else readExponentDigits value (offset + 1) rest
      else (value, ⟨c :: rest, offset⟩, false)

def startsExponent (cursor : Cursor) : Bool :=
  match cursor.rest with
  | 'e' :: _ => true
  | 'E' :: _ => true
  | _ => false

/-- Takes digits as long as the number that they make has 64 bits.  The other ones are left. -/
def takeWord (value : Nat) : List Char -> Nat × List Char
  | [] => (value, [])
  | c :: rest =>
      let next := 10 * value + (c.toNat - 48)
      if next < Nat.pow 2 64 then takeWord next rest else (value, c :: rest)

/-- A floating point number from its digits and decimal exponent, refused when it lies beyond
the range. -/
def floatOf (negative : Bool) (digits : Nat) (exponent : Int) (cursor : Cursor) :
    Read JsonNumber :=
  match Binary64.ofDecimalInSteps digits exponent with
  | some magnitude => .ok (.float negative magnitude, cursor)
  | none => cursor.fail .numberOutOfRange

/-- Reads the digits of an exponent behind its sign. -/
def readExponentValue (mode : Mode) (negative : Bool) (digits : Nat) (exponent : Int)
    (minus : Bool) (cursor : Cursor) : Read JsonNumber :=
  match cursor.rest with
  | [] => cursor.fail (if mode = .skip then .invalidNumber else .endInValue)
  | c :: _ =>
      if Text.isDigit c then
        let (value, after, overflow) := readExponentDigits 0 cursor.offset cursor.rest
        if mode = .skip then
          .ok (.integer 0, (takeDigits cursor).2)
        else if overflow then
          if digits ≠ 0 ∧ !minus then after.fail .numberOutOfRange
          else .ok (.float negative .zero, (takeDigits after).2)
        else floatOf negative digits (if minus then exponent - value else exponent + value) after
      else .error ⟨.invalidNumber, cursor.offset + 1⟩

/-- Reads an exponent whose letter is at the cursor. -/
def readExponent (mode : Mode) (negative : Bool) (digits : Nat) (exponent : Int)
    (cursor : Cursor) : Read JsonNumber :=
  let cursor := cursor.advance
  match cursor.rest with
  | '+' :: _ => readExponentValue mode negative digits exponent false cursor.advance
  | '-' :: _ => readExponentValue mode negative digits exponent true cursor.advance
  | _ => readExponentValue mode negative digits exponent false cursor

def integerLiteral (negative : Bool) (digits : Nat) (cursor : Cursor) : Read JsonNumber :=
  if negative then
    if 0 < digits ∧ digits ≤ Nat.pow 2 63 then .ok (.integer (-(digits : Int)), cursor)
    else floatOf true digits 0 cursor
  else .ok (.integer digits, cursor)

/-- Reads a fraction and an exponent behind the whole digits of a number.  Digits behind the first
64 bits count for the exponent only. -/
def readFraction (mode : Mode) (negative : Bool) (whole : List Char) (cursor : Cursor) :
    Read JsonNumber :=
  let (value, unused) := takeWord 0 whole
  match cursor.rest with
  | '.' :: _ =>
      let (fraction, after) := takeDigits cursor.advance
      if fraction = [] then
        if after.rest.isEmpty && mode == .keep then after.fail .endInValue
        else after.failNext .invalidNumber
      else
        let (value, ignored) := takeWord value fraction
        let exponent : Int := unused.length + ignored.length - fraction.length
        if startsExponent after then readExponent mode negative value exponent after
        else if mode = .skip then .ok (.integer 0, after)
        else floatOf negative value exponent after
  | _ =>
      if startsExponent cursor then readExponent mode negative value unused.length cursor
      else if mode = .skip then .ok (.integer 0, cursor)
      else if unused = [] then integerLiteral negative value cursor
      else floatOf negative value unused.length cursor

def readNumber (mode : Mode) (negative : Bool) (cursor : Cursor) : Read JsonNumber :=
  match cursor.rest with
  | [] => cursor.fail (if mode = .skip then .invalidNumber else .endInValue)
  | c :: rest =>
      if c = '0' then
        let after := cursor.skip c rest
        match rest with
        | d :: _ =>
            if Text.isDigit d then after.failNext .invalidNumber
            else readFraction mode negative ['0'] after
        | [] => readFraction mode negative ['0'] after
      else if Text.isDigit c then
        let (whole, after) := takeDigits cursor
        readFraction mode negative whole after
      else .error ⟨.invalidNumber, cursor.offset + 1⟩

/-! ## Values -/

/-- Whether reading may go one level deeper, given the levels left. -/
def checkDepth (mode : Mode) (depth : Nat) (cursor : Cursor) : Except Fault Unit :=
  if mode = .keep ∧ depth ≤ 1 then cursor.failNext .tooDeep else .ok ()

/-- Reads the colon between a key and its value. -/
def readColon (cursor : Cursor) : Except Fault Cursor :=
  let cursor := cursor.skipBlank
  match cursor.rest with
  | ':' :: rest => .ok (cursor.skip ':' rest)
  | [] => cursor.fail .endInObject
  | _ => cursor.failNext .expectedColon

/-- Reads on to the next item of a list: the cursor at it, or `none` when the list ends here. -/
def nextItem (mode : Mode) (first : Bool) (cursor : Cursor) : Except Fault (Option Cursor) :=
  let cursor := cursor.skipBlank
  match cursor.rest with
  | [] => cursor.fail .endInList
  | c :: rest =>
      if c = ']' then .ok none
      else if first then .ok (some cursor)
      else if c = ',' then
        let after := (cursor.skip c rest).skipBlank
        match after.rest with
        | [] => after.fail .endInValue
        | d :: _ =>
            if d = ']' ∧ mode = .keep then after.failNext .trailingComma else .ok (some after)
      else cursor.failNext .expectedListComma

/-- Reads on to the key of the next member: the cursor behind its opening quote, or `none` when
the object ends here. -/
def nextKey (mode : Mode) (first : Bool) (cursor : Cursor) : Except Fault (Option Cursor) :=
  let cursor := cursor.skipBlank
  match cursor.rest with
  | [] => cursor.fail .endInObject
  | c :: rest =>
      if c = '\x7d' then .ok none
      else if first then
        if c = '"' then .ok (some (cursor.skip c rest)) else cursor.failNext .keyMustBeString
      else if c = ',' then
        let after := (cursor.skip c rest).skipBlank
        match after.rest with
        | [] => after.fail (if mode = .skip then .endInObject else .endInValue)
        | d :: tail =>
            if d = '"' then .ok (some (after.skip d tail))
            else if d = '\x7d' ∧ mode = .keep then after.failNext .trailingComma
            else after.failNext .keyMustBeString
      else cursor.failNext .expectedObjectComma

mutual

/-- Reads a value.  `depth` is the number of levels left, `fuel` bounds the recursion. -/
def readValue (mode : Mode) (fuel depth : Nat) (cursor : Cursor) : Read Json :=
  match fuel with
  | 0 => cursor.fail .tooDeep
  | fuel + 1 =>
      let cursor := cursor.skipBlank
      match cursor.rest with
      | [] => cursor.fail .endInValue
      | c :: rest =>
          let after := cursor.skip c rest
          if c = 'n' then (readWord ['u', 'l', 'l'] after).map fun cursor => (.null, cursor)
          else if c = 't' then
            (readWord ['r', 'u', 'e'] after).map fun cursor => (.bool true, cursor)
          else if c = 'f' then
            (readWord ['a', 'l', 's', 'e'] after).map fun cursor => (.bool false, cursor)
          else if c = '-' then
            (readNumber mode true after).map fun (n, cursor) => (.number n, cursor)
          else if Text.isDigit c then
            (readNumber mode false cursor).map fun (n, cursor) => (.number n, cursor)
          else if c = '"' then
            (readString mode after).map fun (s, cursor) => (.string s, cursor)
          else if c = '[' then
            match checkDepth mode depth cursor with
            | .error fault => .error fault
            | .ok () => readItems mode fuel (depth - 1) true [] after
          else if c = '\x7b' then
            match checkDepth mode depth cursor with
            | .error fault => .error fault
            | .ok () => readMembers mode fuel (depth - 1) true [] after
          else cursor.failNext .expectedValue

/-- Reads the items of an array and its closing bracket; `items` holds the ones read, last
first. -/
def readItems (mode : Mode) (fuel depth : Nat) (first : Bool) (items : List Json)
    (cursor : Cursor) : Read Json :=
  match fuel with
  | 0 => cursor.fail .tooDeep
  | fuel + 1 =>
      match nextItem mode first cursor with
      | .error fault => .error fault
      | .ok none => .ok (.array items.reverse, cursor.skipBlank.advance)
      | .ok (some here) =>
          match readValue mode fuel depth here with
          | .error fault => .error fault
          | .ok (item, cursor) => readItems mode fuel depth false (item :: items) cursor

/-- Reads the members of an object and its closing brace; `members` holds the ones read. -/
def readMembers (mode : Mode) (fuel depth : Nat) (first : Bool) (members : List (String × Json))
    (cursor : Cursor) : Read Json :=
  match fuel with
  | 0 => cursor.fail .tooDeep
  | fuel + 1 =>
      match nextKey mode first cursor with
      | .error fault => .error fault
      | .ok none => .ok (.object members, cursor.skipBlank.advance)
      | .ok (some here) =>
          match readString mode here with
          | .error fault => .error fault
          | .ok (key, cursor) =>
              match readColon cursor with
              | .error fault => .error fault
              | .ok cursor =>
                  match readValue mode fuel depth cursor with
                  | .error fault => .error fault
                  | .ok (value, cursor) =>
                      readMembers mode fuel depth false (Entries.insert key value members) cursor

end

/-- The number of levels a text may nest, and one. -/
def depthLimit : Nat := 128

def fuelFor (text : List Char) : Nat := 4 * text.length + 8

def finish {α : Type} (result : α) (cursor : Cursor) : Except Fault α :=
  let cursor := cursor.skipBlank
  if cursor.rest.isEmpty then .ok result else cursor.failNext .trailingCharacters

def parseChars (text : List Char) : Except Fault Json :=
  match readValue .keep (fuelFor text) depthLimit (Cursor.start text) with
  | .error fault => .error fault
  | .ok (value, cursor) => finish value cursor

/-- The value of a whole text, or the wording of the first fault. -/
def parse (text : String) : Except String Json :=
  match parseChars text.toList with
  | .ok value => .ok value
  | .error fault => .error (fault.message text.toList)

/-- The string that a whole text is a literal of, or the wording of the first fault.  The text
starts with a quote. -/
def parseLiteral (text : List Char) : Except String String :=
  match text with
  | '"' :: rest =>
      match readString .keep ⟨rest, 1⟩ with
      | .error fault => .error (fault.message text)
      | .ok (literal, cursor) =>
          match finish literal cursor with
          | .error fault => .error (fault.message text)
          | .ok literal => .ok literal
  | _ => .error (Fault.message ⟨.expectedValue, 0⟩ text)

end Json

end SecretProjection
