import SecretProjection.Instant.Calendar
import SecretProjection.Text.Blank
import SecretProjection.Text.Digits

/-!
# Reading instants

A written instant is a date, a letter `t` or a blank, a time of day and the distance from
universal time, such as `2023-11-14T22:13:20.5+02:00`.  The fields need not be padded, white
space may stand before each of them, and decimals behind the ninth are dropped.  The sixtieth
second of a minute is the start of the next minute.
-/

namespace SecretProjection

namespace Instant

/-! ## Faults -/

inductive Fault where
  | outOfRange
  | impossible
  | invalid
  | tooShort
  | tooLong
  deriving DecidableEq, Repr

def Fault.message : Fault -> String
  | .outOfRange => "input is out of range"
  | .impossible => "no possible date and time matching input"
  | .invalid => "input contains invalid characters"
  | .tooShort => "premature end of input"
  | .tooLong => "trailing input"

/-- A value and the text behind it. -/
abbrev Read (α : Type) := Except Fault (α × List Char)

/-! ## Pieces -/

/-- The number of up to `width` digits at the start of a text. -/
def readNumber (width : Nat) (text : List Char) : Read Nat :=
  match text with
  | [] => .error .tooShort
  | c :: _ =>
      if Text.isDigit c then
        let digits := (text.take width).takeWhile Text.isDigit
        let value := Text.digitsValue digits
        if value < Nat.pow 2 63 then .ok (value, text.drop digits.length) else .error .outOfRange
      else .error .invalid

/-- A number of up to two digits within bounds, behind white space. -/
def readField (low high : Nat) (text : List Char) : Read Nat :=
  match readNumber 2 (Text.trimStart text) with
  | .error fault => .error fault
  | .ok (value, rest) =>
      if low ≤ value ∧ value ≤ high then .ok (value, rest) else .error .outOfRange

/-- A year.  With a sign it may have any number of digits, else up to four. -/
def readYear (text : List Char) : Read Int :=
  let bounded (year : Int) (rest : List Char) : Read Int :=
    if -Int.pow 2 31 ≤ year ∧ year < Int.pow 2 31 then .ok (year, rest) else .error .outOfRange
  match Text.trimStart text with
  | '-' :: rest =>
      match readNumber rest.length rest with
      | .error fault => .error fault
      | .ok (year, rest) => bounded (-(year : Int)) rest
  | '+' :: rest =>
      match readNumber rest.length rest with
      | .error fault => .error fault
      | .ok (year, rest) => bounded year rest
  | rest =>
      match readNumber 4 rest with
      | .error fault => .error fault
      | .ok (year, rest) => bounded year rest

/-- Passes over a separator, behind white space. -/
def readSeparator (separator : Char) (text : List Char) : Except Fault (List Char) :=
  match Text.trimStart text with
  | [] => .error .tooShort
  | c :: rest => if c = separator then .ok rest else .error .invalid

def readFraction : List Char -> Read Nat
  | '.' :: rest =>
      match readNumber 9 rest with
      | .error fault => .error fault
      | .ok (value, after) =>
          let width := (rest.takeWhile Text.isDigit).length
          .ok (value * Nat.pow 10 (9 - width), after.dropWhile Text.isDigit)
  | text => .ok (0, text)

def readPair : List Char -> Read (Nat × Nat)
  | a :: b :: rest =>
      if Text.isDigit a && Text.isDigit b then .ok ((a.toNat - 48, b.toNat - 48), rest)
      else .error .invalid
  | _ => .error .tooShort

/-- Whether a text starts with a word, in either case. -/
def startsWithWord (word text : List Char) : Bool :=
  (text.take word.length).map Char.toUpper == word

/-- The seconds of hours and minutes behind a sign. -/
def readClock (text : List Char) : Read Nat :=
  match readPair text with
  | .error fault => .error fault
  | .ok ((h1, h2), rest) =>
      match readPair (rest.dropWhile fun c => c == ':' || Text.isBlank c) with
      | .error fault => .error fault
      | .ok ((m1, m2), rest) =>
          if 6 ≤ m1 then .error .outOfRange
          else .ok ((h1 * 10 + h2) * 3600 + (m1 * 10 + m2) * 60, rest)

/-- The seconds by which the local time is ahead of universal time. -/
def readOffset (text : List Char) : Read Int :=
  let text := Text.trimStart text
  if startsWithWord ['U', 'T', 'C'] text then .ok (0, text.drop 3)
  else
    match text with
    | [] => .error .tooShort
    | c :: rest =>
        if c = 'Z' ∨ c = 'z' then .ok (0, rest)
        else if c = '+' then (readClock rest).map fun found => ((found.1 : Int), found.2)
        else if c = '-' ∨ c = '−' then
          (readClock rest).map fun found => (-(found.1 : Int), found.2)
        else .error .invalid

/-! ## Instants -/

structure Fields where
  date : Date
  hour : Nat
  minute : Nat
  second : Nat
  subsecond : Nat
  offset : Int
  deriving DecidableEq, Repr

def readDate (text : List Char) : Except Fault (Date × List Char) := do
  let (year, text) <- readYear text
  let text <- readSeparator '-' text
  let (month, text) <- readField 1 12 text
  let text <- readSeparator '-' text
  let (day, text) <- readField 1 31 text
  return (⟨year, month, day⟩, text)

/-- Passes over the mark between the date and the time of day. -/
def readMark : List Char -> Except Fault (List Char)
  | [] => .error .tooShort
  | c :: rest => if c = 'T' ∨ c = 't' ∨ c = ' ' then .ok rest else .error .invalid

/-- All fields of a text that holds nothing else. -/
def readFields (text : List Char) : Except Fault Fields := do
  let (date, text) <- readDate text
  let text <- readMark text
  let (hour, text) <- readField 0 23 text
  let text <- readSeparator ':' text
  let (minute, text) <- readField 0 59 text
  let text <- readSeparator ':' text
  let (second, text) <- readField 0 60 text
  let (subsecond, text) <- readFraction text
  let (offset, text) <- readOffset text
  if Text.trimStart text = [] then
    return { date, hour, minute, second, subsecond, offset }
  else .error .tooLong

def ofFields (f : Fields) : Except Fault Instant :=
  let days := f.date.toDays
  let local_ := days * 86400 + f.hour * 3600 + f.minute * 60 + f.second
  if ¬ f.date.exists? ∨ days * 86400 < firstSecond ∨ lastSecond < days * 86400 then
    .error .outOfRange
  else if f.offset ≤ -86400 ∨ 86400 ≤ f.offset then .error .outOfRange
  else
    match ofParts? (local_ - f.offset) f.subsecond with
    | none => .error .impossible
    | some t => .ok t

def parseChars (text : List Char) : Except Fault Instant :=
  match readFields text with
  | .error fault => .error fault
  | .ok fields => ofFields fields

def parse (text : String) : Except Fault Instant := parseChars text.toList

end Instant

end SecretProjection
