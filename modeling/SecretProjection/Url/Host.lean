import SecretProjection.Text.LetterCase
import SecretProjection.Url.Basic
import SecretProjection.Url.Percent
import SecretProjection.Url.Punycode

/-!
# Hosts

A host is a domain, an IPv4 address or an IPv6 address in brackets.  Domains are written in lower
case ASCII, IPv4 addresses as four decimal numbers, and IPv6 addresses with the longest run of
zeros left out.
-/

namespace SecretProjection

namespace Url

/-! ## Splitting -/

def splitBy (isSeparator : Char -> Bool) : List Char -> List (List Char)
  | [] => [[]]
  | c :: rest =>
      if isSeparator c then [] :: splitBy isSeparator rest
      else
        match splitBy isSeparator rest with
        | [] => [[c]]
        | part :: parts => (c :: part) :: parts

def valueIn (base : Nat) (digits : List Char) : Option Nat :=
  digits.foldl (fun acc c => do
    let n <- acc
    let d <- Text.hexValue? c
    if d < base then some (base * n + d) else none) (some 0)

/-! ## IPv4 -/

/-- The number of a part, in decimal, octal or hexadecimal digits. -/
def ipv4Number? : List Char -> Option Nat
  | [] => none
  | '0' :: 'x' :: digits => valueIn 16 digits
  | '0' :: 'X' :: digits => valueIn 16 digits
  | '0' :: d :: digits => valueIn 8 (d :: digits)
  | digits => valueIn 10 digits

/-- The parts of a domain without the empty one behind a last dot. -/
def domainParts (domain : List Char) : List (List Char) :=
  let parts := splitBy (· == '.') domain
  if parts.getLast? = some [] then parts.dropLast else parts

def endsInNumber (domain : List Char) : Bool :=
  match (domainParts domain).getLast? with
  | none => false
  | some part => (part ≠ [] && part.all Text.isDigit) || (ipv4Number? part).isSome

/-- The value of the numbers before the last one, the first of them most significant. -/
def ipv4Front : Nat -> List Nat -> Nat
  | _, [] => 0
  | place, n :: rest => n * Nat.pow 256 place + ipv4Front (place - 1) rest

def ipv4Value? (numbers : List Nat) : Option Nat :=
  match numbers.getLast? with
  | none => none
  | some last =>
      let front := numbers.dropLast
      if 3 < front.length then none
      else if Nat.pow 256 (4 - front.length) ≤ last then none
      else if front.any (255 < ·) then none
      else some (last + ipv4Front 3 front)

/-- The characters of an IPv4 address. -/
def ipv4Chars (value : Nat) : List Char :=
  Nat.toDigits 10 (value / Nat.pow 256 3) ++ '.' ::
    (Nat.toDigits 10 (value / Nat.pow 256 2 % 256) ++ '.' ::
      (Nat.toDigits 10 (value / 256 % 256) ++ '.' :: Nat.toDigits 10 (value % 256)))

/-- The IPv4 address of a domain. -/
def ipv4 (domain : List Char) : Except Fault (List Char) :=
  match (domainParts domain).mapM ipv4Number? with
  | none => .error .badIpv4
  | some numbers =>
      match ipv4Value? numbers with
      | none => .error .badIpv4
      | some value => .ok (ipv4Chars value)

/-! ## IPv6 -/

/-- The numbers of an IPv4 address inside an IPv6 address: four decimal numbers without zeros in
front. -/
def ipv4Pieces? (text : List Char) : Option (List Nat) := do
  let parts := splitBy (· == '.') text
  let numbers <- parts.mapM fun part =>
    if part.head? = some '0' && 1 < part.length then none else Text.natural? part
  if numbers.length = 4 && numbers.all (· ≤ 255) then
    match numbers with
    | [a, b, c, d] => some [256 * a + b, 256 * c + d]
    | _ => none
  else none

/-- The number of one to four hexadecimal digits. -/
def ipv6Piece? (text : List Char) : Option Nat :=
  if text = [] || 4 < text.length then none else valueIn 16 text

/-- The pieces between colons; an IPv4 address may stand at the end. -/
def ipv6Pieces? (mayEnd : Bool) : List (List Char) -> Option (List Nat)
  | [] => some []
  | [last] =>
      if mayEnd && last.contains '.' then ipv4Pieces? last
      else (ipv6Piece? last).map fun n => [n]
  | part :: rest => do
      let n <- ipv6Piece? part
      let pieces <- ipv6Pieces? mayEnd rest
      return n :: pieces

/-- The pieces of a side of the gap; an empty side has none. -/
def ipv6Side? (mayEnd : Bool) (text : List Char) : Option (List Nat) :=
  if text = [] then some [] else ipv6Pieces? mayEnd (splitBy (· == ':') text)

/-- The text before the first gap and the text behind it. -/
def splitGap : List Char -> Option (List Char × List Char)
  | [] => none
  | ':' :: ':' :: rest => some ([], rest)
  | c :: rest => (splitGap rest).map fun split => (c :: split.1, split.2)

/-- The eight pieces of an IPv6 address. -/
def ipv6Value? (text : List Char) : Option (List Nat) :=
  match splitGap text with
  | none => do
      let pieces <- ipv6Side? true text
      if pieces.length = 8 then some pieces else none
  | some (before, after) => do
      let front <- ipv6Side? false before
      let back <- ipv6Side? true after
      let count := front.length + back.length
      if count < 8 then some (front ++ List.replicate (8 - count) 0 ++ back) else none

def zeroRun (pieces : List Nat) : Nat := (pieces.takeWhile (· == 0)).length

/-- Place and length of the longest run of zeros, the first of equal ones. -/
def longestRun (place : Nat) : List Nat -> Nat × Nat
  | [] => (place, 0)
  | piece :: rest =>
      let here := zeroRun (piece :: rest)
      let later := longestRun (place + 1) rest
      if later.2 ≤ here then (place, here) else later

def pieceChars (pieces : List Nat) : List Char :=
  [':'].intercalate (pieces.map Text.hexDigits)

/-- The characters of an IPv6 address in brackets. -/
def ipv6Chars (pieces : List Nat) : List Char :=
  let (place, length) := longestRun 0 pieces
  let inner :=
    if 2 ≤ length then
      pieceChars (pieces.take place) ++ [':', ':'] ++ pieceChars (pieces.drop (place + length))
    else pieceChars pieces
  '[' :: (inner ++ [']'])

/-- The IPv6 address of a text in brackets; the text starts behind the opening one. -/
def ipv6 (text : List Char) : Except Fault (List Char) :=
  if text.getLast? = some ']' then
    match ipv6Value? text.dropLast with
    | some pieces => .ok (ipv6Chars pieces)
    | none => .error .badIpv6
  else .error .badIpv6

/-! ## Domains -/

def isForbidden (c : Char) : Bool :=
  c == '\x00' || c == '\t' || c == '\n' || c == '\r' || c == ' ' || c == '#' || c == '/' ||
    c == ':' || c == '<' || c == '>' || c == '?' || c == '@' || c == '[' || c == '\\' ||
    c == ']' || c == '^' || c == '|'

def isForbiddenInDomain (c : Char) : Bool := isForbidden c || isControl c || c == '%'

def labelChars (label : List Char) : List Char :=
  if label.all (·.toNat < 128) then label
  else ['x', 'n', '-', '-'] ++ Punycode.encode label

def domain (text : String) : Except Fault (List Char) :=
  let lower := (Text.lower text).toList
  if lower.any isForbiddenInDomain || lower.contains '\uFFFD' then .error .badDomain
  else .ok (['.'].intercalate ((splitBy (· == '.') lower).map labelChars))

/-- The host of an address with a special scheme. -/
def specialHost (text : List Char) : Except Fault (List Char) :=
  match text with
  | '[' :: rest => ipv6 rest
  | _ =>
      match Text.Utf8.decode (decode text) with
      | .error _ => .error .badDomain
      | .ok decoded =>
          match domain decoded with
          | .error fault => .error fault
          | .ok name =>
              if name = [] then .error .emptyHost
              else if endsInNumber name then ipv4 name
              else .ok name

def otherHost (text : List Char) : Except Fault (List Char) :=
  match text with
  | '[' :: rest => ipv6 rest
  | _ => if text.any isForbidden then .error .badHostCharacter else .ok (encode isControl text)

end Url

end SecretProjection
