import SecretProjection.Text.Utf8

/-!
# Base64

The standard alphabet with padding.  Only the canonical spelling of a byte list is read: the
padding must be there and the unused bits of the last symbol must be zero.  A fault names the
first place at which the spelling goes wrong.
-/

namespace SecretProjection

namespace Text

namespace Base64

/-! ## Symbols -/

def symbol (n : Nat) : Char :=
  if n < 26 then Char.ofNat (65 + n)
  else if n < 52 then Char.ofNat (97 + (n - 26))
  else if n < 62 then Char.ofNat (48 + (n - 52))
  else if n = 62 then '+'
  else '/'

/-- The number of a symbol, given as an ASCII byte. -/
def value? (b : UInt8) : Option Nat :=
  let n := b.toNat
  if 65 ≤ n && n ≤ 90 then some (n - 65)
  else if 97 ≤ n && n ≤ 122 then some (n - 97 + 26)
  else if 48 ≤ n && n ≤ 57 then some (n - 48 + 52)
  else if n = 43 then some 62
  else if n = 47 then some 63
  else none

def pad : UInt8 := 61

/-! ## Writing -/

/-- The symbols of a byte list: four for each three bytes, padded at the end. -/
def encode : Bytes -> List Char
  | [] => []
  | [a] => [symbol (a.toNat / 4), symbol (a.toNat % 4 * 16), '=', '=']
  | [a, b] =>
      [symbol (a.toNat / 4), symbol (a.toNat % 4 * 16 + b.toNat / 16),
        symbol (b.toNat % 16 * 4), '=']
  | a :: b :: c :: rest =>
      symbol (a.toNat / 4) :: symbol (a.toNat % 4 * 16 + b.toNat / 16) ::
        symbol (b.toNat % 16 * 4 + c.toNat / 64) :: symbol (c.toNat % 64) :: encode rest

/-! ## Reading -/

inductive Fault where
  | badSymbol (byte : UInt8) (offset : Nat)
  | badLength (length : Nat)
  | badLastSymbol (byte : UInt8) (offset : Nat)
  | badPadding
  deriving DecidableEq, Repr

def Fault.message : Fault -> String
  | .badSymbol byte offset =>
      "Invalid symbol " ++ toString byte.toNat ++ ", offset " ++ toString offset ++ "."
  | .badLength length => "Invalid input length: " ++ toString length
  | .badLastSymbol byte offset =>
      "Invalid last symbol " ++ toString byte.toNat ++ ", offset " ++ toString offset ++ "."
  | .badPadding => "Invalid padding"

/-- The numbers of a row of symbols that starts at an offset. -/
def values (offset : Nat) : Bytes -> Except Fault (List Nat)
  | [] => .ok []
  | b :: rest =>
      match value? b with
      | none => .error (.badSymbol b offset)
      | some n => (values (offset + 1) rest).map (n :: ·)

/-- The bytes of the last group of at most four symbols, which alone may hold padding. -/
def decodeLast (offset : Nat) (group : Bytes) : Except Fault Bytes := do
  let symbols := group.takeWhile (· != pad)
  let padding := group.dropWhile (· != pad)
  let numbers <- values offset symbols
  if padding ≠ [] && (symbols.length < 2 || padding.any (· != pad)) then
    throw (.badSymbol pad (offset + symbols.length))
  if symbols.length < 2 then throw (.badLength (offset + symbols.length))
  if (padding.length + symbols.length) % 4 ≠ 0 then throw .badPadding
  let last := symbols.getLastD 0
  match numbers with
  | [a, b] =>
      if b % 16 ≠ 0 then throw (.badLastSymbol last (offset + 1))
      else return [UInt8.ofNat (a * 4 + b / 16)]
  | [a, b, c] =>
      if c % 4 ≠ 0 then throw (.badLastSymbol last (offset + 2))
      else return [UInt8.ofNat (a * 4 + b / 16), UInt8.ofNat (b % 16 * 16 + c / 4)]
  | [a, b, c, d] =>
      return [UInt8.ofNat (a * 4 + b / 16), UInt8.ofNat (b % 16 * 16 + c / 4),
        UInt8.ofNat (c % 4 * 64 + d)]
  | _ => throw .badPadding

/-- The bytes spelled from an offset on: whole groups while more than one group is left. -/
def decodeFrom (offset : Nat) : Bytes -> Except Fault Bytes
  | a :: b :: c :: d :: e :: rest =>
      match values offset [a, b, c, d] with
      | .error fault => .error fault
      | .ok numbers =>
          match numbers with
          | [a, b, c, d] =>
              (decodeFrom (offset + 4) (e :: rest)).map fun tail =>
                UInt8.ofNat (a * 4 + b / 16) :: UInt8.ofNat (b % 16 * 16 + c / 4) ::
                  UInt8.ofNat (c % 4 * 64 + d) :: tail
          | _ => .error .badPadding
  | group => decodeLast offset group

/-- The bytes of a spelling.  A stray byte after whole groups is reported before all else. -/
def decode (spelling : Bytes) : Except Fault Bytes :=
  if spelling = [] then .ok []
  else
    let last := spelling.getLastD 0
    if spelling.length % 4 = 1 && last != pad && (value? last).isNone then
      .error (.badSymbol last (spelling.length - 1))
    else decodeFrom 0 spelling

end Base64

end Text

end SecretProjection
