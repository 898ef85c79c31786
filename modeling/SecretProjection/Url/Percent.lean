import SecretProjection.Text.Digits
import SecretProjection.Text.Utf8

/-!
# Percent encoding

A character that may not stand in a part of an address is written by its UTF-8 bytes, each as a
percent sign with two hexadecimal digits.  Each part has its own set of such characters; those
beyond ASCII belong to all of them.
-/

namespace SecretProjection

namespace Url

/-! ## Sets -/

def isControl (c : Char) : Bool := c.toNat < 32 || c.toNat == 127

/-- The characters written in code in a fragment. -/
def inFragment (c : Char) : Bool :=
  isControl c || c == ' ' || c == '"' || c == '<' || c == '>' || c == '\x60'

/-- The characters written in code in the query of a scheme. -/
def inQuery (special : Bool) (c : Char) : Bool :=
  isControl c || c == ' ' || c == '"' || c == '#' || c == '<' || c == '>' ||
    (special && c == '\'')

def inPath (c : Char) : Bool :=
  inFragment c || c == '#' || c == '?' || c == '\x7b' || c == '\x7d'

/-- The characters written in code in a user name or a password. -/
def inUserInfo (c : Char) : Bool :=
  inPath c || c == '/' || c == ':' || c == ';' || c == '=' || c == '@' || c == '[' ||
    c == '\\' || c == ']' || c == '^' || c == '|'

/-! ## Encoding -/

/-- The upper case hexadecimal digit of a number below sixteen. -/
def hexDigit (n : Nat) : Char := (Nat.digitChar n).toUpper

def encodeByte (byte : UInt8) : List Char :=
  ['%', hexDigit (byte.toNat / 16), hexDigit (byte.toNat % 16)]

/-- A character as it stands in a part with the given set. -/
def encodeChar (set : Char -> Bool) (c : Char) : List Char :=
  if set c || 128 ≤ c.toNat then (Text.Utf8.encode (String.singleton c)).flatMap encodeByte
  else [c]

/-- A text as it stands in a part with the given set. -/
def encode (set : Char -> Bool) (text : List Char) : List Char := text.flatMap (encodeChar set)

/-! ## Decoding -/

/-- The bytes of a text in which bytes may be in code. -/
def decode : List Char -> Bytes
  | [] => []
  | '%' :: a :: b :: rest =>
      match Text.hexValue? a, Text.hexValue? b with
      | some high, some low => UInt8.ofNat (16 * high + low) :: decode rest
      | _, _ => UInt8.ofNat 37 :: decode (a :: b :: rest)
  | c :: rest => Text.Utf8.encode (String.singleton c) ++ decode rest

end Url

end SecretProjection
