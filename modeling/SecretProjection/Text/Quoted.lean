import SecretProjection.Text.Digits
import SecretProjection.Text.Unprintable

/-!
# Quoted diagnostics

Texts inside diagnostics stand between double quotes.  Quotes, backslashes and the common
controls are written with a backslash, other unprintable characters by their number in lower
case hexadecimal digits.
-/

namespace SecretProjection

namespace Text

namespace Quoted

/-- One character as it stands inside a quoted text. -/
def escape (c : Char) : List Char :=
  if c == '"' then ['\\', '"']
  else if c == '\\' then ['\\', '\\']
  else if c == '\t' then ['\\', 't']
  else if c == '\r' then ['\\', 'r']
  else if c == '\n' then ['\\', 'n']
  else if c == '\x00' then ['\\', '0']
  else if isUnprintable c then ['\\', 'u', '\x7b'] ++ hexDigits c.toNat ++ ['\x7d']
  else [c]

end Quoted

def quoted (text : String) : String :=
  String.ofList ('"' :: (text.toList.flatMap Quoted.escape ++ ['"']))

end Text

end SecretProjection
