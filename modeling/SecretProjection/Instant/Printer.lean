import SecretProjection.Instant.Calendar
import SecretProjection.Text.Digits

/-!
# Written instants

An instant is written in universal time to whole seconds, such as `2023-11-14T22:13:20Z`; what is
beyond the whole second is cut off.  Years outside the four digit range carry a sign.
-/

namespace SecretProjection

namespace Instant

def yearDigits (year : Int) : List Char :=
  if 0 ≤ year ∧ year ≤ 9999 then Text.paddedDigits 4 year.toNat
  else (if year < 0 then '-' else '+') :: Text.paddedDigits 4 year.natAbs

def chars (t : Instant) : List Char :=
  let date := t.date
  let second := t.secondOfDay
  yearDigits date.year ++ ['-'] ++ Text.paddedDigits 2 date.month ++ ['-'] ++
    Text.paddedDigits 2 date.day ++ ['T'] ++ Text.paddedDigits 2 (second / 3600) ++ [':'] ++
    Text.paddedDigits 2 (second / 60 % 60) ++ [':'] ++ Text.paddedDigits 2 (second % 60) ++ ['Z']

def text (t : Instant) : String := String.ofList t.chars

end Instant

end SecretProjection
