/-!
# Punycode

Labels of domain names in characters beyond ASCII are written in ASCII (RFC 3492): the ASCII
characters first, then for each other character, from the smallest on, how far to go through the
positions and code points until it comes up, as a number with digits of varying weight.
-/

namespace SecretProjection

namespace Url

namespace Punycode

/-- The digit for a number below 36: the letters, then the ten digits. -/
def digit (n : Nat) : Char := if n < 26 then Char.ofNat (97 + n) else Char.ofNat (22 + n)

/-- The weight of the digit at a position. -/
def threshold (position bias : Nat) : Nat :=
  if position ≤ bias then 1 else if bias + 26 ≤ position then 26 else position - bias

/-- Divides until the number is small and counts the divisions. -/
def reduce (delta steps : Nat) : Nat × Nat :=
  if 455 < delta then reduce (delta / 35) (steps + 1) else (delta, steps)
termination_by delta
decreasing_by exact Nat.div_lt_self (by omega) (by omega)

/-- The bias after a distance has been written. -/
def adapt (delta count : Nat) (first : Bool) : Nat :=
  let scaled := if first then delta / 700 else delta / 2
  let (rest, steps) := reduce (scaled + scaled / count) 0
  36 * steps + 36 * rest / (rest + 38)

/-- The digits of a distance; `fuel` bounds their number. -/
def distance (fuel q position bias : Nat) : List Char :=
  match fuel with
  | 0 => []
  | fuel + 1 =>
      let t := threshold position bias
      if q < t then [digit q]
      else digit (t + (q - t) % (36 - t)) :: distance fuel ((q - t) / (36 - t)) (position + 36) bias

/-- The state of writing: distance so far, bias, characters written. -/
structure Progress where
  delta : Nat
  bias : Nat
  written : Nat
  output : List Char

/-- Passes over the label once and writes the occurrences of the code point `n`. -/
def pass (n basic : Nat) (label : List Char) (progress : Progress) : Progress :=
  label.foldl (fun p c =>
    if c.toNat < n then { p with delta := p.delta + 1 }
    else if c.toNat = n then
      { delta := 0
        bias := adapt p.delta (p.written + 1) (p.written == basic)
        written := p.written + 1
        output := p.output ++ distance (p.delta + 1) p.delta 36 p.bias }
    else p) progress

/-- Writes the code points of a list, which increase; `last` is the one before them. -/
def writeAll (basic : Nat) (label : List Char) (last : Nat) (progress : Progress) :
    List Nat -> List Char
  | [] => progress.output
  | n :: rest =>
      let skipped :=
        { progress with delta := progress.delta + (n - last) * (progress.written + 1) }
      let done := pass n basic label skipped
      writeAll basic label (n + 1) { done with delta := done.delta + 1 } rest

/-- The distinct code points beyond ASCII of a label, from the smallest on. -/
def codePoints (label : List Char) : List Nat :=
  ((label.map Char.toNat).filter (128 ≤ ·)).mergeSort.eraseDups

/-- A label in ASCII, without the sign in front of it. -/
def encode (label : List Char) : List Char :=
  let ascii := label.filter (·.toNat < 128)
  let start := if ascii = [] then [] else ascii ++ ['-']
  writeAll ascii.length label 128 ⟨0, 72, ascii.length, start⟩ (codePoints label)

end Punycode

end Url

end SecretProjection
