import SecretProjection.Text.Digits
import SecretProjection.Text.Utf8

/-!
# Digests

The hash function SHA-256 on byte sequences.  A message is padded to blocks of 64 bytes, each
block is spread over a schedule of 64 words, and eight running words are mixed with the schedule.
The digest is the running words after the last block, as 64 hexadecimal digits.
-/

namespace SecretProjection

namespace Digest

/-! ## Words -/

structure State where
  a : UInt32
  b : UInt32
  c : UInt32
  d : UInt32
  e : UInt32
  f : UInt32
  g : UInt32
  h : UInt32
  deriving DecidableEq, Repr

def rotate (x : UInt32) (n : UInt32) : UInt32 := (x >>> n) ||| (x <<< (32 - n))

/-- The running words before the first block: the fractions of the square roots of the first
eight primes. -/
def initial : State :=
  ⟨0x6a09e667, 0xbb67ae85, 0x3c6ef372, 0xa54ff53a, 0x510e527f, 0x9b05688c, 0x1f83d9ab, 0x5be0cd19⟩

/-- One word per round: the fractions of the cube roots of the first 64 primes. -/
def roundWords : List UInt32 :=
  [0x428a2f98, 0x71374491, 0xb5c0fbcf, 0xe9b5dba5, 0x3956c25b, 0x59f111f1, 0x923f82a4, 0xab1c5ed5,
   0xd807aa98, 0x12835b01, 0x243185be, 0x550c7dc3, 0x72be5d74, 0x80deb1fe, 0x9bdc06a7, 0xc19bf174,
   0xe49b69c1, 0xefbe4786, 0x0fc19dc6, 0x240ca1cc, 0x2de92c6f, 0x4a7484aa, 0x5cb0a9dc, 0x76f988da,
   0x983e5152, 0xa831c66d, 0xb00327c8, 0xbf597fc7, 0xc6e00bf3, 0xd5a79147, 0x06ca6351, 0x14292967,
   0x27b70a85, 0x2e1b2138, 0x4d2c6dfc, 0x53380d13, 0x650a7354, 0x766a0abb, 0x81c2c92e, 0x92722c85,
   0xa2bfe8a1, 0xa81a664b, 0xc24b8b70, 0xc76c51a3, 0xd192e819, 0xd6990624, 0xf40e3585, 0x106aa070,
   0x19a4c116, 0x1e376c08, 0x2748774c, 0x34b0bcb5, 0x391c0cb3, 0x4ed8aa4a, 0x5b9cca4f, 0x682e6ff3,
   0x748f82ee, 0x78a5636f, 0x84c87814, 0x8cc70208, 0x90befffa, 0xa4506ceb, 0xbef9a3f7, 0xc67178f2]

/-! ## Blocks -/

/-- The word of four bytes, the first one most significant. -/
def wordOf (a b c d : UInt8) : UInt32 :=
  (a.toUInt32 <<< 24) ||| (b.toUInt32 <<< 16) ||| (c.toUInt32 <<< 8) ||| d.toUInt32

/-- The words of a sequence of bytes; fewer than four bytes at the end are dropped. -/
def wordsOf : Bytes -> List UInt32
  | a :: b :: c :: d :: rest => wordOf a b c d :: wordsOf rest
  | _ => []

/-- The word that follows sixteen words of a schedule. -/
def nextWord (window : List UInt32) : UInt32 :=
  let at_ (i : Nat) : UInt32 := window.getD i 0
  let low := rotate (at_ 1) 7 ^^^ rotate (at_ 1) 18 ^^^ (at_ 1 >>> 3)
  let high := rotate (at_ 14) 17 ^^^ rotate (at_ 14) 19 ^^^ (at_ 14 >>> 10)
  at_ 0 + low + at_ 9 + high

/-- The words of a schedule, `count` of them, that start with the sixteen words of `window`. -/
def schedule (window : List UInt32) : Nat -> List UInt32
  | 0 => []
  | count + 1 =>
      match window with
      | [] => []
      | word :: rest => word :: schedule (rest ++ [nextWord window]) count

/-- Mixes one word of the schedule into the running words. -/
def mix (s : State) (word : UInt32 × UInt32) : State :=
  let spread := rotate s.e 6 ^^^ rotate s.e 11 ^^^ rotate s.e 25
  let choice := (s.e &&& s.f) ^^^ ((~~~ s.e) &&& s.g)
  let first := s.h + spread + choice + word.1 + word.2
  let wide := rotate s.a 2 ^^^ rotate s.a 13 ^^^ rotate s.a 22
  let majority := (s.a &&& s.b) ^^^ (s.a &&& s.c) ^^^ (s.b &&& s.c)
  ⟨first + (wide + majority), s.a, s.b, s.c, s.d + first, s.e, s.f, s.g⟩

/-- The running words after a block of sixteen words. -/
def absorb (s : State) (block : List UInt32) : State :=
  let t := (roundWords.zip (schedule block 64)).foldl mix s
  ⟨s.a + t.a, s.b + t.b, s.c + t.c, s.d + t.d, s.e + t.e, s.f + t.f, s.g + t.g, s.h + t.h⟩

/-- The running words after `count` blocks. -/
def absorbAll (s : State) (words : List UInt32) : Nat -> State
  | 0 => s
  | count + 1 => absorbAll (absorb s (words.take 16)) (words.drop 16) count

/-! ## Messages -/

/-- The bytes of a number, `count` of them, the most significant first. -/
def bytesOf (n : Nat) : Nat -> Bytes
  | 0 => []
  | count + 1 => UInt8.ofNat (n / Nat.pow 256 count) :: bytesOf n count

/-- The bytes that fill up a message of a given length to whole blocks. -/
def padding (length : Nat) : Bytes :=
  0x80 :: (List.replicate ((119 - length % 64) % 64) 0 ++ bytesOf (8 * length) 8)

/-- The running words after a whole message. -/
def state (message : Bytes) : State :=
  let words := wordsOf (message ++ padding message.length)
  absorbAll initial words (words.length / 16)

def wordDigits (word : UInt32) : List Char :=
  let digits := Text.hexDigits word.toNat
  List.replicate (8 - digits.length) '0' ++ digits

/-- The digest of a message in lower case hexadecimal digits. -/
def sha256 (message : Bytes) : String :=
  let s := state message
  String.ofList ([s.a, s.b, s.c, s.d, s.e, s.f, s.g, s.h].flatMap wordDigits)

end Digest

end SecretProjection
