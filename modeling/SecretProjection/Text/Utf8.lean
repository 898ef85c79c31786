/-!
# UTF-8

Texts as byte lists and back.  Reading refuses exactly the byte lists that are no encoding of a
text and then names the place: either a run of bytes that cannot continue the sequence, or a
sequence that the end of the input cuts off.
-/

namespace SecretProjection

abbrev Bytes := List UInt8

namespace Text

namespace Utf8

/-- Why a byte list is no UTF-8 text. -/
inductive Fault where
  /-- The bytes from `index` on break the encoding after `length` of them. -/
  | invalid (length index : Nat)
  /-- The sequence that starts at `index` is cut off by the end. -/
  | incomplete (index : Nat)
  deriving DecidableEq, Repr

def Fault.message : Fault -> String
  | .invalid length index =>
      "invalid utf-8 sequence of " ++ toString length ++ " bytes from index " ++ toString index
  | .incomplete index => "incomplete utf-8 byte sequence from index " ++ toString index

def encode (text : String) : Bytes := text.toUTF8.toList

def isContinuation (b : UInt8) : Bool := 0x80 ≤ b && b ≤ 0xBF

/-- Whether the second byte of a sequence fits the first: it continues, and the two together
stay clear of overlong forms, surrogates and numbers beyond the last character. -/
def secondFits (first second : UInt8) : Bool :=
  isContinuation second &&
    (if first == 0xE0 then 0xA0 ≤ second
     else if first == 0xED then second ≤ 0x9F
     else if first == 0xF0 then 0x90 ≤ second
     else if first == 0xF4 then second ≤ 0x8F
     else true)

/-- The number of bytes of a sequence by its first byte; zero if no sequence starts so. -/
def sequenceLength (first : UInt8) : Nat :=
  if first < 0x80 then 1
  else if 0xC2 ≤ first && first ≤ 0xDF then 2
  else if 0xE0 ≤ first && first ≤ 0xEF then 3
  else if 0xF0 ≤ first && first ≤ 0xF4 then 4
  else 0

/-- What is wrong with the sequence of `length` bytes that starts at `index`; `none` when its
bytes are all there and fit. -/
def sequenceFault? (index length : Nat) (first : UInt8) (rest : Bytes) : Option Fault :=
  if length = 0 then some (.invalid 1 index)
  else if length = 1 then none
  else
    match rest with
    | [] => some (.incomplete index)
    | second :: rest =>
        if !secondFits first second then some (.invalid 1 index)
        else if length = 2 then none
        else
          match rest with
          | [] => some (.incomplete index)
          | third :: rest =>
              if !isContinuation third then some (.invalid 2 index)
              else if length = 3 then none
              else
                match rest with
                | [] => some (.incomplete index)
                | fourth :: _ =>
                    if !isContinuation fourth then some (.invalid 3 index) else none

/-- The first fault at or after `index`; `skip` bytes still belong to a sequence already seen. -/
def firstFault? (index skip : Nat) : Bytes -> Option Fault
  | [] => none
  | b :: rest =>
      if skip ≠ 0 then firstFault? (index + 1) (skip - 1) rest
      else
        match sequenceFault? index (sequenceLength b) b rest with
        | some fault => some fault
        | none => firstFault? (index + 1) (sequenceLength b - 1) rest

def decode (bytes : Bytes) : Except Fault String :=
  match String.fromUTF8? ⟨bytes.toArray⟩ with
  | some text => .ok text
  | none => .error ((firstFault? 0 0 bytes).getD (.incomplete bytes.length))

end Utf8

end Text

end SecretProjection
