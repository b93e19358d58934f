/-!
# Base64 for URLs

Three bytes become four letters.  Writing uses the alphabet with `-` and `_` and leaves
the padding out.  Reading is lenient: it also takes `+` and `/`, skips every byte
outside the alphabet, ends at a completed padding and ignores the bits that are left
over.  The text is padded beforehand by what its length lacks to a multiple of four.
-/

namespace AccountSessions.Base64

def letter (value : Nat) : Char :=
  if value < 26 then Char.ofNat ('A'.toNat + value)
  else if value < 52 then Char.ofNat ('a'.toNat + (value - 26))
  else if value < 62 then Char.ofNat ('0'.toNat + (value - 52))
  else if value = 62 then '-'
  else '_'

/-- The value of a letter of either alphabet. -/
def value? (byte : UInt8) : Option Nat :=
  let b := byte.toNat
  if 0x41 ≤ b ∧ b ≤ 0x5A then some (b - 0x41)
  else if 0x61 ≤ b ∧ b ≤ 0x7A then some (b - 0x61 + 26)
  else if 0x30 ≤ b ∧ b ≤ 0x39 then some (b - 0x30 + 52)
  else if b = 0x2D ∨ b = 0x2B then some 62
  else if b = 0x5F ∨ b = 0x2F then some 63
  else none

def encode : List UInt8 → List Char
  | [] => []
  | [a] => [letter (a.toNat / 4), letter (a.toNat % 4 * 16)]
  | [a, b] =>
    [letter (a.toNat / 4), letter (a.toNat % 4 * 16 + b.toNat / 16),
      letter (b.toNat % 16 * 4)]
  | a :: b :: c :: rest =>
    letter (a.toNat / 4) :: letter (a.toNat % 4 * 16 + b.toNat / 16) ::
      letter (b.toNat % 16 * 4 + c.toNat / 64) :: letter (c.toNat % 64) :: encode rest

inductive Fault where
  | loneLetter (letters : Nat)
  | incompletePadding
  deriving DecidableEq, Repr

/-- How far the reading of a group of four has come: the number of letters read, the
bits left from the latest one, and the number of padding marks since. -/
structure Progress where
  letters : Nat
  bits : Nat
  marks : Nat
  deriving DecidableEq, Repr

def Progress.start : Progress := ⟨0, 0, 0⟩

def decodeFrom (progress : Progress) (read : List UInt8) :
    List UInt8 → Except Fault (List UInt8)
  | [] =>
    match progress.letters with
    | 0 => .ok read.reverse
    | 1 => .error (.loneLetter (read.length / 3 * 4 + 1))
    | _ => .error .incompletePadding
  | byte :: rest =>
    if byte = 0x3D then
      if 2 ≤ progress.letters then
        if 4 ≤ progress.letters + progress.marks + 1 then .ok read.reverse
        else decodeFrom { progress with marks := progress.marks + 1 } read rest
      else decodeFrom progress read rest
    else
      match value? byte with
      | none => decodeFrom progress read rest
      | some v =>
        match progress.letters with
        | 0 => decodeFrom ⟨1, v, 0⟩ read rest
        | 1 => decodeFrom ⟨2, v % 16, 0⟩ ((progress.bits * 4 + v / 16).toUInt8 :: read) rest
        | 2 => decodeFrom ⟨3, v % 4, 0⟩ ((progress.bits * 16 + v / 4).toUInt8 :: read) rest
        | _ => decodeFrom ⟨0, 0, 0⟩ ((progress.bits * 64 + v).toUInt8 :: read) rest

def padded (letters : List UInt8) : List UInt8 :=
  letters ++ List.replicate ((4 - letters.length % 4) % 4) 0x3D

def decode (letters : List UInt8) : Except Fault (List UInt8) :=
  decodeFrom .start [] (padded letters)

def Fault.message : Fault → String
  | .loneLetter letters =>
    "Invalid base64-encoded string: number of data characters (" ++ toString letters ++
      ") cannot be 1 more than a multiple of 4"
  | .incompletePadding => "Incorrect padding"

end AccountSessions.Base64
