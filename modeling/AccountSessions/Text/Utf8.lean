/-!
# UTF-8

Characters as bytes and bytes as characters.  Reading goes byte by byte and keeps the
character whose first bytes have been seen; the byte that rules a character out ends
the reading, and the fault names the bytes that cannot be read, where they begin and
why.  Where surrogates are in scope they are read like characters of three bytes.
-/

namespace AccountSessions.Text.Utf8

def tailByte (code : Nat) : UInt8 :=
  (0x80 + code % 0x40).toUInt8

def encodeChar (c : Char) : List UInt8 :=
  let code := c.toNat
  if code < 0x80 then [code.toUInt8]
  else if code < 0x800 then [(0xC0 + code / 0x40).toUInt8, tailByte code]
  else if code < 0x10000 then
    [(0xE0 + code / 0x1000).toUInt8, tailByte (code / 0x40), tailByte code]
  else
    [(0xF0 + code / 0x40000).toUInt8, tailByte (code / 0x1000), tailByte (code / 0x40),
      tailByte code]

def encode (cs : List Char) : List UInt8 :=
  cs.flatMap encodeChar

def size (s : String) : Nat :=
  (encode s.toList).length

inductive Reason where
  | invalidStart
  | invalidContinuation
  | unexpectedEnd
  deriving DecidableEq, Repr

structure Fault where
  offset : Nat
  bytes : List UInt8
  reason : Reason
  deriving DecidableEq, Repr

/-- A character whose first bytes have been read: the bits so far, how many bytes are
missing, the bounds of the next one, and the bytes read, the latest first. -/
structure Pending where
  code : Nat
  missing : Nat
  low : Nat
  high : Nat
  seen : List UInt8
  deriving DecidableEq, Repr

/-- Which code points may be spelled: characters alone, or surrogates as well. -/
inductive Scope where
  | characters
  | surrogates
  deriving DecidableEq, Repr

/-- The greatest second byte behind `0xED`, with which the surrogates begin. -/
def Scope.bound : Scope → Nat
  | characters => 0x9F
  | surrogates => 0xBF

def announced (scope : Scope) (byte : UInt8) : Option Pending :=
  let b := byte.toNat
  if b < 0xC2 then none
  else if b < 0xE0 then some ⟨b - 0xC0, 1, 0x80, 0xBF, [byte]⟩
  else if b = 0xE0 then some ⟨0, 2, 0xA0, 0xBF, [byte]⟩
  else if b = 0xED then some ⟨0xD, 2, 0x80, scope.bound, [byte]⟩
  else if b < 0xF0 then some ⟨b - 0xE0, 2, 0x80, 0xBF, [byte]⟩
  else if b = 0xF0 then some ⟨0, 3, 0x90, 0xBF, [byte]⟩
  else if b < 0xF4 then some ⟨b - 0xF0, 3, 0x80, 0xBF, [byte]⟩
  else if b = 0xF4 then some ⟨4, 3, 0x80, 0x8F, [byte]⟩
  else none

def decodeFrom (scope : Scope) (offset : Nat) (read : List Nat) :
    Option Pending → List UInt8 → Except Fault (List Nat)
  | none, [] => .ok read.reverse
  | some pending, [] => .error ⟨offset, pending.seen.reverse, .unexpectedEnd⟩
  | none, byte :: rest =>
    if byte.toNat < 0x80 then
      decodeFrom scope (offset + 1) (byte.toNat :: read) none rest
    else
      match announced scope byte with
      | none => .error ⟨offset, [byte], .invalidStart⟩
      | some pending => decodeFrom scope offset read (some pending) rest
  | some pending, byte :: rest =>
    let b := byte.toNat
    if pending.low ≤ b ∧ b ≤ pending.high then
      let code := pending.code * 0x40 + (b - 0x80)
      if pending.missing ≤ 1 then
        decodeFrom scope (offset + pending.seen.length + 1) (code :: read) none rest
      else
        decodeFrom scope offset read
          (some ⟨code, pending.missing - 1, 0x80, 0xBF, byte :: pending.seen⟩) rest
    else .error ⟨offset, pending.seen.reverse, .invalidContinuation⟩

def decodeCodes (scope : Scope) (bytes : List UInt8) : Except Fault (List Nat) :=
  decodeFrom scope 0 [] none bytes

def decode (bytes : List UInt8) : Except Fault (List Char) :=
  (decodeCodes .characters bytes).map (·.map Char.ofNat)

def Reason.text : Reason → String
  | .invalidStart => "invalid start byte"
  | .invalidContinuation => "invalid continuation byte"
  | .unexpectedEnd => "unexpected end of data"

def hexByte (byte : UInt8) : String :=
  let digits := Nat.toDigits 16 byte.toNat
  String.ofList (List.replicate (2 - digits.length) '0' ++ digits)

def Fault.message (fault : Fault) : String :=
  let place :=
    match fault.bytes with
    | [byte] => "byte 0x" ++ hexByte byte ++ " in position " ++ toString fault.offset
    | bytes =>
      "bytes in position " ++ toString fault.offset ++ "-" ++
        toString (fault.offset + bytes.length - 1)
  "'utf-8' codec can't decode " ++ place ++ ": " ++ fault.reason.text

end AccountSessions.Text.Utf8
