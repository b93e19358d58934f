import AccountSessions.Json.Reader
import AccountSessions.Json.Writer
import AccountSessions.Text.Utf8

/-!
# JSON in bytes

Bytes spell a JSON text in one of the Unicode encodings, which the mark at their front
or the zeros among the first four of them give away.  A surrogate that stands alone is
read as the escape that spells it.
-/

namespace AccountSessions.Json

inductive Endian where
  | big
  | little
  deriving DecidableEq, Repr

inductive Encoding where
  | bytes
  | pairs (endian : Endian)
  | quads (endian : Endian)
  deriving DecidableEq, Repr

def markedEncoding? : List UInt8 → Option (Encoding × List UInt8)
  | 0x00 :: 0x00 :: 0xFE :: 0xFF :: rest => some (.quads .big, rest)
  | 0xFF :: 0xFE :: 0x00 :: 0x00 :: rest => some (.quads .little, rest)
  | 0xFE :: 0xFF :: rest => some (.pairs .big, rest)
  | 0xFF :: 0xFE :: rest => some (.pairs .little, rest)
  | 0xEF :: 0xBB :: 0xBF :: rest => some (.bytes, rest)
  | _ => none

/-- The encoding that the first bytes suggest where there is no mark: a text begins with
two characters of ASCII, whose zeros show. -/
def likelyEncoding : List UInt8 → Encoding
  | [a, b] =>
    if a = 0 then .pairs .big else if b = 0 then .pairs .little else .bytes
  | a :: b :: c :: d :: _ =>
    if a = 0 then (if b = 0 then .quads .big else .pairs .big)
    else if b = 0 then (if c = 0 ∧ d = 0 then .quads .little else .pairs .little)
    else .bytes
  | _ => .bytes

def Endian.value (endian : Endian) (unit : List UInt8) : Nat :=
  let bytes :=
    match endian with
    | big => unit
    | little => unit.reverse
  bytes.foldl (fun value byte => value * 0x100 + byte.toNat) 0

def pairUnits? (endian : Endian) : List UInt8 → Option (List Nat)
  | [] => some []
  | a :: b :: rest => (pairUnits? endian rest).map (endian.value [a, b] :: ·)
  | _ => none

def quadUnits? (endian : Endian) : List UInt8 → Option (List Nat)
  | [] => some []
  | a :: b :: c :: d :: rest => (quadUnits? endian rest).map (endian.value [a, b, c, d] :: ·)
  | _ => none

def joinSurrogates : List Nat → List Nat
  | high :: low :: rest =>
    if isHighSurrogate high ∧ isLowSurrogate low then
      (0x10000 + (high - 0xD800) * 0x400 + (low - 0xDC00)) :: joinSurrogates rest
    else high :: joinSurrogates (low :: rest)
  | units => units

def Encoding.decode? : Encoding → List UInt8 → Option (List Nat)
  | bytes, spelled => (Text.Utf8.decodeCodes .surrogates spelled).toOption
  | pairs endian, spelled => (pairUnits? endian spelled).map joinSurrogates
  | quads endian, spelled =>
    (quadUnits? endian spelled).filter (·.all fun code => decide (code < 0x110000))

def spell (code : Nat) : List Char :=
  if JsonString.isScalar code then [Char.ofNat code] else unitEscape code

/-- How many of the code points are spelled by so many characters. -/
def spelledWithin : List Nat → Nat → Nat
  | [], _ => 0
  | code :: codes, width =>
    let size := (spell code).length
    if size ≤ width then spelledWithin codes (width - size) + 1 else 0

inductive BytesFault where
  | unreadable
  | malformed (offset : Nat)
  deriving DecidableEq, Repr

def readBytes (bytes : List UInt8) : Except BytesFault Json :=
  let (encoding, spelled) := (markedEncoding? bytes).getD (likelyEncoding bytes, bytes)
  match encoding.decode? spelled with
  | none => .error .unreadable
  | some codes =>
    match read (codes.flatMap spell) with
    | .ok value => .ok value
    | .error (.malformed _ place) => .error (.malformed (spelledWithin codes place.offset))
    | .error _ => .error .unreadable

end AccountSessions.Json
