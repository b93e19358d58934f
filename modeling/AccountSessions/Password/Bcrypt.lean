import AccountSessions.Password.Cipher
import AccountSessions.Text.Fields
import AccountSessions.Text.Utf8

/-!
# Bcrypt hashes

A hash is written as its version, its cost in two digits, a salt of 22 letters and a
checksum of 31 letters, in a base64 alphabet of its own.  Checking a password reads the
first three out of the stored text, computes the hash anew and compares the whole.
-/

namespace AccountSessions.Password.Bcrypt

/-! ### Letters -/

def letter (value : Nat) : Char :=
  if value = 0 then '.'
  else if value = 1 then '/'
  else if value < 28 then Char.ofNat ('A'.toNat + (value - 2))
  else if value < 54 then Char.ofNat ('a'.toNat + (value - 28))
  else Char.ofNat ('0'.toNat + (value - 54))

def letterValue? (byte : UInt8) : Option Nat :=
  let b := byte.toNat
  if b = 0x2E then some 0
  else if b = 0x2F then some 1
  else if 0x41 ≤ b ∧ b ≤ 0x5A then some (b - 0x41 + 2)
  else if 0x61 ≤ b ∧ b ≤ 0x7A then some (b - 0x61 + 28)
  else if 0x30 ≤ b ∧ b ≤ 0x39 then some (b - 0x30 + 54)
  else none

def encode : List UInt8 → List Char
  | [] => []
  | [a] => [letter (a.toNat / 4), letter (a.toNat % 4 * 16)]
  | [a, b] =>
    [letter (a.toNat / 4), letter (a.toNat % 4 * 16 + b.toNat / 16),
      letter (b.toNat % 16 * 4)]
  | a :: b :: c :: rest =>
    letter (a.toNat / 4) :: letter (a.toNat % 4 * 16 + b.toNat / 16) ::
      letter (b.toNat % 16 * 4 + c.toNat / 64) :: letter (c.toNat % 64) :: encode rest

/-- The bytes of groups of four values and a last group of two, whose spare bits must be
zero. -/
def bytesOfValues : List Nat → Option (List UInt8)
  | [] => some []
  | [a, b] => if b % 16 = 0 then some [(a * 4 + b / 16).toUInt8] else none
  | a :: b :: c :: d :: rest =>
    (bytesOfValues rest).map fun bytes =>
      (a * 4 + b / 16).toUInt8 :: (b % 16 * 16 + c / 4).toUInt8 ::
        (c % 4 * 64 + d).toUInt8 :: bytes
  | _ => none

def saltLength : Nat := 22

def saltBytes? (letters : List UInt8) : Option (List UInt8) :=
  if letters.length = saltLength then (letters.mapM letterValue?).bind bytesOfValues else none

/-! ### The checksum -/

def magic : List (UInt32 × UInt32) :=
  [(0x4F727068, 0x65616E42), (0x65686F6C, 0x64657253), (0x63727944, 0x6F756274)]

def wordBytes (word : UInt32) : List UInt8 :=
  [(word >>> 24).toUInt8, (word >>> 16).toUInt8, (word >>> 8).toUInt8, word.toUInt8]

def checksum (cost : Nat) (salt password : List UInt8) : List UInt8 :=
  let cipher := Cipher.schedule cost salt.toArray (password ++ [0]).toArray
  let words := magic.flatMap fun (left, right) =>
    let (left, right) := cipher.encipherRepeatedly 64 left right
    wordBytes left ++ wordBytes right
  words.take 23

/-! ### The written form -/

def passwordLimit : Nat := 72

def minCost : Nat := 4

def maxCost : Nat := 31

def costDigits (cost : Nat) : List Char :=
  [Char.ofNat ('0'.toNat + cost / 10), Char.ofNat ('0'.toNat + cost % 10)]

structure Setting where
  version : List Char
  cost : Nat
  salt : List Char
  deriving DecidableEq, Repr

def currentVersion : List Char := ['2', 'b']

/-- The versions that stored hashes may name; all are computed alike. -/
def versions : List (List Char) :=
  [['2', 'a'], ['2', 'b'], ['2', 'x'], ['2', 'y']]

def asciiBytes (cs : List Char) : List UInt8 :=
  cs.map fun c => c.toNat.toUInt8

def write (setting : Setting) (password : List UInt8) : List Char :=
  let salt := (saltBytes? (asciiBytes setting.salt)).getD []
  '$' :: setting.version ++ '$' :: costDigits setting.cost ++ '$' :: setting.salt ++
    encode (checksum setting.cost salt password)

/-- A cost: digits behind at most one plus sign, not beyond 32 bits, in the range. -/
def cost? (field : List UInt8) : Option Nat :=
  let digits :=
    match field with
    | 0x2B :: rest => rest
    | field => field
  if digits.isEmpty || !digits.all (fun b => 0x30 ≤ b && b ≤ 0x39) then none
  else
    let value := digits.foldl (fun value b => value * 10 + (b.toNat - 0x30)) 0
    if value < 0x100000000 ∧ minCost ≤ value ∧ value ≤ maxCost then some value else none

def asciiChars (bytes : List UInt8) : List Char :=
  bytes.map fun b => Char.ofNat b.toNat

/-- What a stored hash names, if it is one: three fields that are not empty, between
dollar signs. -/
def setting? (stored : List UInt8) : Option Setting :=
  match (Text.fields 0x24 stored).filter (· ≠ []) with
  | [version, cost, rest] => do
    let version := asciiChars version
    guard (versions.contains version)
    let cost ← cost? cost
    let salt := rest.take saltLength
    let _ ← saltBytes? salt
    return ⟨version, cost, asciiChars salt⟩
  | _ => none

/-- Whether a stored text is the hash of a password; nothing, if the text is no hash or
the password is too long. -/
def matches? (password stored : List UInt8) : Option Bool :=
  if passwordLimit < password.length then none
  else (setting? stored).map fun setting => asciiBytes (write setting password) == stored

end AccountSessions.Password.Bcrypt
