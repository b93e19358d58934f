import AccountSessions.Password.PiFraction

/-!
# The cipher behind the password hash

A block of two words goes through sixteen rounds that mix it with the subkeys and look
its bytes up in four tables.  The expensive key schedule enciphers the subkeys and the
tables with themselves, again and again, under the password and the salt.
-/

namespace AccountSessions.Password

/-- The subkeys and the four tables, one behind another. -/
structure Cipher where
  subkeys : Array UInt32
  tables : Array UInt32

namespace Cipher

def initial : Cipher where
  subkeys := (wordsOfPi.take 18).toArray
  tables := (wordsOfPi.drop 18).toArray

def lookUp (tables : Array UInt32) (word : UInt32) : UInt32 :=
  let a := tables.getD (word >>> 24).toNat 0
  let b := tables.getD (256 + ((word >>> 16) &&& 0xFF).toNat) 0
  let c := tables.getD (512 + ((word >>> 8) &&& 0xFF).toNat) 0
  let d := tables.getD (768 + (word &&& 0xFF).toNat) 0
  ((a + b) ^^^ c) + d

def rounds (subkeys tables : Array UInt32) : Nat → Nat → UInt32 → UInt32 → UInt32 × UInt32
  | 0, _, left, right => (left, right)
  | more + 1, index, left, right =>
    let left := left ^^^ subkeys.getD index 0
    rounds subkeys tables more (index + 1) (right ^^^ lookUp tables left) left

def encipher (subkeys tables : Array UInt32) (left right : UInt32) : UInt32 × UInt32 :=
  let (left, right) := rounds subkeys tables 16 0 left right
  (right ^^^ subkeys.getD 17 0, left ^^^ subkeys.getD 16 0)

/-- The big-endian word that begins at a place of a text, which repeats endlessly. -/
def wordAt (text : Array UInt8) (place : Nat) : UInt32 :=
  let byte := fun (i : Nat) => (text.getD ((place + i) % text.size) 0).toUInt32
  (byte 0 <<< 24) ||| (byte 1 <<< 16) ||| (byte 2 <<< 8) ||| byte 3

def mixKey (subkeys : Array UInt32) (key : Array UInt8) : Array UInt32 :=
  subkeys.mapIdx fun i subkey => subkey ^^^ wordAt key (4 * i)

/-- Replaces the given number of subkeys in pairs by enciphered blocks, the salt being
mixed into the block beforehand. -/
def refillSubkeys (tables : Array UInt32) (salt : Array UInt8) :
    Nat → Nat → Array UInt32 → UInt32 → UInt32 → Array UInt32 × UInt32 × UInt32
  | 0, _, subkeys, left, right => (subkeys, left, right)
  | more + 1, index, subkeys, left, right =>
    let (left, right) := encipher subkeys tables
      (left ^^^ wordAt salt (4 * index)) (right ^^^ wordAt salt (4 * index + 4))
    refillSubkeys tables salt more (index + 2)
      ((subkeys.setIfInBounds index left).setIfInBounds (index + 1) right) left right

def refillTables (subkeys : Array UInt32) (salt : Array UInt8) :
    Nat → Nat → Array UInt32 → UInt32 → UInt32 → Array UInt32
  | 0, _, tables, _, _ => tables
  | more + 1, index, tables, left, right =>
    let place := 4 * (index + subkeys.size)
    let (left, right) := encipher subkeys tables
      (left ^^^ wordAt salt place) (right ^^^ wordAt salt (place + 4))
    refillTables subkeys salt more (index + 2)
      ((tables.setIfInBounds index left).setIfInBounds (index + 1) right) left right

def expand (cipher : Cipher) (salt key : Array UInt8) : Cipher :=
  let ⟨subkeys, tables⟩ := cipher
  let subkeys := mixKey subkeys key
  let (subkeys, left, right) := refillSubkeys tables salt 9 0 subkeys 0 0
  ⟨subkeys, refillTables subkeys salt 512 0 tables left right⟩

def noSalt : Array UInt8 := #[0]

/-- Expands under the key and under the salt by turns, the given number of times. -/
def expandRepeatedly (salt key : Array UInt8) : Nat → Cipher → Cipher
  | 0, cipher => cipher
  | more + 1, cipher =>
    expandRepeatedly salt key more ((cipher.expand noSalt key).expand noSalt salt)

def schedule (cost : Nat) (salt key : Array UInt8) : Cipher :=
  expandRepeatedly salt key (1 <<< cost) (initial.expand salt key)

def encipherRepeatedly (cipher : Cipher) : Nat → UInt32 → UInt32 → UInt32 × UInt32
  | 0, left, right => (left, right)
  | more + 1, left, right =>
    let (left, right) := encipher cipher.subkeys cipher.tables left right
    encipherRepeatedly cipher more left right

end Cipher

end AccountSessions.Password
