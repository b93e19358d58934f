import AccountSessions.Digest.Sha256

/-!
# Keyed digests

The keyed-hash message authentication code over SHA-256: the key, brought to one block,
is mixed with two constants around an inner and an outer digest.
-/

namespace AccountSessions.Hmac

/-- The key as a block of 64 bytes; a longer key is digested first. -/
def keyBlock (key : List UInt8) : List UInt8 :=
  let short := if 64 < key.length then Sha256.digest key else key
  short ++ List.replicate (64 - short.length) 0

def sign (key message : List UInt8) : List UInt8 :=
  let block := keyBlock key
  let inner := Sha256.digest (block.map (· ^^^ 0x36) ++ message)
  Sha256.digest (block.map (· ^^^ 0x5C) ++ inner)

theorem length_sign (key message : List UInt8) : (sign key message).length = 32 :=
  Sha256.length_digest _

end AccountSessions.Hmac
