import AccountSessions.Failure
import AccountSessions.Text.Utf8

/-!
# Signing keys

A secret signs as the bytes that it is.  For verifying it is first read as JSON: a
string, a list or an object then yields the keys to try, in order, and a secret that is
no JSON is a key itself.  Texts that look like public keys or certificates are refused
on both sides.
-/

namespace AccountSessions.Token

namespace KeyText

def armourLabels : List String :=
  ["CERTIFICATE", "TRUSTED CERTIFICATE", "PRIVATE KEY", "PUBLIC KEY", "ENCRYPTED PRIVATE KEY",
    "OPENSSH PRIVATE KEY", "DSA PRIVATE KEY", "RSA PRIVATE KEY", "RSA PUBLIC KEY",
    "EC PRIVATE KEY", "DH PARAMETERS", "NEW CERTIFICATE REQUEST", "CERTIFICATE REQUEST",
    "SSH2 PUBLIC KEY", "SSH2 ENCRYPTED PRIVATE KEY", "X509 CRL"]

def shellTypes : List String :=
  ["ssh-ed25519", "ssh-rsa", "ssh-dss", "ecdsa-sha2-nistp256", "ecdsa-sha2-nistp384",
    "ecdsa-sha2-nistp521"]

/-- The end of the name of a certified key type. -/
def certifiedEnd : String := "-cert-v01@openssh.com"

def bytesOf (s : String) : List UInt8 :=
  Text.Utf8.encode s.toList

def anySuffix (test : List UInt8 → Bool) : List UInt8 → Bool
  | [] => test []
  | byte :: rest => test (byte :: rest) || anySuffix test rest

def after? (start text : List UInt8) : Option (List UInt8) :=
  if start.isPrefixOf text then some (text.drop start.length) else none

def isBar (byte : UInt8) : Bool :=
  byte == 0x2D || byte == 0x20

def opensArmour (text : List UInt8) : Bool :=
  match after? (bytesOf "----") text with
  | some (bar :: rest) =>
    isBar bar &&
      match after? (bytesOf "BEGIN ") rest with
      | some rest =>
        armourLabels.any fun label =>
          match after? (bytesOf label) rest with
          | some (bar :: rest) => isBar bar && (bytesOf "----").isPrefixOf rest
          | _ => false
      | none => false
  | _ => false

def isBlankByte (byte : UInt8) : Bool :=
  byte == 0x20 || (0x9 ≤ byte && byte ≤ 0xD)

/-- The first word is a certified key type and another word follows it on the line. -/
def namesCertifiedKey (text : List UInt8) : Bool :=
  let word := text.takeWhile fun b => !isBlankByte b
  let rest := text.dropWhile fun b => !isBlankByte b
  let behind := rest.dropWhile fun b => b == 0x20 || b == 0x9
  (bytesOf certifiedEnd).isSuffixOf word && rest.length != behind.length &&
    match behind with
    | byte :: _ => !isBlankByte byte
    | [] => false

def looksPublic (text : List UInt8) : Bool :=
  anySuffix opensArmour text ||
    shellTypes.any (fun name => anySuffix (bytesOf name).isPrefixOf text) ||
    namesCertifiedKey text

end KeyText

def signingKey (secret : String) : Except Breakdown (List UInt8) :=
  let bytes := Text.Utf8.encode secret.toList
  if KeyText.looksPublic bytes then .error .publicKeyForSigning else .ok bytes

def keyOfString (s : JsonString) : Except Breakdown (List UInt8) :=
  match s with
  | .broken codes => .error (.unencodableKey codes)
  | .plain text =>
    let bytes := Text.Utf8.encode text.toList
    if KeyText.looksPublic bytes then .error .publicKeyForVerifying else .ok bytes

def keyOfDescription (description : Json) : Except Breakdown (List UInt8) :=
  let type := (description.member? "kty").getD .null
  if type.text? ≠ some "oct" then .error (.wrongKeyType type)
  else
    match (description.member? "k").getD .null with
    | .string (.plain text) =>
      match Base64.decode (Text.Utf8.encode text.toList) with
      | .ok bytes => .ok bytes
      | .error fault => .error (.badKeyMaterial fault)
    | .string (.broken codes) => .error (.unencodableKey codes)
    | material => .error (.keyMaterialNotText material.kindName)

def keyOf : Json → Except Breakdown (List UInt8)
  | .string s => keyOfString s
  | .object members => keyOfDescription (.object members)
  | _ => .error .keyNotText

def members : Json → Except Breakdown (List Json)
  | .list items => .ok items
  | .object members => .ok (members.map fun member => .string member.1)
  | .string s => .ok (s.codes.map fun code => .string (.ofCodes [code]))
  | value => .error (.notACollection value.kindName)

/-- The candidate keys of a value: those of a key set, a single key description, the
values of any other object, the items of a list, or the value itself. -/
def candidatesOf (value : Json) : Except Breakdown (List Json) :=
  match value with
  | .object pairs =>
    match value.member? "keys", value.member? "kty" with
    | some keys, _ => members keys
    | none, some _ => .ok [value]
    | none, none => .ok (if pairs.isEmpty then [value] else pairs.map Prod.snd)
  | .list items => .ok items
  | value => .ok [value]

/-- The candidate keys of a secret.  In a secret that is JSON numbers keep their
spelling. -/
def candidates (secret : String) : Except Breakdown (List Json) :=
  match Json.readWith .spellings Json.nestingLimit secret.toList with
  | .ok value => candidatesOf value
  | .error _ => .ok [.text secret]

/-- Signing and verifying use the same bytes: the secret is no JSON and does not look
like a public key. -/
def isPlainSecret (secret : String) : Bool :=
  (Json.readWith .spellings Json.nestingLimit secret.toList).toOption.isNone &&
    !KeyText.looksPublic (Text.Utf8.encode secret.toList)

end AccountSessions.Token
