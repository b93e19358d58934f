import AccountSessions.Failure
import AccountSessions.Password.Bcrypt

/-!
# Hashing passwords

A hasher has a fixed cost and a hash of its own, against which a password is checked
when there is no account to check it against, so that both take the same work.
Checking never fails: a stored text that is no hash, like a password that is too long,
is judged unusable and does not match.
-/

namespace AccountSessions.Password

def hash (rounds : Int) (salt : String) (password : String) : Except Breakdown String :=
  if rounds < Bcrypt.minCost ∨ (Bcrypt.maxCost : Int) < rounds then .error .invalidRounds
  else
    let bytes := Text.Utf8.encode password.toList
    if Bcrypt.passwordLimit < bytes.length then .error .passwordTooLong
    else .ok (String.ofList (Bcrypt.write ⟨Bcrypt.currentVersion, rounds.toNat, salt.toList⟩ bytes))

inductive Verdict where
  | noHash
  /-- The stored text is no hash, or the password is too long for one. -/
  | unusable
  | compared (equal : Bool)
  deriving DecidableEq, Repr

def judge (password stored : String) : Verdict :=
  if stored.isEmpty then .noHash
  else
    match Bcrypt.matches? (Text.Utf8.encode password.toList) (Text.Utf8.encode stored.toList) with
    | none => .unusable
    | some equal => .compared equal

def Verdict.accepts : Verdict → Bool
  | compared equal => equal
  | _ => false

def verify (password stored : String) : Bool :=
  (judge password stored).accepts

structure Hasher where
  rounds : Int
  /-- What passwords for unknown accounts are checked against. -/
  dummyHash : String
  deriving DecidableEq, Repr

namespace Hasher

def dummyPassword : String := "mediashare_timing_dummy"

def make (rounds : Int) (salt : String) : Except Breakdown Hasher :=
  (hash rounds salt dummyPassword).map (Hasher.mk rounds)

end Hasher

/-- The salt of the hash with a number: its last digits in 21 places and a closing letter. -/
def numberedSalt (number : Nat) : String :=
  let digits := Nat.toDigits 10 (number % Nat.pow 10 21)
  String.ofList (List.replicate (21 - digits.length) '0' ++ digits ++ ['u'])

end AccountSessions.Password
