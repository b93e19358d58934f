import AccountSessions.Text.Letters
import AccountSessions.Text.Numerals
import AccountSessions.Text.Symbols
import AccountSessions.Text.Utf8

/-!
# The password policy

A password has a least number of characters and a greatest number of bytes, and holds a
character of each class that is asked for.  The rules are tried in the order length,
uppercase, lowercase, digit, symbol, and the first that is broken is reported.
-/

namespace AccountSessions.Password

inductive Rule where
  | length
  | uppercase
  | lowercase
  | digit
  | symbol
  deriving DecidableEq, Repr

def Rule.name : Rule → String
  | length => "length"
  | uppercase => "uppercase"
  | lowercase => "lowercase"
  | digit => "digit"
  | symbol => "symbol"

structure Policy where
  /-- The least number of characters. -/
  minLength : Int := 8
  /-- The greatest number of bytes. -/
  maxLength : Int := 72
  requireUpper : Bool := true
  requireLower : Bool := true
  requireDigit : Bool := true
  requireSymbol : Bool := true
  deriving DecidableEq, Repr

structure Violation where
  rule : Rule
  message : String
  deriving DecidableEq, Repr

namespace Policy

def check (policy : Policy) (password : String) : Option Violation :=
  let cs := password.toList
  if (cs.length : Int) < policy.minLength then
    some ⟨.length, "Password must be at least " ++ toString policy.minLength ++ " characters long."⟩
  else if policy.maxLength < (Text.Utf8.encode cs).length then
    some ⟨.length, "Password must be at most " ++ toString policy.maxLength ++ " bytes long."⟩
  else if policy.requireUpper && !cs.any Text.isUppercase then
    some ⟨.uppercase, "Password must contain at least one uppercase letter."⟩
  else if policy.requireLower && !cs.any Text.isLowercase then
    some ⟨.lowercase, "Password must contain at least one lowercase letter."⟩
  else if policy.requireDigit && !cs.any Text.isNumeral then
    some ⟨.digit, "Password must contain at least one number."⟩
  else if policy.requireSymbol && !cs.any Text.isSymbol then
    some ⟨.symbol, "Password must contain at least one special character."⟩
  else none

end Policy

end AccountSessions.Password
