import AccountSessions.Text.Blank
import AccountSessions.Validation.Readers

/-!
# Submitted bodies

What a caller submits to register, to log in, and to refresh or end a session.  User
names, addresses and display names lose the blanks at their ends before they are
measured; passwords and tokens are taken as they are.
-/

namespace AccountSessions.Http

inductive Shape where
  | any
  | username
  | address
  deriving DecidableEq, Repr

namespace Shape

def isNameCharacter (c : Char) : Bool :=
  c.isAlphanum || c == '_' || c == '.' || c == '-'

def hasInnerPoint (cs : List Char) : Bool :=
  (cs.drop 1).dropLast.contains '.'

/-- One `@` with something before it and a point within what follows, and no blanks. -/
def isAddress (cs : List Char) : Bool :=
  !(cs.takeWhile (· != '@')).isEmpty && cs.count '@' == 1 && !cs.any Text.isBlank &&
    hasInnerPoint ((cs.dropWhile (· != '@')).drop 1)

def accepts : Shape → List Char → Bool
  | any, _ => true
  | username, cs => !cs.isEmpty && cs.all isNameCharacter
  | address, cs => isAddress cs

def pattern : Shape → String
  | any => ""
  | username => "^[A-Za-z0-9_.-]+$"
  | address => "^[^@\\s]+@[^@\\s]+\\.[^@\\s]+$"

end Shape

structure TextRule where
  trimmed : Bool
  least : Nat
  greatest : Nat
  shape : Shape
  deriving DecidableEq, Repr

namespace TextRule

def check (rule : TextRule) (text : String) : Except Flaw String :=
  let kept := if rule.trimmed then Text.trim text else text
  if kept.length < rule.least then .error (.tooShort rule.least)
  else if rule.greatest < kept.length then .error (.tooLong rule.greatest)
  else if rule.shape.accepts kept.toList then .ok kept
  else .error (.mismatch rule.shape.pattern)

def username : TextRule := ⟨true, 1, 64, .username⟩

def address : TextRule := ⟨true, 3, 255, .address⟩

def password : TextRule := ⟨false, 1, 255, .any⟩

def displayName : TextRule := ⟨true, 0, 255, .any⟩

def identifier : TextRule := ⟨true, 1, 255, .any⟩

def refreshToken : TextRule := ⟨false, 1, 4096, .any⟩

def read (rule : TextRule) (name : String) (value : Json) : Checked String :=
  .field name (Validation.readText value >>= rule.check)

def require (rule : TextRule) (name : String) (body : Json) : Checked String :=
  match body.member? name with
  | some value => rule.read name value
  | none => .flawed [⟨.missing, [.field name]⟩]

def readOr (rule : TextRule) (name default : String) (body : Json) : Checked String :=
  match body.member? name with
  | some value => rule.read name value
  | none => .sound default

end TextRule

def readFields (model : String) (fields : Json → Checked α) (body : Json) : Checked α :=
  if body.isObject then fields body else .flawed [⟨.notAModel model, []⟩]

structure Registration where
  username : String
  email : String
  password : String
  name : String
  deriving DecidableEq, Repr

def Registration.read (body : Json) : Checked Registration :=
  body |> readFields "RegisterRequest" fun body =>
    Registration.mk <$> TextRule.username.require "username" body <*>
      TextRule.address.require "email" body <*> TextRule.password.require "password" body <*>
      TextRule.displayName.readOr "name" "" body

structure Credentials where
  identifier : String
  password : String
  deriving DecidableEq, Repr

def Credentials.read (body : Json) : Checked Credentials :=
  body |> readFields "LoginRequest" fun body =>
    Credentials.mk <$> TextRule.identifier.require "identifier" body <*>
      TextRule.password.require "password" body

structure SessionTicket where
  refreshToken : String
  deriving DecidableEq, Repr

def SessionTicket.read (body : Json) : Checked SessionTicket :=
  body |> readFields "RefreshRequest" fun body =>
    SessionTicket.mk <$> TextRule.refreshToken.require "refresh_token" body

end AccountSessions.Http
