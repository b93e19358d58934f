import AccountSessions.Time.Moment

/-!
# Accounts

An account has a user name and an address, each of them unique, and the hash of its
password.  Its address has to be verified before its first login, and it can be
deactivated but never disappears.
-/

namespace AccountSessions

structure Account where
  id : Int
  username : String
  email : String
  passwordHash : String
  name : String
  emailVerified : Bool
  isActive : Bool
  lastLoginAt : Option Moment
  createdAt : Moment
  updatedAt : Moment
  deriving DecidableEq, Repr

/-- An account to be created; what is missing is refused by the table. -/
structure NewAccount where
  username : Option String
  email : Option String
  passwordHash : Option String
  name : Option String
  emailVerified : Bool
  isActive : Bool
  deriving DecidableEq, Repr

namespace Account

def withoutHash (account : Account) : Account :=
  { account with passwordHash := "" }

def clashes (account : Account) (username email : String) : Bool :=
  account.username == username || account.email == email

end Account

end AccountSessions
