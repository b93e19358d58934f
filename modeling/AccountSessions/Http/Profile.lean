import AccountSessions.Account
import AccountSessions.Time.MomentText
import AccountSessions.Validation.Readers

/-!
# Profiles

What callers are shown of an account: everything but the hash of its password.
-/

namespace AccountSessions.Http

structure Profile where
  id : Int
  username : String
  email : String
  name : String
  emailVerified : Bool
  isActive : Bool
  lastLoginAt : Option Moment
  createdAt : Option Moment
  updatedAt : Option Moment
  deriving DecidableEq, Repr

namespace Profile

def ofAccount (account : Account) : Profile where
  id := account.id
  username := account.username
  email := account.email
  name := account.name
  emailVerified := account.emailVerified
  isActive := account.isActive
  lastLoginAt := account.lastLoginAt
  createdAt := some account.createdAt
  updatedAt := some account.updatedAt

/-- The profile of a record of values of any kind, where its moments are known. -/
def read (values : Json) (lastLoginAt createdAt updatedAt : Option Moment) : Checked Profile :=
  let field := fun {α : Type} (name : String) (read : Json → Except Flaw α) =>
    Checked.field name (read ((values.member? name).getD .null))
  Profile.mk <$> field "id" Validation.readWhole <*> field "username" Validation.readText <*>
    field "email" Validation.readText <*> field "name" Validation.readText <*>
    field "email_verified" Validation.readSwitch <*> field "is_active" Validation.readSwitch <*>
    pure lastLoginAt <*> pure createdAt <*> pure updatedAt

def moment (moment : Option Moment) : Json :=
  .ofOption (.text ∘ MomentText.answered) moment

def toJson (profile : Profile) : Json :=
  .record
    [("id", .int profile.id), ("username", .text profile.username),
      ("email", .text profile.email), ("name", .text profile.name),
      ("email_verified", .bool profile.emailVerified), ("is_active", .bool profile.isActive),
      ("last_login_at", moment profile.lastLoginAt), ("created_at", moment profile.createdAt),
      ("updated_at", moment profile.updatedAt)]

end Profile

end AccountSessions.Http
