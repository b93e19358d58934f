import AccountSessions.Account
import AccountSessions.SessionRecord

/-!
# The database

Two tables, each in the order of its ids.  A new row gets the number behind the largest
id in its table.  User names, addresses and tokens are unique, every record has an
account as its owner, and an insertion that would break this is refused.
-/

namespace AccountSessions

structure Database where
  accounts : List Account
  records : List SessionRecord
  deriving DecidableEq, Repr

namespace Database

def empty : Database where
  accounts := []
  records := []

def nextId (ids : List Int) : Int :=
  ids.foldl max 0 + 1

/-! ### Accounts -/

def isTaken (db : Database) (username email : String) : Bool :=
  db.accounts.any (·.clashes username email)

def account? (db : Database) (id : Int) : Option Account :=
  db.accounts.find? (·.id == id)

/-- The account with this user name or, failing that, with this address. -/
def accountOf? (db : Database) (identifier : String) : Option Account :=
  (db.accounts.find? (·.username == identifier)).or
    (db.accounts.find? (·.email == identifier))

/-- The database with a new account, and its id, unless a value is missing or a name is
taken. -/
def addAccount? (db : Database) (new : NewAccount) (now : Moment) : Option (Int × Database) := do
  let username ← new.username
  let email ← new.email
  let passwordHash ← new.passwordHash
  let name ← new.name
  if db.isTaken username email then none
  else
    let id := nextId (db.accounts.map (·.id))
    let account : Account :=
      { id, username, email, passwordHash, name
        emailVerified := new.emailVerified
        isActive := new.isActive
        lastLoginAt := none
        createdAt := now
        updatedAt := now }
    some (id, { db with accounts := db.accounts ++ [account] })

def changeAccount (db : Database) (id : Int) (change : Account → Account) : Database :=
  { db with
    accounts := db.accounts.map fun account => if account.id = id then change account else account }

def hasAccount (db : Database) (id : Int) : Bool :=
  db.accounts.any (·.id == id)

def markVerified (db : Database) (id : Int) (now : Moment) : Database :=
  db.changeAccount id fun account => { account with emailVerified := true, updatedAt := now }

def setActive (db : Database) (id : Int) (active : Bool) (now : Moment) : Database :=
  db.changeAccount id fun account => { account with isActive := active, updatedAt := now }

def stampLogin (db : Database) (id : Int) (moment : Moment) : Database :=
  db.changeAccount id fun account =>
    { account with lastLoginAt := some moment, updatedAt := moment }

/-! ### Session records -/

def record? (db : Database) (token : String) : Option SessionRecord :=
  db.records.find? (·.token == token)

def liveRecord? (db : Database) (token : String) (now : Moment) : Option SessionRecord :=
  db.records.find? fun record => record.token == token && record.isLive now

/-- The database with a new record, and its id, unless the token is stored already or
the owner is unknown. -/
def addRecord? (db : Database) (userId : Int) (token : String) (expiresAt now : Moment) :
    Option (Int × Database) :=
  if db.hasAccount userId && (db.record? token).isNone then
    let id := nextId (db.records.map (·.id))
    let record : SessionRecord :=
      { id, userId, token, expiresAt, createdAt := now, revokedAt := none }
    some (id, { db with records := db.records ++ [record] })
  else none

def revokeWhere (db : Database) (test : SessionRecord → Bool) (now : Moment) : Database :=
  { db with
    records := db.records.map fun record =>
      if record.isOpen && test record then { record with revokedAt := some now } else record }

def countOpen (db : Database) (test : SessionRecord → Bool) : Nat :=
  db.records.countP fun record => record.isOpen && test record

def sweep (db : Database) (now : Moment) : Database :=
  { db with records := db.records.filter fun record => !record.isSpent now }

def countSpent (db : Database) (now : Moment) : Nat :=
  db.records.countP fun record => record.isSpent now

def recordsOf (db : Database) (userId : Int) : List SessionRecord :=
  (db.records.filter (·.userId == userId)).mergeSort SessionRecord.newerFirst

end Database

end AccountSessions
