import AccountSessions.Time.Moment

/-!
# Session records

Every login leaves a record of its refresh token.  The token can be used while the
record is live: not revoked, and expiring after now.
-/

namespace AccountSessions

structure SessionRecord where
  id : Int
  userId : Int
  token : String
  expiresAt : Moment
  createdAt : Moment
  revokedAt : Option Moment
  deriving DecidableEq, Repr

namespace SessionRecord

inductive State where
  | revoked
  | expired
  | live
  deriving DecidableEq, Repr

def State.name : State → String
  | revoked => "revoked"
  | expired => "expired"
  | live => "live"

def stateAt (expiresAt : Moment) (revokedAt : Option Moment) (now : Moment) : State :=
  if revokedAt.isSome then .revoked
  else if expiresAt.micros ≤ now.micros then .expired
  else .live

def state (record : SessionRecord) (now : Moment) : State :=
  stateAt record.expiresAt record.revokedAt now

def isOpen (record : SessionRecord) : Bool :=
  record.revokedAt.isNone

def isLive (record : SessionRecord) (now : Moment) : Bool :=
  record.isOpen && now.before record.expiresAt

def isSpent (record : SessionRecord) (now : Moment) : Bool :=
  !now.before record.expiresAt || !record.isOpen

/-- The order of lists: the latest first, and of one moment the greater id first. -/
def newerFirst (a b : SessionRecord) : Bool :=
  b.createdAt.micros < a.createdAt.micros ||
    (a.createdAt.micros == b.createdAt.micros && b.id ≤ a.id)

end SessionRecord

end AccountSessions
