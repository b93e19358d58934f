import AccountSessions.Database
import AccountSessions.Failure
import AccountSessions.Password.Hasher
import AccountSessions.Service.Log
import AccountSessions.Token.Issuer

/-!
# The state behind the service

What an operation reads and changes: the clock, the supplies of token ids and of salts,
the database, the published events, the log, and the disturbances under which the store
stands.  An operation runs on a state; when it fails, the changes it has made so far stay.
-/

namespace AccountSessions

inductive EventName where
  | registered
  | loggedIn
  | loggedOut
  | loggedOutEverywhere
  deriving DecidableEq, Repr

def EventName.text : EventName → String
  | registered => "user.registered"
  | loggedIn => "user.logged_in"
  | loggedOut => "user.logged_out"
  | loggedOutEverywhere => "user.logged_out_all"

inductive EventNote where
  | nothing
  | username (name : String)
  | revoked (count : Nat)
  deriving DecidableEq, Repr

def EventNote.toJson : EventNote → Json
  | nothing => .record []
  | username name => .record [("username", .text name)]
  | revoked count => .record [("revoked", .int count)]

structure Event where
  name : EventName
  userId : Int
  occurredAt : Moment
  note : EventNote
  deriving DecidableEq, Repr

inductive StoreCall where
  | createAccount
  | accountExists
  | accountById
  | accountByIdentifier
  | countAccounts
  | markVerified
  | setActive
  | stampLogin
  | ping
  | createRecord
  | liveRecord
  | revokeRecord
  | revokeAllRecords
  | sweepRecords
  | findRecord
  | listRecords
  deriving DecidableEq, Repr

/-- How a disturbed operation ends: with a failure, with a plain no, or with nothing
found. -/
inductive Disturbance where
  | failing (failure : Failure)
  | answeringNo
  | findingNothing

/-- The supply of token ids: the text of each number, unless a text is laid down for all. -/
structure TokenIds where
  drawn : Nat
  fixed : Option String
  text : Nat → String

structure State where
  now : Moment
  tokenIds : TokenIds
  saltsDrawn : Nat
  database : Database
  published : List Event
  log : List Log.Line
  disturbances : List (StoreCall × Disturbance)

namespace State

def start (now : Moment) (tokenId : Nat → String := Token.numberedId) : State where
  now := now
  tokenIds := ⟨0, none, tokenId⟩
  saltsDrawn := 0
  database := .empty
  published := []
  log := []
  disturbances := []

def disturb (state : State) (call : StoreCall) (disturbance : Option Disturbance) : State :=
  let others := state.disturbances.filter (·.1 != call)
  { state with
    disturbances :=
      match disturbance with
      | some disturbance => (call, disturbance) :: others
      | none => others }

def disturbance? (state : State) (call : StoreCall) : Option Disturbance :=
  (state.disturbances.find? (·.1 == call)).map Prod.snd

end State

abbrev Operation := ExceptT Failure (StateM State)

namespace Operation

def note (level : Log.Level) (source : Log.Source) (text : String) : Operation Unit :=
  modify fun state => { state with log := state.log ++ [⟨level, source, text⟩] }

def now : Operation Moment :=
  return (← get).now

def refuse (kind : Refusal.Kind) : Operation α :=
  throw (.usual kind)

def breakDown (cause : Breakdown) : Operation α :=
  throw (.broken cause)

def ofBreakdown : Except Breakdown α → Operation α
  | .ok value => return value
  | .error cause => breakDown cause

/-- Draws the next token id; while a text is laid down the numbers do not advance. -/
def drawTokenId : Operation String := do
  let state ← get
  match state.tokenIds.fixed with
  | some text => return text
  | none =>
    let number := state.tokenIds.drawn + 1
    set { state with tokenIds := { state.tokenIds with drawn := number } }
    return state.tokenIds.text number

def drawSalt : Operation String := do
  let state ← get
  set { state with saltsDrawn := state.saltsDrawn + 1 }
  return Password.numberedSalt state.saltsDrawn

end Operation

end AccountSessions
