import AccountSessions.Service.State

/-!
# The store

The tables as the service uses them: every operation can be disturbed, takes the clock
for its stamps, refuses numbers that do not fit a column, and writes what it did to the
log.
-/

namespace AccountSessions.Store

open Operation

def fitsColumn (id : Int) : Bool :=
  WholeNumber.fitsWord id

def requireColumn (id : Int) : Operation Unit :=
  if fitsColumn id then return () else breakDown .columnOverflow

/-- Runs an operation unless it is disturbed; a plain no and nothing found are the given
answers. -/
def guarded (call : StoreCall) (no nothing : Operation α) (operation : Operation α) : Operation α := do
  match (← get).disturbance? call with
  | none => operation
  | some (.failing failure) => throw failure
  | some .answeringNo => no
  | some .findingNothing => nothing

def onDatabase (change : Database → Database) : Operation Unit :=
  modify fun state => { state with database := change state.database }

def shown (value : Option String) : String :=
  value.getD "None"

/-! ### Accounts -/

/-- The ids of accounts have come to the end of their column. -/
def isFull (db : Database) : Bool :=
  !fitsColumn (Database.nextId (db.accounts.map (·.id)))

def createAccount (new : NewAccount) : Operation Int := do
  let operation : Operation Int := do
    let state ← get
    if isFull state.database then breakDown .databaseFailed
    else
      match state.database.addAccount? new state.now with
      | none =>
        note .warning .store
          ("User insert rejected by unique constraint (username=" ++ shown new.username ++ ")")
        refuse .duplicateUser
      | some (id, database) =>
        set { state with database }
        note .info .store ("Created user id=" ++ toString id ++ " username=" ++ shown new.username)
        return id
  guarded .createAccount operation operation operation

def accountExists (username email : String) : Operation Bool :=
  guarded .accountExists (return false) (return false) do
    return (← get).database.isTaken username email

def accountById (id : Int) : Operation (Option Account) :=
  guarded .accountById (return none) (return none) do
    requireColumn id
    return (← get).database.account? id

def accountByIdentifier (identifier : String) : Operation (Option Account) :=
  guarded .accountByIdentifier (return none) (return none) do
    return (← get).database.accountOf? identifier

def countAccounts : Operation Nat :=
  guarded .countAccounts (return 0) (return 0) do
    return (← get).database.accounts.length

def markVerified (id : Int) : Operation Bool :=
  guarded .markVerified (return false) (return false) do
    requireColumn id
    let state ← get
    set { state with database := state.database.markVerified id state.now }
    return state.database.hasAccount id

def setActive (id : Int) (active : Bool) : Operation Bool :=
  guarded .setActive (return false) (return false) do
    requireColumn id
    let state ← get
    set { state with database := state.database.setActive id active state.now }
    return state.database.hasAccount id

/-- Stamps the latest login of an account, now if no other moment is given. -/
def stampLogin (id : Int) (moment : Option Moment) : Operation Moment := do
  let operation : Operation Moment := do
    let moment := moment.getD (← now)
    requireColumn id
    onDatabase (·.stampLogin id moment)
    return moment
  guarded .stampLogin operation operation operation

def ping : Operation Bool :=
  guarded .ping (return false) (return false) (return true)

/-! ### Session records -/

def createRecord (userId : Int) (token : String) (expiresAt : Moment) : Operation Int := do
  let operation : Operation Int := do
    requireColumn userId
    let state ← get
    match state.database.addRecord? userId token expiresAt state.now with
    | none =>
      note .warning .store
        ("Refresh token insert rejected by unique constraint (user_id=" ++ toString userId ++ ")")
      refuse .tokenCollision
    | some (id, database) =>
      set { state with database }
      note .info .store
        ("Stored refresh token id=" ++ toString id ++ " user_id=" ++ toString userId ++
          " expires_at=" ++ MomentText.stored expiresAt)
      return id
  guarded .createRecord operation operation operation

def liveRecord (token : String) : Operation (Option SessionRecord) :=
  guarded .liveRecord (return none) (return none) do
    let state ← get
    return state.database.liveRecord? token state.now

def revokeRecord (token : String) : Operation Bool :=
  guarded .revokeRecord (return false) (return false) do
    let state ← get
    let test := fun (record : SessionRecord) => record.token == token
    if state.database.countOpen test = 0 then
      note .warning .store "No active refresh token matched revocation"
      return false
    else
      set { state with database := state.database.revokeWhere test state.now }
      note .info .store "Revoked refresh token"
      return true

def revokeAllRecords (userId : Int) : Operation Nat :=
  guarded .revokeAllRecords (return 0) (return 0) do
    requireColumn userId
    let state ← get
    let test := fun (record : SessionRecord) => record.userId == userId
    let count := state.database.countOpen test
    set { state with database := state.database.revokeWhere test state.now }
    note .info .store
      ("Revoked " ++ toString count ++ " refresh token(s) for user_id=" ++ toString userId)
    return count

def sweepRecords : Operation Nat :=
  guarded .sweepRecords (return 0) (return 0) do
    let state ← get
    let count := state.database.countSpent state.now
    set { state with database := state.database.sweep state.now }
    note .info .store ("Deleted " ++ toString count ++ " expired or revoked refresh token(s)")
    return count

def findRecord (token : String) : Operation (Option SessionRecord) :=
  guarded .findRecord (return none) (return none) do
    return (← get).database.record? token

def listRecords (userId : Int) : Operation (List SessionRecord) :=
  guarded .listRecords (return []) (return []) do
    requireColumn userId
    return (← get).database.recordsOf userId

end AccountSessions.Store
