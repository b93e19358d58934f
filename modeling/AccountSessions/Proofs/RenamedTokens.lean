import AccountSessions.Proofs.Coupling
import AccountSessions.Proofs.RecordOwners

/-!
# Renamed tokens

The commands of the console handle whole records, tokens included, but none of them looks
at a token or prints one.  So a command line ends alike on two databases that differ in
the names of their tokens, whatever becomes of it, and leaves databases behind that
differ in the same names.
-/

namespace AccountSessions

open Operation

/-! ## Renaming -/

def SessionRecord.renamed (rename : String → String) (record : SessionRecord) : SessionRecord :=
  { record with token := rename record.token }

def Database.renamed (rename : String → String) (db : Database) : Database :=
  { db with records := db.records.map (·.renamed rename) }

def State.renamed (rename : String → String) (state : State) : State :=
  { state with database := state.database.renamed rename }

/-- The test does not look at the token of a record. -/
def SessionRecord.Tokenless (test : SessionRecord → Bool) : Prop :=
  ∀ record token, test { record with token } = test record

namespace Database

variable (rename : String → String) (db : Database)

theorem countP_renamed
    {test : SessionRecord → Bool} (htokenless : SessionRecord.Tokenless test) :
    (db.renamed rename).records.countP test = db.records.countP test := by
  have hsame : test ∘ SessionRecord.renamed rename = test :=
    funext fun record => htokenless record (rename record.token)
  rw [renamed, List.countP_map, hsame]

theorem countOpen_renamed
    {test : SessionRecord → Bool} (htokenless : SessionRecord.Tokenless test) :
    (db.renamed rename).countOpen test = db.countOpen test :=
  db.countP_renamed rename fun record token => congrArg (record.isOpen && ·) (htokenless record token)

theorem countSpent_renamed (now : Moment) :
    (db.renamed rename).countSpent now = db.countSpent now :=
  db.countP_renamed rename fun _ _ => rfl

theorem revokeWhere_renamed
    {test : SessionRecord → Bool} (htokenless : SessionRecord.Tokenless test) (now : Moment) :
    (db.renamed rename).revokeWhere test now = (db.revokeWhere test now).renamed rename := by
  unfold revokeWhere renamed
  congr 1
  rw [List.map_map, List.map_map]
  apply List.map_congr_left
  intro record _
  have hsame : test (record.renamed rename) = test record := htokenless record _
  have hopen : (record.renamed rename).isOpen = record.isOpen := rfl
  simp only [Function.comp_apply, hsame, hopen]
  split
  · rfl
  · rfl

theorem sweep_renamed (now : Moment) :
    (db.renamed rename).sweep now = (db.sweep now).renamed rename := by
  unfold sweep renamed
  congr 1
  exact List.filter_map

/-- The order of a list rests on moments and numbers. -/
theorem recordsOf_renamed (userId : Int) :
    (db.renamed rename).recordsOf userId =
      (db.recordsOf userId).map (·.renamed rename) := by
  have hfilter : (db.renamed rename).records.filter (·.userId == userId) =
      (db.records.filter (·.userId == userId)).map (·.renamed rename) :=
    List.filter_map
  have hsort (records : List SessionRecord) :
      (records.map (·.renamed rename)).mergeSort SessionRecord.newerFirst =
        (records.mergeSort SessionRecord.newerFirst).map (·.renamed rename) := by
    have hsame : ∀ a ∈ records, ∀ b ∈ records, SessionRecord.newerFirst a b =
        SessionRecord.newerFirst (a.renamed rename) (b.renamed rename) := fun _ _ _ _ => rfl
    exact (List.map_mergeSort hsame).symm
  rw [recordsOf, hfilter, hsort, ← recordsOf]

end Database

/-! ## Blind operations -/

abbrev Renaming (rename : String → String) (state twin : State) : Prop :=
  twin = state.renamed rename

/-- The operation ends alike when tokens are renamed, and leaves states that differ in the
same renaming. -/
def Blind {α : Type} (operation : Operation α) : Prop :=
  ∀ rename state, InStep (Renaming rename) operation state (state.renamed rename)

/-- A disturbance does not depend on the tables. -/
theorem agree_guarded
    {α β : Type} {call : StoreCall} {no nothing operation : Operation α}
    {otherNo otherNothing other : Operation β} {rename : String → String} {state : State}
    {post : α → β → State → State → Prop}
    (hno : Agree (Renaming rename) no otherNo state (state.renamed rename) post)
    (hnothing : Agree (Renaming rename) nothing otherNothing state (state.renamed rename) post)
    (hoperation : Agree (Renaming rename) operation other state (state.renamed rename) post) :
    Agree (Renaming rename) (Store.guarded call no nothing operation)
      (Store.guarded call otherNo otherNothing other) state (state.renamed rename) post := by
  refine .get_bind ?_
  have hsame : (state.renamed rename).disturbance? call = state.disturbance? call := rfl
  rw [hsame]
  cases state.disturbance? call with
  | none => exact hoperation
  | some disturbance =>
      cases disturbance with
      | failing failure => exact .throw failure rfl
      | answeringNo => exact hno
      | findingNothing => exact hnothing

namespace Blind

variable {α β : Type}

theorem pure (value : α) : Blind (Pure.pure value : Operation α) :=
  fun _ _ => .pure ⟨rfl, rfl⟩

theorem throw (failure : Failure) : Blind (MonadExcept.throw failure : Operation α) :=
  fun _ _ => .throw failure rfl

theorem bind
    {first : Operation α} {next : α → Operation β} (hfirst : Blind first)
    (hnext : ∀ value, Blind (next value)) :
    Blind (first >>= next) := by
  intro rename state
  refine (hfirst rename state).bind ?_
  rintro value later _ rfl
  exact hnext value rename later

theorem tryCatch
    {operation : Operation α} {handler : Failure → Operation α} (hoperation : Blind operation)
    (hhandler : ∀ failure, Blind (handler failure)) :
    Blind (MonadExcept.tryCatch operation handler) := by
  intro rename state
  refine (hoperation rename state).tryCatch ?_
  rintro failure later _ rfl
  exact hhandler failure rename later

/-- A step that is known from both states. -/
theorem of_exec
    {operation : Operation α}
    (hexec : ∀ rename state, exec operation (state.renamed rename) =
      ((exec operation state).1, (exec operation state).2.renamed rename)) :
    Blind operation :=
  fun rename state => .of_exec rfl (hexec rename state) rfl

/-- What follows a failure does not matter. -/
theorem throw_bind (failure : Failure) (next : α → Operation β) :
    Blind (MonadExcept.throw failure >>= next) :=
  .of_exec fun _ _ => rfl

theorem note (level : Log.Level) (source : Log.Source) (text : String) :
    Blind (Operation.note level source text) :=
  .of_exec fun _ _ => rfl

theorem now : Blind Operation.now :=
  .of_exec fun _ _ => rfl

theorem drawSalt : Blind Operation.drawSalt :=
  .of_exec fun _ _ => rfl

theorem ofBreakdown (outcome : Except Breakdown α) : Blind (Operation.ofBreakdown outcome) := by
  cases outcome with
  | ok value => exact .pure value
  | error cause => exact .throw (.broken cause)

theorem guarded
    {call : StoreCall} {no nothing operation : Operation α} (hno : Blind no)
    (hnothing : Blind nothing) (hoperation : Blind operation) :
    Blind (Store.guarded call no nothing operation) :=
  fun rename state => agree_guarded (hno rename state) (hnothing rename state)
    (hoperation rename state)

theorem requireColumn (id : Int) : Blind (Store.requireColumn id) := by
  unfold Store.requireColumn
  split
  · exact .pure ()
  · exact .throw _

/-! ### Calls of the store -/

theorem accountByIdentifier (identifier : String) : Blind (Store.accountByIdentifier identifier) :=
  .guarded (.pure none) (.pure none) (.of_exec fun _ _ => rfl)

theorem accountById (id : Int) : Blind (Store.accountById id) :=
  .guarded (.pure none) (.pure none) ((requireColumn id).bind fun _ => .of_exec fun _ _ => rfl)

theorem markVerified (id : Int) : Blind (Store.markVerified id) :=
  .guarded (.pure false) (.pure false) ((requireColumn id).bind fun _ => .of_exec fun _ _ => rfl)

theorem setActive (id : Int) (active : Bool) : Blind (Store.setActive id active) :=
  .guarded (.pure false) (.pure false) ((requireColumn id).bind fun _ => .of_exec fun _ _ => rfl)

theorem revokeAllRecords (userId : Int) : Blind (Store.revokeAllRecords userId) := by
  refine .guarded (.pure 0) (.pure 0) ((requireColumn userId).bind fun _ => ?_)
  have htokenless : SessionRecord.Tokenless (·.userId == userId) := fun _ _ => rfl
  intro rename state
  refine .get_bind ?_
  dsimp only [State.renamed]
  rw [state.database.countOpen_renamed rename htokenless,
    state.database.revokeWhere_renamed rename htokenless]
  refine .set_bind (InStep.bind (note .info .store _ rename _) ?_)
  rintro _ later _ rfl
  exact pure _ rename later

theorem sweepRecords : Blind Store.sweepRecords := by
  refine .guarded (.pure 0) (.pure 0) ?_
  intro rename state
  refine .get_bind ?_
  dsimp only [State.renamed]
  rw [state.database.countSpent_renamed rename, state.database.sweep_renamed rename]
  refine .set_bind (InStep.bind (note .info .store _ rename _) ?_)
  rintro _ later _ rfl
  exact pure _ rename later

/-- What is listed differs in the renaming. -/
theorem agree_listRecords (userId : Int) (rename : String → String) (state : State) :
    Agree (Renaming rename) (Store.listRecords userId) (Store.listRecords userId) state
      (state.renamed rename) fun records others later last =>
        others = records.map (·.renamed rename) ∧ last = later.renamed rename := by
  refine agree_guarded (.pure ⟨rfl, rfl⟩) (.pure ⟨rfl, rfl⟩) ?_
  refine (requireColumn userId rename state).bind ?_
  rintro _ later _ rfl
  exact .get_bind (.pure ⟨later.database.recordsOf_renamed rename userId, rfl⟩)

/-! ### Operations of the service -/

theorem publish (service : Service) (name : EventName) (userId : Int) (note : EventNote) :
    Blind (service.publish name userId note) := by
  refine .of_exec fun rename state => ?_
  unfold Service.publish
  cases service.publisher with
  | absent | recording | logging | failing => rfl

theorem present (account : Option Account) : Blind (Service.present account) := by
  cases account with
  | some account => exact .pure account
  | none => exact .throw _

theorem verifyEmail (userId : Int) : Blind (Service.verifyEmail userId) := by
  unfold Service.verifyEmail
  refine (markVerified userId).bind fun marked => ?_
  cases marked with
  | false => exact .throw_bind _ _
  | true =>
      refine (note _ _ _).bind fun _ => (accountById userId).bind fun found => ?_
      exact (present found).bind fun account => .pure account.withoutHash

theorem logoutAll (service : Service) (userId : Int) : Blind (service.logoutAll userId) := by
  refine (revokeAllRecords userId).bind fun count => ?_
  exact (publish service _ userId _).bind fun _ => .pure count

theorem deactivate (userId : Int) : Blind (Service.deactivate userId) := by
  unfold Service.deactivate
  refine (setActive userId false).bind fun found => ?_
  cases found with
  | false => exact .throw_bind _ _
  | true =>
      refine (revokeAllRecords userId).bind fun count => ?_
      exact (note _ _ _).bind fun _ => .pure count

theorem activate (userId : Int) : Blind (Service.activate userId) := by
  unfold Service.activate
  refine (setActive userId true).bind fun found => ?_
  cases found with
  | false => exact .throw_bind _ _
  | true => exact note _ _ _

theorem source (service : Service) (settings : Option Settings) :
    Blind (Deed.source service settings) := by
  cases settings with
  | none => exact .pure service
  | some settings =>
      refine (ofBreakdown settings.accessTtl).bind fun accessTtl => ?_
      refine (ofBreakdown settings.refreshTtl).bind fun refreshTtl => ?_
      refine (ofBreakdown _).bind fun issuer => drawSalt.bind fun salt => ?_
      exact (ofBreakdown _).bind fun hasher => .pure _

end Blind

/-! ## Command lines -/

namespace Console

theorem table_renamed (rename : String → String) (now : Moment) (records : List SessionRecord) :
    table now (records.map (·.renamed rename)) = table now records := by
  rw [table, List.map_map]
  rfl

theorem blind_runForUser (service : Service) (identifier : String) (id : Int)
    (command : UserCommand) :
    Blind (runForUser service identifier id command) := by
  cases command with
  | verifyEmail =>
      refine ((Blind.verifyEmail id).bind fun account => .pure _).tryCatch fun failure => ?_
      split
      · exact .pure _
      · exact .throw _
  | revokeSessions => exact (Blind.logoutAll service id).bind fun count => .pure _
  | listSessions =>
      intro rename state
      refine (Blind.agree_listRecords id rename state).bind ?_
      rintro records _ later _ ⟨rfl, rfl⟩
      cases records with
      | nil => exact .pure ⟨rfl, rfl⟩
      | cons record rest =>
          refine Agree.bind (Blind.now rename later) ?_
          rintro moment _ last _ ⟨rfl, rfl⟩
          exact .pure ⟨by rw [table_renamed], rfl⟩
  | deactivateUser => exact (Blind.deactivate id).bind fun count => .pure _
  | activateUser => exact (Blind.activate id).bind fun _ => .pure _

theorem blind_runCommand (service : Service) (command : Command) :
    Blind (runCommand service command) := by
  cases command with
  | purgeSessions => exact Blind.sweepRecords.bind fun count => .pure _
  | forUser command identifier =>
      refine (Blind.accountByIdentifier identifier).bind fun found => ?_
      cases found with
      | none => exact .pure _
      | some account => exact blind_runForUser service identifier account.id command

theorem blind_run {source : Operation Service} (hsource : Blind source) (arguments : List String) :
    Blind (run source arguments) := by
  unfold run
  cases Request.ofArguments arguments with
  | command command => exact hsource.bind fun service => blind_runCommand service command
  | nothing => exact .pure _
  | help form => exact .pure _
  | faulty form fault => exact .pure _

/-- Whatever the tables hold and whatever the tokens are renamed to, a command line exits,
prints and fails alike, with a given service or one built from settings, and the databases
that it leaves differ in the same renaming. -/
theorem run_renamed
    (service : Service) (settings : Option Settings) (arguments : List String)
    (rename : String → String) (state : State) :
    let line := run (Deed.source service settings) arguments
    (exec line (state.renamed rename)).1 = (exec line state).1 ∧
      (exec line (state.renamed rename)).2 = (exec line state).2.renamed rename :=
  (blind_run (Blind.source service settings) arguments rename state).outcome_eq

end Console

end AccountSessions
