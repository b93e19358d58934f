import AccountSessions.Proofs.Coupling
import AccountSessions.Proofs.LiveSessions

/-!
# Calls on twin states

Twin states differ at most in dead records, in the numbers of records and in what was
announced.  Every call leaves twins behind, and those that neither end sessions nor tell
of them have the same outcome on both: whether a token is live, which account there is
and which token comes next does not depend on what twins may differ in.
-/

namespace AccountSessions

/-! ## Twin databases -/

/-- The databases have the same accounts and, up to numbers, the same live records, and
the tokens of all their records have numbers below the bound. -/
structure Alike (service : Service) (ids : Nat → String) (bound : Nat) (now : Moment)
    (db other : Database) : Prop where
  accounts : other.accounts = db.accounts
  sessions : other.sessionsAt now = db.sessionsAt now
  below : NumberedBelow service ids bound db
  otherBelow : NumberedBelow service ids bound other

namespace Alike

variable {service : Service} {ids : Nat → String} {bound : Nat} {now : Moment}
  {db other : Database}

theorem mono
    (halike : Alike service ids bound now db other) {greater : Nat} (hbound : bound ≤ greater) :
    Alike service ids greater now db other :=
  { halike with
    below := halike.below.mono hbound
    otherBelow := halike.otherBelow.mono hbound }

theorem later
    (halike : Alike service ids bound now db other) {moment : Moment}
    (horder : now.micros ≤ moment.micros) :
    Alike service ids bound moment db other :=
  { halike with
    sessions := by
      rw [Database.sessionsAt_later horder, halike.sessions, ← Database.sessionsAt_later horder] }

theorem isTaken_eq
    (halike : Alike service ids bound now db other) (username email : String) :
    other.isTaken username email = db.isTaken username email := by
  rw [Database.isTaken, halike.accounts, ← Database.isTaken]

theorem account?_eq (halike : Alike service ids bound now db other) (id : Int) :
    other.account? id = db.account? id := by
  rw [Database.account?, halike.accounts, ← Database.account?]

theorem accountOf?_eq (halike : Alike service ids bound now db other) (identifier : String) :
    other.accountOf? identifier = db.accountOf? identifier := by
  rw [Database.accountOf?, halike.accounts, ← Database.accountOf?]

theorem hasAccount_eq (halike : Alike service ids bound now db other) (id : Int) :
    other.hasAccount id = db.hasAccount id := by
  rw [Database.hasAccount, halike.accounts, ← Database.hasAccount]

theorem liveRecord?_isNone_eq (halike : Alike service ids bound now db other) (token : String) :
    (other.liveRecord? token now).isNone = (db.liveRecord? token now).isNone := by
  rw [Database.liveRecord?_isNone, Database.liveRecord?_isNone, halike.sessions]

theorem withAccounts
    (halike : Alike service ids bound now db other) (accounts : List Account) :
    Alike service ids bound now { db with accounts } { other with accounts } :=
  ⟨rfl, halike.sessions, halike.below, halike.otherBelow⟩

/-- An account is added to both databases, with one id, or to neither. -/
theorem addAccount?
    (halike : Alike service ids bound now db other) (new : NewAccount) (moment : Moment) :
    (db.addAccount? new moment = none ∧ other.addAccount? new moment = none) ∨
      ∃ id accounts, db.addAccount? new moment = some (id, { db with accounts }) ∧
        other.addAccount? new moment = some (id, { other with accounts }) ∧
        Alike service ids bound now { db with accounts } { other with accounts } := by
  have hother : other.addAccount? new moment = (db.addAccount? new moment).map fun row =>
      (row.1, { other with accounts := row.2.accounts }) := by
    simp only [Database.addAccount?, halike.isTaken_eq, halike.accounts, Option.bind_eq_bind,
      Option.map_bind, Function.comp_def, apply_ite (Option.map _), Option.map_some,
      Option.map_none]
  cases hadd : db.addAccount? new moment with
  | none => exact .inl ⟨rfl, by rw [hother, hadd]; rfl⟩
  | some row =>
      obtain ⟨id, added⟩ := row
      rw [hadd] at hother
      have hrecords := Database.records_of_addAccount? hadd
      refine .inr ⟨id, added.accounts, ?_, hother, halike.withAccounts _⟩
      rw [← hrecords]

theorem changeAccount
    (halike : Alike service ids bound now db other) (id : Int) (change : Account → Account) :
    Alike service ids bound now (db.changeAccount id change) (other.changeAccount id change) := by
  have hsame : other.changeAccount id change =
      { other with accounts := (db.changeAccount id change).accounts } := by
    simp only [Database.changeAccount, halike.accounts]
  rw [hsame]
  exact halike.withAccounts _

theorem revokeWhere
    (halike : Alike service ids bound now db other) {test : SessionRecord → Bool}
    (hblind : ∀ record, test record.unnumbered = test record) (moment : Moment) :
    Alike service ids bound now (db.revokeWhere test moment) (other.revokeWhere test moment) where
  accounts := halike.accounts
  sessions := by
    rw [Database.sessionsAt_revokeWhere hblind, Database.sessionsAt_revokeWhere hblind,
      halike.sessions]
  below := halike.below.of_sameLogin fun record hmem => by
    obtain ⟨old, hold, hsame, -⟩ := Database.mem_revokeWhere hmem
    exact ⟨old, hold, hsame⟩
  otherBelow := halike.otherBelow.of_sameLogin fun record hmem => by
    obtain ⟨old, hold, hsame, -⟩ := Database.mem_revokeWhere hmem
    exact ⟨old, hold, hsame⟩

/-- A login makes its record in both databases or in neither. -/
theorem addRecord?
    (halike : Alike service ids bound now db other) (hids : Function.Injective ids)
    {account : Account} {token : String} {expires : Moment}
    (hissue : service.issuer.issue .refresh now (ids bound) account.id (some account.email) =
      .ok token)
    (hexpires : now.add? service.issuer.refreshTtl = some expires) :
    (db.addRecord? account.id token expires now = none ∧
        other.addRecord? account.id token expires now = none) ∨
      ∃ id added otherId otherAdded,
        db.addRecord? account.id token expires now = some (id, added) ∧
        other.addRecord? account.id token expires now = some (otherId, otherAdded) ∧
        Alike service ids (bound + 1) now added otherAdded := by
  have hfresh := halike.below.record?_eq_none hids hissue
  have hotherFresh := halike.otherBelow.record?_eq_none hids hissue
  cases hhas : db.hasAccount account.id with
  | false =>
      have hother : other.hasAccount account.id = false := (halike.hasAccount_eq _).trans hhas
      exact .inl ⟨by simp [Database.addRecord?, hhas], by simp [Database.addRecord?, hother]⟩
  | true =>
      have hother : other.hasAccount account.id = true := (halike.hasAccount_eq _).trans hhas
      obtain ⟨id, added, hadd⟩ : ∃ id added,
          db.addRecord? account.id token expires now = some (id, added) := by
        simp [Database.addRecord?, hhas, hfresh]
      obtain ⟨otherId, otherAdded, hotherAdd⟩ : ∃ id added,
          other.addRecord? account.id token expires now = some (id, added) := by
        simp [Database.addRecord?, hother, hotherFresh]
      refine .inr ⟨id, added, otherId, otherAdded, hadd, hotherAdd, ?_, ?_, ?_, ?_⟩
      · obtain ⟨-, rfl⟩ := Database.addRecord?_eq_some hadd
        obtain ⟨-, rfl⟩ := Database.addRecord?_eq_some hotherAdd
        exact halike.accounts
      · rw [Database.sessionsAt_addRecord? hadd, Database.sessionsAt_addRecord? hotherAdd,
          halike.sessions]
      · exact halike.below.addRecord? hissue hexpires hadd
      · exact halike.otherBelow.addRecord? hissue hexpires hotherAdd

theorem sweep_left
    (halike : Alike service ids bound now db other) {moment : Moment}
    (horder : moment.micros ≤ now.micros) :
    Alike service ids bound now (db.sweep moment) other where
  accounts := halike.accounts
  sessions := halike.sessions.trans (Database.sessionsAt_sweep db horder).symm
  below := halike.below.of_sameLogin fun record hmem =>
    ⟨record, List.mem_of_mem_filter hmem, .refl record⟩
  otherBelow := halike.otherBelow

theorem symm (halike : Alike service ids bound now db other) :
    Alike service ids bound now other db :=
  ⟨halike.accounts.symm, halike.sessions.symm, halike.otherBelow, halike.below⟩

end Alike

/-! ## Twin states -/

/-- Undisturbed states at one moment with the same supplies, and with databases that are
alike. -/
structure Twins (service : Service) (ids : Nat → String) (state twin : State) : Prop where
  undisturbed : state.disturbances = []
  twinUndisturbed : twin.disturbances = []
  now : twin.now = state.now
  fixed : state.tokenIds.fixed = none
  text : state.tokenIds.text = ids
  tokenIds : twin.tokenIds = state.tokenIds
  saltsDrawn : twin.saltsDrawn = state.saltsDrawn
  databases : Alike service ids (state.tokenIds.drawn + 1) state.now state.database twin.database

/-- The operation succeeds, and nothing but the log and the events may have grown. -/
def Hushes {α : Type} (action : Operation α) (state : State) (value : α) : Prop :=
  ∃ log published, exec action state = (.ok value, { state with log, published })

/-- Nothing but the log and the events may have grown when the operation ends. -/
def Fades {α : Type} (action : Operation α) (state : State) : Prop :=
  ∃ log published, (exec action state).2 = { state with log, published }

namespace Hushes

variable {α β : Type} {state : State} {value : α}

theorem fades {action : Operation α} (hhushes : Hushes action state value) :
    Fades action state := by
  obtain ⟨log, published, hexec⟩ := hhushes
  exact ⟨log, published, by rw [hexec]⟩

theorem bind
    {first : Operation α} {next : α → Operation β} (hfirst : Hushes first state value)
    (hnext : ∀ log published, Fades (next value) { state with log, published }) :
    Fades (first >>= next) state := by
  obtain ⟨log, published, hexec⟩ := hfirst
  obtain ⟨laterLog, laterPublished, hlater⟩ := hnext log published
  exact ⟨laterLog, laterPublished, by rw [exec_bind, hexec]; exact hlater⟩

end Hushes

theorem hushes_note (level : Log.Level) (source : Log.Source) (text : String) (state : State) :
    Hushes (Operation.note level source text) state () :=
  ⟨_, _, rfl⟩

theorem fades_refuse {α : Type} (kind : Refusal.Kind) (state : State) :
    Fades (Operation.refuse kind : Operation α) state :=
  ⟨_, _, rfl⟩

theorem hushes_publish
    (service : Service) (name : EventName) (userId : Int) (note : EventNote) (state : State) :
    Hushes (service.publish name userId note) state () := by
  unfold Hushes Service.publish
  cases service.publisher with
  | absent => exact ⟨_, _, rfl⟩
  | recording => exact ⟨_, _, rfl⟩
  | logging => exact ⟨_, _, rfl⟩
  | failing => exact ⟨_, _, rfl⟩

/-- What a logout does once it has looked for an open record. -/
theorem fades_logout
    {state : State} (hundisturbed : state.disturbances = []) (service : Service) (userId : Int)
    (token : String) (revoked : Bool) :
    Fades (do
        if !revoked then
          match ← Store.findRecord token with
          | none =>
            Operation.note .warning .service
              ("Logout with unknown session" ++ " user_id=" ++ toString userId)
          | some _ =>
            Operation.note .warning .service
              ("Logout with already revoked session" ++ " user_id=" ++ toString userId)
          Operation.refuse .sessionNotLive
        Operation.note .info .service ("Logout successful" ++ " user_id=" ++ toString userId)
        service.publish .loggedOut userId .nothing)
      state := by
  cases revoked with
  | true =>
      refine (hushes_note _ _ _ state).bind ?_
      intro log published
      exact (hushes_publish service _ _ _ _).fades
  | false =>
      have hfound : Hushes (Store.findRecord token) state (state.database.record? token) := by
        refine ⟨state.log, state.published, ?_⟩
        rw [Store.findRecord, Store.exec_guarded hundisturbed]
        rfl
      refine hfound.bind ?_
      intro log published
      cases state.database.record? token with
      | none => exact (hushes_note _ _ _ _).bind fun _ _ => fades_refuse _ _
      | some record => exact (hushes_note _ _ _ _).bind fun _ _ => fades_refuse _ _

namespace Twins

variable {service : Service} {ids : Nat → String} {state twin : State}

theorem symm (htwins : Twins service ids state twin) : Twins service ids twin state where
  undisturbed := htwins.twinUndisturbed
  twinUndisturbed := htwins.undisturbed
  now := htwins.now.symm
  fixed := by rw [htwins.tokenIds, htwins.fixed]
  text := by rw [htwins.tokenIds, htwins.text]
  tokenIds := htwins.tokenIds.symm
  saltsDrawn := htwins.saltsDrawn.symm
  databases := by
    rw [htwins.tokenIds, htwins.now]
    exact htwins.databases.symm

theorem hushed
    (htwins : Twins service ids state twin) (log : List Log.Line) (published : List Event)
    (twinLog : List Log.Line) (twinPublished : List Event) :
    Twins service ids { state with log, published }
      { twin with log := twinLog, published := twinPublished } :=
  ⟨htwins.undisturbed, htwins.twinUndisturbed, htwins.now, htwins.fixed, htwins.text,
    htwins.tokenIds, htwins.saltsDrawn, htwins.databases⟩

theorem withDatabases
    (htwins : Twins service ids state twin) {db other : Database}
    (halike : Alike service ids (state.tokenIds.drawn + 1) state.now db other) :
    Twins service ids { state with database := db }
      { twin with now := state.now, database := other } :=
  ⟨htwins.undisturbed, htwins.twinUndisturbed, rfl, htwins.fixed, htwins.text,
    htwins.tokenIds, htwins.saltsDrawn, halike⟩

theorem atMoment
    (htwins : Twins service ids state twin) {moment : Moment}
    (horder : state.now.micros ≤ moment.micros) :
    Twins service ids { state with now := moment } { twin with now := moment } :=
  ⟨htwins.undisturbed, htwins.twinUndisturbed, rfl, htwins.fixed, htwins.text,
    htwins.tokenIds, htwins.saltsDrawn, htwins.databases.later horder⟩

theorem draw
    (htwins : Twins service ids state twin) :
    Twins service ids
      { state with tokenIds := { state.tokenIds with drawn := state.tokenIds.drawn + 1 } }
      { twin with tokenIds := { twin.tokenIds with drawn := twin.tokenIds.drawn + 1 } } :=
  ⟨htwins.undisturbed, htwins.twinUndisturbed, htwins.now, htwins.fixed, htwins.text,
    by rw [htwins.tokenIds], htwins.saltsDrawn, htwins.databases.mono (Nat.le_succ _)⟩

theorem agree_of_hushes
    (htwins : Twins service ids state twin) {α β : Type} {first : Operation α}
    {second : Operation β} {value : α} {other : β} (hfirst : Hushes first state value)
    (hsecond : Hushes second twin other) :
    Agree (Twins service ids) first second state twin fun found twinFound later last =>
      found = value ∧ twinFound = other ∧ Twins service ids later last := by
  obtain ⟨log, published, hexec⟩ := hfirst
  obtain ⟨twinLog, twinPublished, htwin⟩ := hsecond
  exact .ok hexec htwin ⟨rfl, rfl, htwins.hushed log published twinLog twinPublished⟩

theorem abreast_of_fades
    (htwins : Twins service ids state twin) {α β : Type} {first : Operation α}
    {second : Operation β} (hfirst : Fades first state) (hsecond : Fades second twin) :
    Abreast (Twins service ids) first second state twin := by
  obtain ⟨log, published, hlater⟩ := hfirst
  obtain ⟨twinLog, twinPublished, hlast⟩ := hsecond
  unfold Abreast
  rw [hlater, hlast]
  exact htwins.hushed log published twinLog twinPublished

end Twins

/-! ## Steps on twin states -/

theorem exec_issue_numbered
    {state : State} (hfixed : state.tokenIds.fixed = none) (service : Service) (kind : Token.Kind)
    (account : Account) :
    exec (service.issue kind account.holder) state =
      ((service.issuer.issue kind state.now (state.tokenIds.text (state.tokenIds.drawn + 1))
          account.id (some account.email)).mapError .broken,
        { state with
          tokenIds := { state.tokenIds with drawn := state.tokenIds.drawn + 1 } }) := by
  rw [Service.exec_issue, TokenIds.next_of_unfixed hfixed, TokenIds.rest_of_unfixed hfixed]

namespace Twins

open Operation

variable {service : Service} {ids : Nat → String} {state twin : State}
  (htwins : Twins service ids state twin)

include htwins

theorem note (level : Log.Level) (source : Log.Source) (text : String) :
    InStep (Twins service ids) (Operation.note level source text) state twin :=
  .of_exec rfl rfl (htwins.hushed _ _ _ _)

/-- Lines that differ may be written, too. -/
theorem notes (level : Log.Level) (source : Log.Source) (text other : String) :
    Agree (Twins service ids) (Operation.note level source text)
      (Operation.note level source other) state twin fun _ _ => Twins service ids :=
  .ok rfl rfl (htwins.hushed _ _ _ _)

theorem clock : InStep (Twins service ids) Operation.now state twin :=
  .of_exec (exec_now state) (htwins.now ▸ exec_now twin) htwins

theorem clock_bind
    {α : Type} {next after : Moment → Operation α} {post : α → α → State → State → Prop}
    (hnext : Agree (Twins service ids) (next state.now) (after state.now) state twin post) :
    Agree (Twins service ids) (Operation.now >>= next) (Operation.now >>= after) state twin post :=
  hnext.congr (by rw [exec_bind, exec_now]) (by rw [exec_bind, exec_now, htwins.now])

theorem refuse {α : Type} (kind : Refusal.Kind) {post : α → α → State → State → Prop} :
    Agree (Twins service ids) (Operation.refuse kind) (Operation.refuse kind) state twin post :=
  .throw _ htwins

theorem breakDown {α : Type} (cause : Breakdown) {post : α → α → State → State → Prop} :
    Agree (Twins service ids) (Operation.breakDown cause) (Operation.breakDown cause) state twin
      post :=
  .throw _ htwins

theorem note_refuse
    {α : Type} (level : Log.Level) (source : Log.Source) (text : String) (kind : Refusal.Kind)
    (rest : Unit → Operation α) {post : α → α → State → State → Prop} :
    Agree (Twins service ids)
      (Operation.note level source text >>= fun _ => Operation.refuse kind >>= rest)
      (Operation.note level source text >>= fun _ => Operation.refuse kind >>= rest) state twin
      post :=
  (htwins.note level source text).bind fun _ _ _ htwins => .bind_error (htwins.refuse kind)

theorem note_throw
    {α β : Type} (level : Log.Level) (source : Log.Source) (text : String) (failure : Failure)
    {post : α → β → State → State → Prop} :
    Agree (Twins service ids)
      (Operation.note level source text >>= fun _ => (throw failure : Operation α))
      (Operation.note level source text >>= fun _ => (throw failure : Operation β)) state twin
      post :=
  Agree.bind (htwins.note level source text) fun _ _ _ _ h => .throw _ h.2

theorem ofBreakdown {α : Type} (outcome : Except Breakdown α) :
    InStep (Twins service ids) (Operation.ofBreakdown outcome) state twin := by
  cases outcome with
  | ok value => exact .pure ⟨rfl, htwins⟩
  | error cause => exact htwins.breakDown cause

theorem drawSalt : InStep (Twins service ids) Operation.drawSalt state twin := by
  have hexec (start : State) : exec Operation.drawSalt start =
      (.ok (Password.numberedSalt start.saltsDrawn),
        { start with saltsDrawn := start.saltsDrawn + 1 }) := rfl
  have htwin := hexec twin
  rw [htwins.saltsDrawn] at htwin
  exact .of_exec (hexec state) htwin
    ⟨htwins.undisturbed, htwins.twinUndisturbed, htwins.now, htwins.fixed, htwins.text,
      htwins.tokenIds, rfl, htwins.databases⟩

theorem checkPassword (password stored : String) :
    InStep (Twins service ids) (Service.checkPassword password stored) state twin := by
  unfold Service.checkPassword
  by_cases hunusable : Password.judge password stored = .unusable
  · simp only [hunusable, if_true]
    exact (htwins.note _ _ _).bind fun _ _ _ htwins => .pure ⟨rfl, htwins⟩
  · simp only [hunusable, if_false]
    exact .pure ⟨rfl, htwins⟩

/-- A token is issued alike, with the number that is next. -/
theorem issue (kind : Token.Kind) (account : Account) :
    Agree (Twins service ids) (service.issue kind account.holder)
      (service.issue kind account.holder) state twin fun value other later last =>
        value = other ∧ Twins service ids later last ∧ later.now = state.now ∧
          Alike service ids later.tokenIds.drawn later.now later.database last.database ∧
          service.issuer.issue kind state.now (ids later.tokenIds.drawn) account.id
            (some account.email) = .ok value := by
  have htwinFixed : twin.tokenIds.fixed = none := htwins.tokenIds ▸ htwins.fixed
  have htwin := exec_issue_numbered htwinFixed service kind account
  rw [htwins.tokenIds, htwins.now, htwins.text] at htwin
  have hfirst := exec_issue_numbered htwins.fixed service kind account
  rw [htwins.text] at hfirst
  have hlater := htwins.draw
  rw [htwins.tokenIds, htwins.now] at hlater
  cases hissue : service.issuer.issue kind state.now (ids (state.tokenIds.drawn + 1)) account.id
      (some account.email) with
  | error cause =>
      rw [hissue] at hfirst htwin
      exact .error hfirst htwin hlater
  | ok token =>
      rw [hissue] at hfirst htwin
      exact .ok hfirst htwin ⟨rfl, hlater, rfl, htwins.databases, hissue⟩

theorem publish (user : Service) (name : EventName) (userId : Int) (note other : EventNote) :
    Agree (Twins service ids) (user.publish name userId note)
      (user.publish name userId other) state twin fun _ _ => Twins service ids := by
  exact (htwins.agree_of_hushes (hushes_publish user name userId note state)
    (hushes_publish user name userId other twin)).mono
    fun _ _ _ _ h => h.2.2

theorem validate (kind : Token.Kind) (token : String) :
    InStep (Twins service ids) (service.validate kind token) state twin := by
  unfold Service.validate
  refine (htwins.clock).bind ?_
  intro moment later last htwins
  cases service.issuer.validate moment kind token with
  | ok claims => exact .pure ⟨rfl, htwins⟩
  | error fault =>
      cases fault with
      | broken cause => exact htwins.breakDown cause
      | rejected reason => exact (htwins.note _ _ _).bind fun _ _ _ htwins => .throw _ htwins

theorem validateRefresh (token : String) (report : String → String) :
    InStep (Twins service ids) (service.validateRefresh token report) state twin := by
  unfold Service.validateRefresh
  refine .tryCatch (htwins.validate .refresh token) ?_
  intro failure later last htwins
  cases failure with
  | refused refusal => exact (htwins.note _ _ _).bind fun _ _ _ htwins => .throw _ htwins
  | broken cause => exact .throw _ htwins

/-! ### Calls of the store -/

theorem guarded
    {α β : Type} {call other : StoreCall} {no nothing operation : Operation α}
    {otherNo otherNothing second : Operation β} {post : α → β → State → State → Prop}
    (hagree : Agree (Twins service ids) operation second state twin post) :
    Agree (Twins service ids) (Store.guarded call no nothing operation)
      (Store.guarded other otherNo otherNothing second) state twin post :=
  hagree.congr (Store.exec_guarded htwins.undisturbed call no nothing operation)
    (Store.exec_guarded htwins.twinUndisturbed other otherNo otherNothing second)

theorem requireColumn (id : Int) :
    InStep (Twins service ids) (Store.requireColumn id) state twin := by
  unfold Store.requireColumn
  split
  · exact .pure ⟨rfl, htwins⟩
  · exact htwins.breakDown _

theorem accountExists (username email : String) :
    InStep (Twins service ids) (Store.accountExists username email) state twin :=
  htwins.guarded (.get_bind
    (.pure ⟨(htwins.databases.isTaken_eq username email).symm, htwins⟩))

theorem accountById (id : Int) :
    InStep (Twins service ids) (Store.accountById id) state twin :=
  htwins.guarded ((htwins.requireColumn id).bind fun _ _ _ htwins =>
    .get_bind (.pure ⟨(htwins.databases.account?_eq id).symm, htwins⟩))

theorem accountByIdentifier (identifier : String) :
    InStep (Twins service ids) (Store.accountByIdentifier identifier) state twin :=
  htwins.guarded (.get_bind
    (.pure ⟨(htwins.databases.accountOf?_eq identifier).symm, htwins⟩))

theorem createAccount (new : NewAccount) :
    InStep (Twins service ids) (Store.createAccount new) state twin := by
  have hfull : Store.isFull twin.database = Store.isFull state.database := by
    rw [Store.isFull, htwins.databases.accounts, ← Store.isFull]
  refine htwins.guarded (.get_bind ?_)
  rw [hfull]
  split
  · exact htwins.breakDown _
  · rw [htwins.now]
    rcases htwins.databases.addAccount? new state.now with ⟨hnone, hotherNone⟩ |
      ⟨id, accounts, hadd, hotherAdd, hadded⟩
    · rw [hnone, hotherNone]
      exact htwins.note_throw _ _ _ _
    · rw [hadd, hotherAdd]
      refine .set_bind (InStep.bind (Twins.note ?_ _ _ _) ?_)
      · exact htwins.withDatabases hadded
      · intro _ later last htwins
        exact .pure ⟨rfl, htwins⟩

theorem markVerified (id : Int) :
    InStep (Twins service ids) (Store.markVerified id) state twin := by
  refine htwins.guarded ((htwins.requireColumn id).bind ?_)
  intro _ later last htwins
  refine .get_bind (.set_bind (.pure ⟨(htwins.databases.hasAccount_eq id).symm, ?_⟩))
  rw [htwins.now]
  exact htwins.withDatabases (htwins.databases.changeAccount id _)

theorem setActive (id : Int) (active : Bool) :
    InStep (Twins service ids) (Store.setActive id active) state twin := by
  refine htwins.guarded ((htwins.requireColumn id).bind ?_)
  intro _ later last htwins
  refine .get_bind (.set_bind (.pure ⟨(htwins.databases.hasAccount_eq id).symm, ?_⟩))
  rw [htwins.now]
  exact htwins.withDatabases (htwins.databases.changeAccount id _)

theorem stampLogin (id : Int) :
    InStep (Twins service ids) (Store.stampLogin id none) state twin := by
  refine htwins.guarded (htwins.clock.bind ?_)
  intro moment later last htwins
  refine (htwins.requireColumn id).bind ?_
  intro _ later last htwins
  refine InStep.bind (.of_exec rfl rfl ?_) ?_
  · dsimp only
    rw [htwins.now]
    exact htwins.withDatabases (htwins.databases.changeAccount id _)
  · intro _ later last htwins
    exact .pure ⟨rfl, htwins⟩

/-- The record of a token that was issued just now; its number may differ. -/
theorem createRecord
    (hids : Function.Injective ids) {account : Account} {token : String} {expires : Moment}
    (halike : Alike service ids state.tokenIds.drawn state.now state.database twin.database)
    (hissue : service.issuer.issue .refresh state.now (ids state.tokenIds.drawn) account.id
      (some account.email) = .ok token)
    (hexpires : state.now.add? service.issuer.refreshTtl = some expires) :
    Agree (Twins service ids) (Store.createRecord account.id token expires)
      (Store.createRecord account.id token expires) state twin fun _ _ => Twins service ids := by
  refine htwins.guarded ?_
  unfold Store.requireColumn
  split
  · rw [pure_bind]
    refine .get_bind ?_
    rw [htwins.now]
    rcases halike.addRecord? hids hissue hexpires with ⟨hnone, hotherNone⟩ |
      ⟨id, added, otherId, otherAdded, hadd, hotherAdd, hadded⟩
    · rw [hnone, hotherNone]
      exact htwins.note_throw _ _ _ _
    · rw [hadd, hotherAdd]
      refine .set_bind (.after ?_ ?_)
      · exact (htwins.withDatabases (hadded)).notes _ _ _ _
      · intro _ _ later last htwins
        exact .pure htwins
  · exact .bind_error (htwins.breakDown _)

theorem liveRecord (token : String) :
    Agree (Twins service ids) (Store.liveRecord token) (Store.liveRecord token) state twin
      fun found other later last =>
        other.isNone = found.isNone ∧ Twins service ids later last := by
  refine htwins.guarded (.get_bind (.pure ⟨?_, htwins⟩))
  rw [htwins.now]
  exact htwins.databases.liveRecord?_isNone_eq token

/-- A record that is open in one of the databases only is dead. -/
theorem revokeRecord (token : String) :
    Agree (Twins service ids) (Store.revokeRecord token) (Store.revokeRecord token) state twin
      fun _ _ => Twins service ids := by
  have hrevoked (start : State) (hstart : start.disturbances = []) :
      ∃ revoked log, exec (Store.revokeRecord token) start = (.ok revoked,
        { start with
          database := start.database.revokeWhere (·.token == token) start.now
          log }) := by
    unfold Store.revokeRecord
    rw [Store.exec_guarded hstart, exec_bind, exec_get]
    dsimp only
    split
    next hnone =>
      rw [Database.revokeWhere_of_countOpen hnone]
      exact ⟨_, _, rfl⟩
    next => exact ⟨_, _, rfl⟩
  obtain ⟨revoked, log, hexec⟩ := hrevoked state htwins.undisturbed
  obtain ⟨other, twinLog, htwin⟩ := hrevoked twin htwins.twinUndisturbed
  refine .ok hexec htwin ?_
  rw [htwins.now]
  have hblind : ∀ record : SessionRecord,
      (record.unnumbered.token == token) = (record.token == token) := fun _ => rfl
  exact (htwins.withDatabases (htwins.databases.revokeWhere hblind state.now)).hushed log
    state.published twinLog twin.published

theorem revokeAllRecords (userId : Int) :
    Agree (Twins service ids) (Store.revokeAllRecords userId) (Store.revokeAllRecords userId)
      state twin fun _ _ => Twins service ids := by
  refine htwins.guarded ((htwins.requireColumn userId).bind ?_)
  intro _ later last htwins
  refine .get_bind (.set_bind (.after ?_ ?_))
  · rw [htwins.now]
    exact (htwins.withDatabases (htwins.databases.revokeWhere (fun _ => rfl) _)).notes _ _ _ _
  · intro _ _ later last htwins
    exact .pure htwins

theorem sweepRecords :
    Agree (Twins service ids) Store.sweepRecords Store.sweepRecords state twin
      fun _ _ => Twins service ids := by
  refine htwins.guarded (.get_bind (.set_bind (.after ?_ ?_)))
  · have hnow := Int.le_refl state.now.micros
    have hswept := ((htwins.databases.sweep_left hnow).symm.sweep_left hnow).symm
    rw [htwins.now]
    exact Twins.notes (htwins.withDatabases hswept) _ _ _ _
  · intro _ _ later last htwins
    exact .pure htwins

theorem listRecords (userId : Int) :
    Agree (Twins service ids) (Store.listRecords userId) (Store.listRecords userId) state twin
      fun _ _ => Twins service ids :=
  htwins.guarded ((htwins.requireColumn userId).bind fun _ _ _ htwins => .get_bind (.pure htwins))

/-! ### Operations of the service -/

theorem present (account : Option Account) :
    InStep (Twins service ids)
      (Service.present account >>= fun account => pure account.withoutHash) state twin := by
  cases account with
  | none => exact .bind_error (htwins.breakDown _)
  | some account => exact .pure ⟨rfl, htwins⟩

theorem register (username email password name : String) :
    InStep (Twins service ids) (service.register username email password name) state twin := by
  unfold Service.register
  refine (htwins.note _ _ _).bind ?_
  intro _ later last htwins
  dsimp only
  cases service.policy.check password with
  | some violation =>
      refine (htwins.note _ _ _).bind ?_
      intro _ later last htwins
      exact .bind_error (.throw _ htwins)
  | none =>
      dsimp only
      refine (htwins.accountExists username email).bind ?_
      intro taken later last htwins
      cases taken with
      | true => exact htwins.note_refuse _ _ _ _ _
      | false =>
          refine htwins.drawSalt.bind ?_
          intro salt later last htwins
          refine (htwins.ofBreakdown _).bind ?_
          intro hash later last htwins
          refine (htwins.createAccount _).bind ?_
          intro id later last htwins
          refine (htwins.accountById id).bind ?_
          intro created later last htwins
          refine (htwins.note _ _ _).bind ?_
          intro _ later last htwins
          refine (htwins.publish _ _ _ _ _).bind ?_
          intro _ _ later last htwins
          exact htwins.present created

theorem verifyEmail (userId : Int) :
    InStep (Twins service ids) (Service.verifyEmail userId) state twin := by
  unfold Service.verifyEmail
  refine (htwins.markVerified userId).bind ?_
  intro marked later last htwins
  cases marked with
  | false => exact .bind_error (htwins.refuse _)
  | true =>
      refine (htwins.note _ _ _).bind ?_
      intro _ later last htwins
      refine (htwins.accountById userId).bind ?_
      intro found later last htwins
      exact htwins.present found

theorem login (hids : Function.Injective ids) (identifier password : String) :
    InStep (Twins service ids) (service.login identifier password) state twin := by
  unfold Service.login
  refine (htwins.note _ _ _).bind ?_
  intro _ later last htwins
  refine (htwins.accountByIdentifier identifier).bind ?_
  intro found later last htwins
  cases found with
  | none =>
      refine (htwins.checkPassword password service.hasher.dummyHash).bind ?_
      intro accepted later last htwins
      exact (htwins.note _ _ _).bind fun _ _ _ htwins => htwins.refuse _
  | some account =>
      dsimp only
      cases account.emailVerified with
      | false => exact htwins.note_refuse _ _ _ _ _
      | true =>
          refine (htwins.checkPassword password account.passwordHash).bind ?_
          intro accepted later last htwins
          cases accepted with
          | false => exact htwins.note_refuse _ _ _ _ _
          | true =>
              cases account.isActive with
              | false => exact htwins.note_refuse _ _ _ _ _
              | true =>
                  refine (htwins.issue .access account).bind ?_
                  rintro accessToken _ later last ⟨rfl, htwins, -⟩
                  refine (htwins.issue .refresh account).bind ?_
                  rintro refreshToken _ issued twinIssued ⟨rfl, htwins, hnow, halike, hissue⟩
                  rw [← hnow] at hissue
                  refine htwins.clock_bind ?_
                  cases hexpires : issued.now.add? service.issuer.refreshTtl with
                  | none => exact htwins.breakDown _
                  | some expires =>
                      refine (htwins.createRecord hids halike hissue hexpires).bind ?_
                      intro _ _ later last htwins
                      refine (htwins.stampLogin account.id).bind ?_
                      intro moment later last htwins
                      refine (htwins.note _ _ _).bind ?_
                      intro _ later last htwins
                      refine (htwins.publish _ _ _ _ _).bind ?_
                      intro _ _ later last htwins
                      exact .pure ⟨rfl, htwins⟩

theorem refresh (token : String) :
    InStep (Twins service ids) (service.refresh token) state twin := by
  unfold Service.refresh
  refine (htwins.validateRefresh token _).bind ?_
  intro claims later last htwins
  refine (htwins.accountById claims.userId).bind ?_
  intro found later last htwins
  cases found with
  | none => exact (htwins.note _ _ _).bind fun _ _ _ htwins => htwins.refuse _
  | some account =>
      dsimp only
      refine (htwins.liveRecord token).bind ?_
      rintro live other later last ⟨hlive, htwins⟩
      rw [hlive]
      cases live.isNone with
      | true => exact htwins.note_refuse _ _ _ _ _
      | false =>
          refine (htwins.issue .access account).bind ?_
          rintro accessToken _ later last ⟨rfl, htwins, -⟩
          exact (htwins.note _ _ _).bind fun _ _ _ htwins => .pure ⟨rfl, htwins⟩

theorem validateToken (token : String) :
    InStep (Twins service ids) (service.validateToken token) state twin := by
  unfold Service.validateToken
  refine .tryCatch (htwins.validate .access token) ?_
  intro failure later last htwins
  cases failure with
  | broken cause => exact htwins.breakDown _
  | refused refusal =>
      refine (htwins.validate .refresh token).bind ?_
      intro claims later last htwins
      refine (htwins.liveRecord token).bind ?_
      rintro live other later last ⟨hlive, htwins⟩
      rw [hlive]
      cases live.isNone with
      | true => exact .bind_error (.throw _ htwins)
      | false => exact .pure ⟨rfl, htwins⟩

theorem logoutAll (user : Service) (userId : Int) :
    Agree (Twins service ids) (user.logoutAll userId) (user.logoutAll userId) state twin
      fun _ _ => Twins service ids := by
  unfold Service.logoutAll
  refine (htwins.revokeAllRecords userId).bind ?_
  intro count other later last htwins
  refine (htwins.publish _ _ _ _ _).bind ?_
  intro _ _ later last htwins
  exact .pure htwins

theorem deactivate (userId : Int) :
    Agree (Twins service ids) (Service.deactivate userId) (Service.deactivate userId) state twin
      fun _ _ => Twins service ids := by
  unfold Service.deactivate
  refine (htwins.setActive userId false).bind ?_
  intro found later last htwins
  cases found with
  | false => exact .bind_error (htwins.refuse _)
  | true =>
      refine (htwins.revokeAllRecords userId).bind ?_
      intro count other later last htwins
      refine (htwins.notes _ _ _ _).bind ?_
      intro _ _ later last htwins
      exact .pure htwins

theorem activate (userId : Int) :
    InStep (Twins service ids) (Service.activate userId) state twin := by
  unfold Service.activate
  refine (htwins.setActive userId true).bind ?_
  intro found later last htwins
  cases found with
  | false => exact .bind_error (htwins.refuse _)
  | true => exact htwins.note _ _ _

/-- The record that a logout looks for may be dead, so that only one of the twins still
has it.  Both are then without a live one. -/
theorem logout (userId : Int) (token : String) :
    Abreast (Twins service ids) (service.logout userId token) (service.logout userId token) state
      twin := by
  unfold Service.logout
  refine .bind (htwins.validateRefresh token _) ?_
  rintro claims _ later last ⟨rfl, htwins⟩
  by_cases howner : claims.userId ≠ userId
  · rw [if_pos howner]
    exact .of_related (htwins.note_refuse _ _ _ _ _)
  · rw [if_neg howner]
    refine .bind (htwins.revokeRecord token) ?_
    intro revoked other later last htwins
    exact htwins.abreast_of_fades (fades_logout htwins.undisturbed service userId token revoked)
      (fades_logout htwins.twinUndisturbed service userId token other)

/-- Calls in which nothing is issued or hashed may be made with any service. -/
theorem perform_administrative (user : Service) {call : Call} (hcall : call.Administrative) :
    Abreast (Twins service ids) (call.perform user) (call.perform user) state twin := by
  cases call with
  | verifyEmail userId => exact .map_inStep _ (htwins.verifyEmail userId)
  | logoutAll userId => exact .map_related _ (htwins.logoutAll user userId)
  | deactivate userId => exact .map_related _ (htwins.deactivate userId)
  | activate userId => exact .map_inStep _ (htwins.activate userId)
  | listSessions userId => exact .map_related _ (htwins.listRecords userId)
  | purge => exact .map_related _ htwins.sweepRecords
  | register | login | refresh | validateToken | logout => exact hcall.elim

theorem perform (hids : Function.Injective ids) (call : Call) :
    Abreast (Twins service ids) (call.perform service) (call.perform service) state twin := by
  cases call with
  | register username email password name =>
      exact .map_inStep _ (htwins.register username email password name)
  | login identifier password => exact .map_inStep _ (htwins.login hids identifier password)
  | refresh token => exact .map_inStep _ (htwins.refresh token)
  | validateToken token => exact .map_inStep _ (htwins.validateToken token)
  | logout userId token => exact (htwins.logout userId token).map _ _
  | verifyEmail | logoutAll | deactivate | activate | listSessions | purge =>
      exact htwins.perform_administrative service trivial

end Twins

end AccountSessions
