import AccountSessions.Proofs.Coupling
import AccountSessions.Proofs.MatchedTables
import AccountSessions.Proofs.StoreCalls
import AccountSessions.Service.Operations

/-!
# Comparing two services

Two services that differ in their hashers and publishers run on states that differ in
hashes, and in what stands aside: the salts that were drawn, the log and the kept events.
No operation reads what stands aside but for a salt, so what a comparison says of it
carries over from step to step.
-/

namespace AccountSessions

/-! ## What stands aside -/

structure Aside where
  saltsDrawn : Nat
  log : List Log.Line
  published : List Event

namespace Aside

def noted (aside : Aside) (line : Log.Line) : Aside :=
  { aside with log := aside.log ++ [line] }

def salted (aside : Aside) : Aside :=
  { aside with saltsDrawn := aside.saltsDrawn + 1 }

def kept (aside : Aside) (event : Event) : Aside :=
  { aside with published := aside.published ++ [event] }

end Aside

def State.aside (state : State) : Aside :=
  ⟨state.saltsDrawn, state.log, state.published⟩

/-- What is left of an event that a publisher was handed. -/
def Publisher.tell (publisher : Publisher) (event : Event) (aside : Aside) : Aside :=
  match publisher with
  | .absent => aside
  | .recording => aside.kept event
  | .logging => aside.noted ⟨.info, .events, Service.eventText event⟩
  | .failing =>
    (aside.kept event).noted
      ⟨.error, .service,
        "Session event publisher failed event=" ++ event.name.text ++ " user_id=" ++
          toString event.userId⟩

theorem exec_publish
    (service : Service) (name : EventName) (userId : Int) (note : EventNote) (state : State) :
    ∃ later, exec (service.publish name userId note) state = (.ok (), later) ∧
      later = { state with log := later.log, published := later.published } ∧
      later.aside = service.publisher.tell ⟨name, userId, state.now, note⟩ state.aside := by
  unfold Service.publish
  cases service.publisher with
  | absent | recording | logging | failing => exact ⟨_, rfl, rfl, rfl⟩

/-! ## Comparisons -/

/-- What of two services is compared: how the hashes that they store are related, and how
what stands aside is, before and after an event is told. -/
structure Comparison (first second : Service) where
  hashes : String → String → Prop
  aside : Aside → Aside → Prop
  told : Event → Aside → Aside → Prop
  issuer : second.issuer = first.issuer
  policy : second.policy = first.policy
  noted : ∀ {before after : Aside} (line : Log.Line), line.source ≠ .events →
    aside before after → aside (before.noted line) (after.noted line)
  salted : ∀ {before after : Aside}, aside before after → aside before.salted after.salted
  tell : ∀ {before after : Aside} (event : Event), aside before after →
    told event (first.publisher.tell event before) (second.publisher.tell event after)

/-- Undisturbed states at one moment with one supply of token ids, with databases that
match and with related things aside. -/
structure Beside (hashes : String → String → Prop) (aside : Aside → Aside → Prop) (now : Moment)
    (state twin : State) : Prop where
  undisturbed : state.disturbances = []
  twinUndisturbed : twin.disturbances = []
  clock : state.now = now
  twinClock : twin.now = now
  tokenIds : twin.tokenIds = state.tokenIds
  databases : state.database.Matches hashes twin.database
  aside : aside state.aside twin.aside

namespace Comparison

variable {first second : Service}

abbrev Holds (comparison : Comparison first second) (now : Moment) (state twin : State) : Prop :=
  Beside comparison.hashes comparison.aside now state twin

/-- The states after an operation that has told an event, if any. -/
def After (comparison : Comparison first second) (now : Moment) :
    Option Event → State → State → Prop
  | none => comparison.Holds now
  | some event => Beside comparison.hashes (comparison.told event) now

/-- The actions end alike, and the comparison holds of the states they leave. -/
abbrev Alongside {α : Type} (comparison : Comparison first second) (now : Moment)
    (action other : Operation α) (state twin : State) : Prop :=
  Agree (comparison.Holds now) action other state twin fun value found later last =>
    value = found ∧ comparison.Holds now later last

end Comparison

/-! ## Steps -/

namespace Agree

variable {ε α β γ δ : Type} {rel : State → State → Prop} {state twin : State}

/-- Steps that are known to succeed, with what they give and leave. -/
theorem advance
    {action : ExceptT ε (StateM State) α} {other : ExceptT ε (StateM State) β}
    {next : α → ExceptT ε (StateM State) γ} {after : β → ExceptT ε (StateM State) δ}
    {post : γ → δ → State → State → Prop} {value : α} {found : β} {later last : State}
    (haction : exec action state = (.ok value, later))
    (hother : exec other twin = (.ok found, last))
    (hnext : Agree rel (next value) (after found) later last post) :
    Agree rel (action >>= next) (other >>= after) state twin post :=
  hnext.congr (by rw [exec_bind, haction]) (by rw [exec_bind, hother])

theorem map
    {action : ExceptT ε (StateM State) α} {other : ExceptT ε (StateM State) β} {change : α → γ}
    {change' : β → δ} {before : α → β → State → State → Prop} {post : γ → δ → State → State → Prop}
    (hagree : Agree rel action other state twin before)
    (hchange : ∀ value found later last, before value found later last →
      post (change value) (change' found) later last) :
    Agree rel (change <$> action) (change' <$> other) state twin post := by
  rw [map_eq_pure_bind, map_eq_pure_bind]
  exact hagree.bind fun value found later last h => .pure (hchange value found later last h)

end Agree

/-- How the outcomes of two hashings are related. -/
inductive HashesAlike (hashes : String → String → Prop) :
    Except Breakdown String → Except Breakdown String → Prop where
  | ok {hash other : String} (hrelated : hashes hash other) :
      HashesAlike hashes (.ok hash) (.ok other)
  | error (cause : Breakdown) : HashesAlike hashes (.error cause) (.error cause)

/-- The verdicts accept alike, and both or neither of them deserves a warning. -/
structure Password.Verdict.Resembles (verdict other : Password.Verdict) : Prop where
  accepts : other.accepts = verdict.accepts
  unusable : other = .unusable ↔ verdict = .unusable

theorem Password.Verdict.Resembles.refl (verdict : Password.Verdict) :
    verdict.Resembles verdict :=
  ⟨rfl, Iff.rfl⟩

namespace Beside

open Operation

variable {first second : Service} {comparison : Comparison first second} {now : Moment}
  {state twin : State}

section Changes

variable {hashes : String → String → Prop} {aside : Aside → Aside → Prop}

theorem withDatabases
    (hbeside : Beside hashes aside now state twin) {db other : Database}
    (hmatch : db.Matches hashes other) :
    Beside hashes aside now { state with database := db } { twin with database := other } :=
  { hbeside with databases := hmatch }

/-- The clock shows its moment in both. -/
theorem atMoment (hbeside : Beside hashes aside now state twin) :
    Beside hashes aside now { state with now } { twin with now } :=
  { hbeside with
    clock := rfl
    twinClock := rfl }

theorem withTokenIds
    (hbeside : Beside hashes aside now state twin) (ids : TokenIds) :
    Beside hashes aside now { state with tokenIds := ids } { twin with tokenIds := ids } :=
  { hbeside with tokenIds := rfl }

end Changes

variable (hbeside : comparison.Holds now state twin)

include hbeside

theorem noted (line : Log.Line) (hsource : line.source ≠ .events) :
    comparison.Holds now { state with log := state.log ++ [line] }
      { twin with log := twin.log ++ [line] } :=
  { hbeside with aside := comparison.noted line hsource hbeside.aside }

theorem note
    (level : Log.Level) (source : Log.Source) [Operation.Quiet source] (text : String) :
    InStep (comparison.Holds now) (Operation.note level source text) state twin :=
  .of_exec rfl rfl (hbeside.noted ⟨level, source, text⟩ Operation.Quiet.ne_events)

theorem clock_bind
    {α β : Type} {next : Moment → Operation α} {after : Moment → Operation β}
    {post : α → β → State → State → Prop}
    (hnext : Agree (comparison.Holds now) (next now) (after now) state twin post) :
    Agree (comparison.Holds now) (Operation.now >>= next) (Operation.now >>= after) state twin
      post := by
  refine .advance (exec_now state) (exec_now twin) ?_
  rw [hbeside.clock, hbeside.twinClock]
  exact hnext

theorem refuse {α β : Type} (kind : Refusal.Kind) {post : α → β → State → State → Prop} :
    Agree (comparison.Holds now) (Operation.refuse kind) (Operation.refuse kind) state twin post :=
  .error rfl rfl hbeside

theorem breakDown {α β : Type} (cause : Breakdown) {post : α → β → State → State → Prop} :
    Agree (comparison.Holds now) (Operation.breakDown cause) (Operation.breakDown cause) state
      twin post :=
  .error rfl rfl hbeside

theorem note_refuse
    {α β : Type} (level : Log.Level) (source : Log.Source) [Operation.Quiet source]
    (text : String) (kind : Refusal.Kind) {rest : Unit → Operation α}
    {after : Unit → Operation β} {post : α → β → State → State → Prop} :
    Agree (comparison.Holds now)
      (Operation.note level source text >>= fun _ => Operation.refuse kind >>= rest)
      (Operation.note level source text >>= fun _ => Operation.refuse kind >>= after) state twin
      post :=
  Agree.bind (hbeside.note level source text) fun _ _ _ _ h =>
    .bind_error (refuse h.2 kind)

theorem ofBreakdown {α : Type} (outcome : Except Breakdown α) :
    InStep (comparison.Holds now) (Operation.ofBreakdown outcome) state twin := by
  cases outcome with
  | ok value => exact .pure ⟨rfl, hbeside⟩
  | error cause => exact hbeside.breakDown cause

/-- Hashes that are related are the only values in which the runs differ. -/
theorem ofHash
    {outcome other : Except Breakdown String}
    (halike : HashesAlike comparison.hashes outcome other) :
    Agree (comparison.Holds now) (Operation.ofBreakdown outcome) (Operation.ofBreakdown other)
      state twin fun hash found later last =>
        comparison.hashes hash found ∧ comparison.Holds now later last := by
  cases halike with
  | ok hrelated => exact .pure ⟨hrelated, hbeside⟩
  | error cause => exact hbeside.breakDown cause

theorem salted :
    comparison.Holds now { state with saltsDrawn := state.saltsDrawn + 1 }
      { twin with saltsDrawn := twin.saltsDrawn + 1 } :=
  { hbeside with aside := comparison.salted hbeside.aside }

theorem drawTokenId : InStep (comparison.Holds now) Operation.drawTokenId state twin := by
  refine .get_bind ?_
  rw [hbeside.tokenIds]
  cases state.tokenIds.fixed with
  | some text => exact .pure ⟨rfl, hbeside⟩
  | none => exact .set_bind (.pure ⟨rfl, hbeside.withTokenIds _⟩)

theorem checkPassword
    {password other stored otherStored : String}
    (hresembles : (Password.judge password stored).Resembles (Password.judge other otherStored)) :
    comparison.Alongside now (Service.checkPassword password stored)
      (Service.checkPassword other otherStored) state twin := by
  unfold Service.checkPassword
  dsimp only
  rw [hresembles.accepts]
  by_cases hunusable : Password.judge password stored = .unusable
  · rw [if_pos hunusable, if_pos (hresembles.unusable.mpr hunusable)]
    exact (hbeside.note _ _ _).bind fun _ _ _ hbeside => .pure ⟨rfl, hbeside⟩
  · rw [if_neg hunusable, if_neg fun h => hunusable (hresembles.unusable.mp h)]
    exact .pure ⟨rfl, hbeside⟩

theorem issue (kind : Token.Kind) (holder : Token.Holder) :
    comparison.Alongside now (first.issue kind holder) (second.issue kind holder) state twin := by
  unfold Service.issue
  rw [comparison.issuer]
  cases holder.id with
  | none => exact hbeside.breakDown _
  | some id =>
      refine hbeside.clock_bind ?_
      refine hbeside.drawTokenId.bind ?_
      intro tokenId later last hbeside
      exact hbeside.ofBreakdown _

theorem publish (name : EventName) (userId : Int) (note : EventNote) :
    Agree (comparison.Holds now) (first.publish name userId note) (second.publish name userId note)
      state twin fun _ _ => comparison.After now (some ⟨name, userId, now, note⟩) := by
  obtain ⟨later, hlater, hsame, htold⟩ := exec_publish first name userId note state
  obtain ⟨last, hlast, htwin, hheard⟩ := exec_publish second name userId note twin
  refine .ok hlater hlast ?_
  have haside := comparison.tell ⟨name, userId, now, note⟩ hbeside.aside
  rw [hbeside.clock] at htold
  rw [hbeside.twinClock] at hheard
  rw [← htold, ← hheard] at haside
  rw [hsame, htwin] at haside ⊢
  exact { hbeside with aside := haside }

theorem validate (kind : Token.Kind) (token : String) :
    comparison.Alongside now (first.validate kind token) (second.validate kind token) state
      twin := by
  unfold Service.validate
  rw [comparison.issuer]
  refine hbeside.clock_bind ?_
  cases first.issuer.validate now kind token with
  | ok claims => exact .pure ⟨rfl, hbeside⟩
  | error fault =>
      cases fault with
      | broken cause => exact hbeside.breakDown cause
      | rejected reason => exact (hbeside.note _ _ _).bind fun _ _ _ hbeside => .throw _ hbeside

theorem validateRefresh (token : String) (report : String → String) :
    comparison.Alongside now (first.validateRefresh token report)
      (second.validateRefresh token report) state twin := by
  unfold Service.validateRefresh
  refine .tryCatch (hbeside.validate .refresh token) ?_
  intro failure later last hbeside
  cases failure with
  | refused refusal => exact (hbeside.note _ _ _).bind fun _ _ _ hbeside => .throw _ hbeside
  | broken cause => exact .throw _ hbeside

/-! ## Calls of the store -/

theorem guarded
    {α β : Type} {call : StoreCall} {no nothing operation : Operation α}
    {otherNo otherNothing other : Operation β} {post : α → β → State → State → Prop}
    (hagree : Agree (comparison.Holds now) operation other state twin post) :
    Agree (comparison.Holds now) (Store.guarded call no nothing operation)
      (Store.guarded call otherNo otherNothing other) state twin post :=
  hagree.congr (Store.exec_guarded hbeside.undisturbed call no nothing operation)
    (Store.exec_guarded hbeside.twinUndisturbed call otherNo otherNothing other)

theorem requireColumn (id : Int) :
    InStep (comparison.Holds now) (Store.requireColumn id) state twin := by
  unfold Store.requireColumn
  split
  · exact .pure ⟨rfl, hbeside⟩
  · exact hbeside.breakDown _

theorem accountById (id : Int) :
    Agree (comparison.Holds now) (Store.accountById id) (Store.accountById id) state twin
      fun found other later last =>
        found = state.database.account? id ∧
          Option.Rel (Account.Matches comparison.hashes) found other ∧
          comparison.Holds now later last := by
  refine hbeside.guarded ?_
  unfold Store.requireColumn
  split
  · rw [pure_bind]
    exact .get_bind (.pure ⟨rfl, hbeside.databases.account? id, hbeside⟩)
  · exact .bind_error (hbeside.breakDown _)

theorem markVerified (id : Int) :
    InStep (comparison.Holds now) (Store.markVerified id) state twin := by
  refine hbeside.guarded ((hbeside.requireColumn id).bind ?_)
  intro _ later last hbeside
  refine .get_bind (.set_bind (.pure ⟨(hbeside.databases.hasAccount_eq id).symm, ?_⟩))
  rw [hbeside.clock, hbeside.twinClock]
  exact (hbeside.withDatabases (hbeside.databases.markVerified id now)).atMoment

theorem setActive (id : Int) (active : Bool) :
    InStep (comparison.Holds now) (Store.setActive id active) state twin := by
  refine hbeside.guarded ((hbeside.requireColumn id).bind ?_)
  intro _ later last hbeside
  refine .get_bind (.set_bind (.pure ⟨(hbeside.databases.hasAccount_eq id).symm, ?_⟩))
  rw [hbeside.clock, hbeside.twinClock]
  exact (hbeside.withDatabases (hbeside.databases.setActive id active now)).atMoment

theorem stampLogin (id : Int) :
    InStep (comparison.Holds now) (Store.stampLogin id none) state twin := by
  refine hbeside.guarded (hbeside.clock_bind ?_)
  refine (hbeside.requireColumn id).bind ?_
  intro _ later last hbeside
  refine InStep.bind (.of_exec rfl rfl ?_) ?_
  · exact hbeside.withDatabases (hbeside.databases.stampLogin id now)
  · intro _ later last hbeside
    exact .pure ⟨rfl, hbeside⟩

/-- The new account is there afterwards. -/
theorem createAccount
    {username email name hash otherHash : String} (hrelated : comparison.hashes hash otherHash) :
    let new (hash : String) : NewAccount :=
      { username := some username
        email := some email
        passwordHash := some hash
        name := some name
        emailVerified := false
        isActive := true }
    Agree (comparison.Holds now) (Store.createAccount (new hash))
      (Store.createAccount (new otherHash)) state twin fun id other later last =>
        id = other ∧ comparison.Holds now later last ∧ later.database.hasAccount id = true := by
  intro new
  have hfull : Store.isFull twin.database = Store.isFull state.database := by
    rw [Store.isFull, hbeside.databases.nextId_eq, ← Store.isFull]
  refine hbeside.guarded (.get_bind ?_)
  rw [hfull, hbeside.clock, hbeside.twinClock]
  split
  · exact hbeside.breakDown _
  · rcases hbeside.databases.addAccount? username email name hrelated now with
      ⟨hnone, hotherNone⟩ | ⟨id, added, otherAdded, hadd, hotherAdd, hmatch⟩
    · simp only [new, hnone, hotherNone]
      exact (hbeside.note _ _ _).bind fun _ _ _ hbeside => hbeside.refuse _
    · simp only [new, hadd, hotherAdd]
      have hhas := Database.hasAccount_of_addAccount? hadd
      refine .set_bind (.advance rfl rfl (.pure ⟨rfl, ?_, hhas⟩))
      exact (hbeside.withDatabases hmatch).atMoment.noted ⟨.info, .store, _⟩ nofun

theorem createRecord (userId : Int) (token : String) (expires : Moment) :
    InStep (comparison.Holds now) (Store.createRecord userId token expires) state twin := by
  refine hbeside.guarded ((hbeside.requireColumn userId).bind ?_)
  intro _ later last hbeside
  refine .get_bind ?_
  rw [hbeside.clock, hbeside.twinClock]
  rcases hbeside.databases.addRecord? userId token expires now with
    ⟨hnone, hotherNone⟩ | ⟨id, added, otherAdded, hadd, hotherAdd, hmatch⟩
  · rw [hnone, hotherNone]
    exact (hbeside.note _ _ _).bind fun _ _ _ hbeside => hbeside.refuse _
  · rw [hadd, hotherAdd]
    refine .set_bind (InStep.bind (note (hbeside.withDatabases hmatch).atMoment .info .store _) ?_)
    intro _ later last hbeside
    exact .pure ⟨rfl, hbeside⟩

theorem liveRecord (token : String) :
    InStep (comparison.Holds now) (Store.liveRecord token) state twin := by
  refine hbeside.guarded (.get_bind (.pure ⟨?_, hbeside⟩))
  rw [hbeside.clock, hbeside.twinClock, hbeside.databases.liveRecord?_eq]

theorem findRecord (token : String) :
    InStep (comparison.Holds now) (Store.findRecord token) state twin :=
  hbeside.guarded (.get_bind (.pure ⟨(hbeside.databases.record?_eq token).symm, hbeside⟩))

theorem listRecords (userId : Int) :
    InStep (comparison.Holds now) (Store.listRecords userId) state twin :=
  hbeside.guarded ((hbeside.requireColumn userId).bind fun _ _ _ hbeside =>
    .get_bind (.pure ⟨(hbeside.databases.recordsOf_eq userId).symm, hbeside⟩))

theorem revokeRecord (token : String) :
    InStep (comparison.Holds now) (Store.revokeRecord token) state twin := by
  refine hbeside.guarded (.get_bind ?_)
  dsimp only
  rw [hbeside.databases.countOpen_eq, hbeside.clock, hbeside.twinClock]
  split
  · exact (hbeside.note _ _ _).bind fun _ _ _ hbeside => .pure ⟨rfl, hbeside⟩
  · have hstored := hbeside.withDatabases (hbeside.databases.revokeWhere (·.token == token) now)
    refine .set_bind (InStep.bind (note hstored.atMoment .info .store _) ?_)
    intro _ later last hbeside
    exact .pure ⟨rfl, hbeside⟩

theorem revokeAllRecords (userId : Int) :
    InStep (comparison.Holds now) (Store.revokeAllRecords userId) state twin := by
  refine hbeside.guarded ((hbeside.requireColumn userId).bind ?_)
  intro _ later last hbeside
  refine .get_bind ?_
  dsimp only
  rw [hbeside.databases.countOpen_eq, hbeside.clock, hbeside.twinClock]
  have hstored := hbeside.withDatabases (hbeside.databases.revokeWhere (·.userId == userId) now)
  refine .set_bind (InStep.bind (note hstored.atMoment .info .store _) ?_)
  intro _ later last hbeside
  exact .pure ⟨rfl, hbeside⟩

theorem sweepRecords : InStep (comparison.Holds now) Store.sweepRecords state twin := by
  refine hbeside.guarded (.get_bind ?_)
  dsimp only
  rw [hbeside.clock, hbeside.twinClock, hbeside.databases.countSpent_eq]
  have hstored := hbeside.withDatabases (hbeside.databases.sweep now)
  refine .set_bind (InStep.bind (note hstored.atMoment .info .store _) ?_)
  intro _ later last hbeside
  exact .pure ⟨rfl, hbeside⟩

end Beside

end AccountSessions
