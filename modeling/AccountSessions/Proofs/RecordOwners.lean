import AccountSessions.Proofs.Commands
import AccountSessions.Proofs.ConsoleReports
import AccountSessions.Proofs.SessionHistory
import AccountSessions.Proofs.SmallDeployment
import AccountSessions.Proofs.TokenAcceptance

/-!
# The owners of records

A refresh asks neither whether the user is active nor whether the address was verified.
It need not ask: a record is only made for a user of whom both holds, an address stays
verified, and whoever is blocked loses all open records at once.  This holds after any
row of calls and of commands of the console.
-/

namespace AccountSessions

/-! ## Deeds -/

/-- A call of the service, or a command line, which is run with the service or with one
that is built from settings. -/
inductive Deed where
  | call (made : Call)
  | command (settings : Option Settings) (arguments : List String)

namespace Deed

/-- Where the command gets its service from. -/
def source (service : Service) : Option Settings → Operation Service
  | none => return service
  | some settings => settings.buildService

/-- The state that the deed leaves behind at the moment. -/
def after (service : Service) (state : State) (moment : Moment) : Deed → State
  | call made => (step service state moment made).2
  | command settings arguments =>
      (exec (Console.run (source service settings) arguments) { state with now := moment }).2

theorem rests_source (service : Service) (settings : Option Settings) (state : State) :
    Rests (source service settings) state fun _ database => database = state.database := by
  cases settings with
  | none => exact .last (.refl state) (.pure service state) rfl
  | some settings => exact rests_buildService settings state

theorem evolves
    {state : State} (hundisturbed : state.disturbances = []) (service : Service)
    (moment : Moment) (deed : Deed) :
    Evolves service state.tokenIds moment state.database
        (deed.after service state moment).database ∧
      (deed.after service state moment).disturbances = [] := by
  cases deed with
  | call made =>
      obtain ⟨heffect, hfollows⟩ := step_effect hundisturbed service moment made
      exact ⟨⟨made, _, heffect⟩, hfollows.disturbances.trans hundisturbed⟩
  | command settings arguments =>
      have hcalm : ({ state with now := moment } : State).disturbances = [] := hundisturbed
      obtain ⟨hevolves, hfollows⟩ :=
        (Console.ends_run hcalm service state.tokenIds (rests_source service settings _)
          arguments).apply
      exact ⟨hevolves, hfollows.disturbances.trans hcalm⟩

end Deed

/-- The states that deeds lead to, each at its own moment. -/
inductive Reached (service : Service) (start : State) : State → Prop where
  | start : Reached service start start
  | deed {state : State} (hreached : Reached service start state) (moment : Moment) (deed : Deed) :
      Reached service start (deed.after service state moment)

theorem Run.reached
    {service : Service} {start state : State} {history : List Entry}
    (hrun : Run service start history state) :
    Reached service start state := by
  induction hrun with
  | nil => exact .start
  | snoc _ moment call ih => exact .deed ih moment (.call call)

theorem Reached.undisturbed
    {service : Service} {start : State} (hstart : start.disturbances = []) {state : State}
    (hreached : Reached service start state) :
    state.disturbances = [] := by
  induction hreached with
  | start => exact hstart
  | deed _ moment deed ih => exact (deed.evolves ih service moment).2

/-- What holds of the empty database and is preserved by every effect holds after every
row of deeds. -/
theorem Reached.invariant
    {service : Service} {start : State} (hstart : start.disturbances = [])
    (inv : Database → Prop) (hempty : inv start.database)
    (hstep : ∀ ids now db later call outcome, inv db →
      Effect service ids now db call outcome later → inv later)
    {state : State} (hreached : Reached service start state) :
    inv state.database := by
  induction hreached with
  | start => exact hempty
  | deed hreached moment deed ih =>
      obtain ⟨⟨call, outcome, heffect⟩, -⟩ :=
        deed.evolves (hreached.undisturbed hstart) service moment
      exact hstep _ _ _ _ _ _ ih heffect

/-! ## Owners -/

/-- The record belongs to the account, whose address is verified, and is closed if the
account is blocked. -/
structure Owns (owner : Account) (record : SessionRecord) : Prop where
  id : owner.id = record.userId
  verified : owner.emailVerified = true
  blocked : owner.isActive = false → record.isOpen = false

structure Owned (db : Database) : Prop where
  distinct : (db.accounts.map (·.id)).Nodup
  owners : ∀ record ∈ db.records, ∃ owner ∈ db.accounts, Owns owner record

/-- Accounts keep their ids, and each record stands in for an earlier one with whose owner
it remains. -/
theorem Owned.of_map
    {db later : Database} (howned : Owned db) {change : Account → Account}
    (hid : ∀ account, (change account).id = account.id)
    (haccounts : later.accounts = db.accounts.map change)
    (hrecords : ∀ record ∈ later.records, ∃ old ∈ db.records,
      ∀ owner, Owns owner old → Owns (change owner) record) :
    Owned later where
  distinct := by
    have hids : later.accounts.map (·.id) = db.accounts.map (·.id) := by
      rw [haccounts, List.map_map]
      exact List.map_congr_left fun account _ => hid account
    rw [hids]
    exact howned.distinct
  owners := by
    intro record hmem
    obtain ⟨old, hold, howns⟩ := hrecords record hmem
    obtain ⟨owner, howner, hold⟩ := howned.owners old hold
    exact ⟨change owner, haccounts ▸ List.mem_map_of_mem howner, howns owner hold⟩

theorem Owned.changeAccount
    {db : Database} (howned : Owned db) (id : Int) {change : Account → Account}
    (hid : ∀ account, (change account).id = account.id)
    (howns : ∀ owner record, Owns owner record → Owns (change owner) record) :
    Owned (db.changeAccount id change) := by
  refine @Owned.of_map db _ howned
    (fun account => if account.id = id then change account else account) ?_ rfl ?_
  · intro account
    split
    · exact hid account
    · rfl
  · intro record hmem
    refine ⟨record, hmem, ?_⟩
    intro owner howner
    split
    · exact howns owner record howner
    · exact howner

theorem Owned.addAccount?
    {db added : Database} (howned : Owned db) {username email hash name : String} {now : Moment}
    {id : Int}
    (hadd : db.addAccount?
      { username := some username
        email := some email
        passwordHash := some hash
        name := some name
        emailVerified := false
        isActive := true } now = some (id, added)) :
    Owned added := by
  have hgreater (old : Account) (hold : old ∈ db.accounts) : old.id < id :=
    Database.lt_of_addAccount? hadd hold
  obtain ⟨account, rfl, hid, -⟩ := Database.addAccount?_eq_some hadd
  refine ⟨?_, ?_⟩
  · rw [List.map_append, List.map_singleton, List.nodup_append]
    refine ⟨howned.distinct, List.nodup_singleton _, ?_⟩
    intro taken htaken fresh hfresh hsame
    obtain ⟨old, hold, rfl⟩ := List.mem_map.mp htaken
    rw [List.mem_singleton.mp hfresh, hid] at hsame
    exact Int.lt_irrefl id (hsame ▸ hgreater old hold)
  · intro record hmem
    obtain ⟨owner, howner, howns⟩ := howned.owners record hmem
    exact ⟨owner, List.mem_append_left _ howner, howns⟩

theorem Owned.addRecord?
    {db added : Database} (howned : Owned db) {account : Account} (hmem : account ∈ db.accounts)
    (hverified : account.emailVerified = true) (hactive : account.isActive = true) {id : Int}
    {token : String} {expires now : Moment}
    (hadd : db.addRecord? account.id token expires now = some (id, added)) :
    Owned added := by
  obtain ⟨-, rfl⟩ := Database.addRecord?_eq_some hadd
  refine ⟨howned.distinct, ?_⟩
  intro record hrecord
  rcases List.mem_append.mp hrecord with hold | hnew
  · exact howned.owners record hold
  · rw [List.mem_singleton.mp hnew]
    refine ⟨account, hmem, rfl, hverified, ?_⟩
    intro hblocked
    rw [hactive] at hblocked
    cases hblocked

theorem Owns.of_revoked
    {owner : Account} {record old : SessionRecord} (howns : Owns owner old)
    (hsame : Database.SameLogin record old) (hopen : record.isOpen = true → record = old) :
    Owns owner record where
  id := howns.id.trans hsame.userId.symm
  verified := howns.verified
  blocked := by
    intro hblocked
    rw [Bool.eq_false_iff]
    intro hstill
    have hclosed := howns.blocked hblocked
    rw [← hopen hstill, hstill] at hclosed
    cases hclosed

theorem Owned.revokeWhere
    {db : Database} (howned : Owned db) (test : SessionRecord → Bool) (now : Moment) :
    Owned (db.revokeWhere test now) := by
  refine howned.of_map (fun _ => rfl) (List.map_id _).symm ?_
  intro record hmem
  obtain ⟨old, hold, hsame, hopen⟩ := Database.mem_revokeWhere hmem
  exact ⟨old, hold, fun owner howns => howns.of_revoked hsame fun h => (hopen h).1⟩

/-- Whoever is blocked has no open record left. -/
theorem Owned.block
    {db : Database} (howned : Owned db) (userId : Int) (now : Moment) :
    Owned ((db.setActive userId false now).revokeWhere (·.userId == userId) now) := by
  refine @Owned.of_map db _ howned _ ?_ rfl ?_
  · intro account
    split
    · rfl
    · rfl
  · intro record hmem
    obtain ⟨old, hold, hsame, hopen⟩ := Database.mem_revokeWhere hmem
    refine ⟨old, hold, ?_⟩
    intro owner howns
    have hrevoked := howns.of_revoked hsame fun h => (hopen h).1
    dsimp only
    split
    next huser =>
      refine ⟨hrevoked.id, hrevoked.verified, ?_⟩
      intro _
      rw [Bool.eq_false_iff]
      intro hstill
      have hother := (hopen hstill).2
      rw [← howns.id, huser] at hother
      simp at hother
    next => exact hrevoked

theorem Owned.sweep {db : Database} (howned : Owned db) (now : Moment) : Owned (db.sweep now) := by
  refine howned.of_map (fun _ => rfl) (List.map_id _).symm ?_
  intro record hmem
  exact ⟨record, List.mem_of_mem_filter hmem, fun owner howns => howns⟩

theorem Effect.owned
    {service : Service} {ids : TokenIds} {now : Moment} {db later : Database} {call : Call}
    {outcome : Except Failure Answer} (heffect : Effect service ids now db call outcome later)
    (howned : Owned db) :
    Owned later := by
  cases heffect with
  | registered hadd => exact howned.addAccount? hadd
  | verified =>
      refine howned.changeAccount _ (fun _ => rfl) ?_
      exact fun owner record howns => ⟨howns.id, rfl, howns.blocked⟩
  | loggedIn hfound _ _ _ _ hadd hverified hactive =>
      have hadded := howned.addRecord? (Database.mem_of_accountOf? hfound) hverified hactive hadd
      refine hadded.changeAccount _ (fun _ => rfl) ?_
      exact fun owner record howns => ⟨howns.id, howns.verified, howns.blocked⟩
  | loggedOut => exact howned.revokeWhere _ now
  | loggedOutAll => exact howned.revokeWhere _ now
  | deactivated => exact howned.block _ now
  | activated =>
      refine howned.changeAccount _ (fun _ => rfl) ?_
      exact fun owner record howns => ⟨howns.id, howns.verified, fun h => nomatch h⟩
  | purged => exact howned.sweep now
  | read _ => exact howned
  | refused _ => exact howned

theorem Reached.owned
    {service : Service} {begin : Moment} {ids : Nat → String} {state : State}
    (hreached : Reached service (State.start begin ids) state) :
    Owned state.database := by
  have hempty : Owned .empty := by
    refine ⟨List.nodup_nil, ?_⟩
    intro record hmem
    cases hmem
  exact hreached.invariant rfl Owned hempty
    fun _ _ _ _ _ _ howned heffect => heffect.owned howned

theorem Reached.backed
    {service : Service} {begin : Moment} {ids : Nat → String} {state : State}
    (hreached : Reached service (State.start begin ids) state) :
    Backed service state.database := by
  have hempty : Backed service .empty := by
    intro record hmem
    cases hmem
  exact hreached.invariant rfl (Backed service) hempty
    fun _ _ _ _ _ _ hbacked heffect => heffect.backed hbacked

theorem Owned.account?_eq
    {db : Database} (howned : Owned db) {owner : Account} (hmem : owner ∈ db.accounts) :
    db.account? owner.id = some owner := by
  have hhas : db.hasAccount owner.id = true := Database.hasAccount_eq_true.mpr ⟨owner, hmem, rfl⟩
  obtain ⟨found, hfound, hid⟩ := Database.exists_account? hhas
  have hsame : found = owner :=
    List.inj_on_of_nodup_map howned.distinct (Database.hasAccount_of_account? hfound).1 hmem hid
  rw [hfound, hsame]

/-! ## Tokens of records -/

/-- The payload that the token of the record spells says what the record says. -/
structure SessionRecord.Says (issuer : Token.Issuer) (record : SessionRecord) (payload : Json) :
    Prop where
  spelled : ∃ segments : Token.Segments,
    record.token.toList = segments.text ∧ Token.Spells segments.body payload
  verified : Token.isPlainSecret issuer.secret = true →
    issuer.verifiedPayload record.token = .ok payload
  kind : payload.member? "typ" = some (.text "refresh")
  subject : payload.member? "sub" = some (.text (toString record.userId))
  expires : record.expiresAt.InEra →
    payload.member? "exp" = some (.int record.expiresAt.second)

theorem Token.Grant.Backs.says
    {grant : Token.Grant} {issuer : Token.Issuer} {record : SessionRecord}
    (hbacks : grant.Backs issuer record) :
    record.Says issuer grant.payload where
  spelled := Token.Grant.holds_of_sign hbacks.signed
  verified := fun hplain =>
    Token.verifiedPayload_sign hplain grant.legible_payload rfl hbacks.signed
  kind := by
    rw [← show grant.kind.name = "refresh" by rw [hbacks.kind]; rfl]
    rfl
  subject := by
    rw [← hbacks.userId]
    rfl
  expires := by
    intro hera
    rw [← hbacks.expires] at hera ⊢
    rw [← Token.epochSeconds_eq_second hera]
    rfl

/-! ## Refreshes -/

/-- A refresh mints its access token for the owner of an open record. -/
theorem Service.refresh_owner
    {state : State} (hundisturbed : state.disturbances = []) {service : Service}
    (howned : Owned state.database) (hbacked : Backed service state.database) {token : String}
    {session : Session} (hrefresh : (exec (service.refresh token) state).1 = .ok session) :
    ∃ account ∈ state.database.accounts, account.emailVerified = true ∧ account.isActive = true ∧
      ∃ tokenId, service.issuer.issue .access state.now tokenId account.id (some account.email) =
        .ok session.accessToken := by
  obtain ⟨⟨-, hrenewed⟩, -⟩ := (ends_renewal hundisturbed service token).apply
  obtain ⟨account, claims, tokenId, accessToken, hvalid, haccount, hlive, hissue, rfl⟩ :=
    hrenewed session hrefresh
  obtain ⟨record, hmem, rfl, hopen, -⟩ := Database.liveRecord?_isSome.mp hlive
  obtain ⟨owner, howner, howns⟩ := howned.owners record hmem
  have hsame : account = owner := by
    have hid := howned.account?_eq howner
    rw [howns.id, ← hbacked.owner hmem hvalid, haccount] at hid
    injection hid
  rw [hsame] at hissue
  refine ⟨owner, howner, howns.verified, ?_, tokenId, hissue⟩
  rw [← Bool.not_eq_false]
  intro hblocked
  rw [howns.blocked hblocked] at hopen
  cases hopen

/-! ## The whole -/

/-- After any row of calls and commands the owner of each record exists, has a verified
address and has no open record while blocked, and the token of the record says what the
record says.  So only active users with verified addresses get tokens from a refresh. -/
theorem records_owned
    {service : Service} {begin : Moment} {ids : Nat → String} {state : State}
    (hreached : Reached service (State.start begin ids) state) :
    (∀ record ∈ state.database.records,
      (∃ owner, state.database.account? record.userId = some owner ∧
        owner.emailVerified = true ∧
        (owner.isActive = false → record.revokedAt.isSome = true)) ∧
      ∃ payload, record.Says service.issuer payload) ∧
    ∀ (moment : Moment) (token : String) (session : Session),
      (exec (service.refresh token) { state with now := moment }).1 = .ok session →
      ∃ account ∈ state.database.accounts,
        account.emailVerified = true ∧ account.isActive = true ∧
        ∃ tokenId, service.issuer.issue .access moment tokenId account.id (some account.email) =
          .ok session.accessToken := by
  have howned := hreached.owned
  have hbacked := hreached.backed
  constructor
  · intro record hmem
    obtain ⟨owner, howner, howns⟩ := howned.owners record hmem
    obtain ⟨grant, hgrant⟩ := hbacked record hmem
    refine ⟨⟨owner, ?_, howns.verified, ?_⟩, grant.payload, hgrant.says⟩
    · rw [← howns.id]
      exact howned.account?_eq howner
    · intro hblocked
      have hclosed := howns.blocked hblocked
      rw [SessionRecord.isOpen, Option.isNone_eq_false_iff] at hclosed
      exact hclosed
  · intro moment token session hrefresh
    have hcalm : ({ state with now := moment } : State).disturbances = [] :=
      hreached.undisturbed rfl
    exact Service.refresh_owner hcalm howned hbacked hrefresh

/-- Ann and bob have logged in, and ann is blocked from the console.  Her record is closed
then, and his is as it was. -/
theorem records_owned_after_blocking :
    ∃ (history : List Entry) (state : State) (ann bob : Session),
      Run .lenient (.start .epoch Token.unaryId) history state ∧
      state.database.records.map (·.token) = [ann.refreshToken, bob.refreshToken] ∧
      let blocked := (Deed.command none ["deactivate-user", "ann"]).after .lenient state .epoch
      blocked.database.accounts.map (fun account => (account.id, account.isActive)) =
        [(1, false), (2, true)] ∧
      blocked.database.records.map (fun record => (record.userId, record.revokedAt)) =
        [(1, some .epoch), (2, none)] ∧
      ∀ record ∈ blocked.database.records, ∀ owner,
        blocked.database.account? record.userId = some owner →
        owner.emailVerified = true ∧ (owner.isActive = false → record.revokedAt.isSome = true) := by
  obtain ⟨history, state, ann, bob, hentered⟩ := exists_entered
  obtain ⟨hash, other, -, -, hrows⟩ := hentered.rows
  have hcalm := hentered.deployed.twins.undisturbed
  let clocked : State := { state with now := .epoch }
  have hmade : Console.call? clocked.database ["deactivate-user", "ann"] = some (.deactivate 1) := by
    rw [show clocked.database = _ from hrows]
    rfl
  let blocked := (Deed.command none ["deactivate-user", "ann"]).after .lenient state .epoch
  have hblocked : blocked = (step .lenient state .epoch (.deactivate 1)).2 := by
    obtain ⟨render, hrender⟩ := Console.exists_renders_run hmade
    exact congrArg Prod.snd (hrender .lenient clocked hcalm rfl)
  have hreached : Reached .lenient (.start .epoch Token.unaryId) blocked :=
    hentered.run.reached.deed .epoch (.command none _)
  have hhas : state.database.hasAccount 1 = true := by
    rw [hrows]
    rfl
  have hdatabase : blocked.database =
      ⟨[⟨1, "ann", "ann@b.org", hash, "Ann", true, false, some .epoch, .epoch, .epoch⟩,
        ⟨2, "bob", "bob@b.org", other, "Bob", true, true, some .epoch, .epoch, .epoch⟩],
      [⟨1, 1, ann.refreshToken, { micros := 604800000000 }, .epoch, some .epoch⟩,
        ⟨2, 2, bob.refreshToken, { micros := 604800000000 }, .epoch, none⟩]⟩ := by
    rw [hblocked, (step_deactivate .lenient hcalm .epoch (by decide) hhas).2, hrows]
    rfl
  refine ⟨history, state, ann, bob, hentered.run, ?_, ?_, ?_, ?_⟩
  · rw [hrows]
    rfl
  · exact congrArg (fun db : Database => db.accounts.map fun account =>
      (account.id, account.isActive)) hdatabase
  · exact congrArg (fun db : Database => db.records.map fun record =>
      (record.userId, record.revokedAt)) hdatabase
  · intro record hmem owner hfound
    obtain ⟨⟨found, hsame, hverified, hrevoked⟩, -⟩ := (records_owned hreached).1 record hmem
    obtain rfl := Option.some.inj (hfound.symm.trans hsame)
    exact ⟨hverified, hrevoked⟩

end AccountSessions
