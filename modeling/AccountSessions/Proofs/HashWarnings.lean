import AccountSessions.Proofs.ComparedCalls
import AccountSessions.Proofs.Exchanges
import AccountSessions.Proofs.ReachedStates
import AccountSessions.Proofs.SmallDeployment
import AccountSessions.Proofs.StoredHashes

/-!
# Complaints about stored hashes

A check of a password complains when it can make nothing of the stored text.  The same
verdict falls on a text that is no hash and on a password that is too long for one, so the
log complains about hashes that nothing is wrong with: every hash that was ever made is
reported whenever a login presents a longer password against it.
-/

namespace AccountSessions

/-! ## Texts that hashing makes -/

namespace Password

/-- The text was made by hashing, at some cost, with some salt and of some password. -/
def Hashed (stored : String) : Prop :=
  ∃ rounds salt password, Bcrypt.IsSalt salt.toList ∧ hash rounds salt password = .ok stored

theorem hashed_of_make
    {rounds : Int} {salt : String} (hsalt : Bcrypt.IsSalt salt.toList) {hasher : Hasher}
    (hmake : Hasher.make rounds salt = .ok hasher) : Hashed hasher.dummyHash := by
  unfold Hasher.make at hmake
  cases hhash : hash rounds salt Hasher.dummyPassword with
  | error cause =>
      rw [hhash] at hmake
      cases hmake
  | ok stored =>
      rw [hhash] at hmake
      injection hmake with hmake
      rw [← hmake]
      exact ⟨rounds, salt, _, hsalt, hhash⟩

theorem Bcrypt.matches?_eq_none_iff {password stored : List UInt8} :
    Bcrypt.matches? password stored = none ↔
      Bcrypt.passwordLimit < password.length ∨ Bcrypt.setting? stored = none := by
  unfold Bcrypt.matches?
  by_cases hlong : Bcrypt.passwordLimit < password.length
  · simp [hlong]
  · simp [hlong]

/-- There are two causes for which nothing can be made of a stored text. -/
theorem judge_eq_unusable_iff {password stored : String} :
    judge password stored = .unusable ↔ stored.isEmpty = false ∧
      (Bcrypt.passwordLimit < Text.Utf8.size password ∨ ∀ setting, ¬ Names stored setting) := by
  have hreads : (∀ setting, ¬ Names stored setting) ↔
      Bcrypt.setting? (Text.Utf8.encode stored.toList) = none :=
    Option.eq_none_iff_forall_ne_some.symm
  rw [hreads, Text.Utf8.size, ← Bcrypt.matches?_eq_none_iff]
  unfold judge
  cases stored.isEmpty with
  | true => simp
  | false =>
      cases Bcrypt.matches? (Text.Utf8.encode password.toList)
          (Text.Utf8.encode stored.toList) with
      | none => simp
      | some equal => simp

/-- With a text that hashing made, only the length of the password is left as a cause. -/
theorem Hashed.judge_eq_unusable_iff {stored : String} (hhashed : Hashed stored) {password : String} :
    judge password stored = .unusable ↔ Bcrypt.passwordLimit < Text.Utf8.size password := by
  obtain ⟨rounds, salt, other, hsalt, hhash⟩ := hhashed
  obtain ⟨-, -, -, hstored⟩ := hash_eq_ok hhash
  have hnames := names_of_eq_write (valid_of_hash hsalt hhash) hstored
  rw [Password.judge_eq_unusable_iff, isEmpty_of_eq_write hstored]
  simp only [true_and, or_iff_left_iff_imp]
  exact fun hnameless => absurd hnames (hnameless _)

end Password

/-! ## Databases whose hashes are intact -/

/-- All hashes of the database were made by hashing. -/
def Database.Intact (db : Database) : Prop :=
  ∀ account ∈ db.accounts, Password.Hashed account.passwordHash

theorem Database.Intact.changeAccount
    {db : Database} (hintact : db.Intact) {change : Account → Account}
    (hchange : KeepsIdentity change) (id : Int) :
    (db.changeAccount id change).Intact := by
  intro account hmem
  obtain ⟨old, hold, rfl⟩ := List.mem_map.mp hmem
  split
  · rw [hchange.passwordHash]
    exact hintact old hold
  · exact hintact old hold

theorem Effect.intact
    {service : Service} {ids : TokenIds} {now : Moment} {db later : Database} {call : Call}
    {outcome : Except Failure Answer} (heffect : Effect service ids now db call outcome later)
    (hother : ∀ username email password name, call ≠ .register username email password name)
    (hintact : db.Intact) :
    later.Intact := by
  cases heffect with
  | registered => exact absurd rfl (hother _ _ _ _)
  | verified => exact hintact.changeAccount (keepsIdentity_verify now) _
  | loggedIn _ _ _ _ _ hadd =>
      obtain ⟨-, rfl⟩ := Database.addRecord?_eq_some hadd
      exact hintact.changeAccount (keepsIdentity_stamp now) _
  | loggedOut _ _ => exact hintact
  | loggedOutAll => exact hintact
  | deactivated => exact hintact.changeAccount (keepsIdentity_activate false now) _
  | activated => exact hintact.changeAccount (keepsIdentity_activate true now) _
  | purged => exact hintact
  | read _ => exact hintact
  | refused _ => exact hintact

/-- A registration stores the hash that it has made, and no other call stores one. -/
theorem keeps_intact (service : Service) (call : Call) :
    Keeps (fun state => state.disturbances = [] ∧ state.database.Intact)
      (call.perform service) := by
  cases call with
  | register username email password name =>
      rintro state ⟨hundisturbed, hintact⟩
      have hends : Ends ((Call.register username email password name).perform service) state
          fun _ database => database.Intact := by
        apply (Service.ends_registration hundisturbed service username email password name).map
        rintro outcome database (⟨-, rfl⟩ | ⟨number, hash, id, account, hhash, -, hadd, -, -⟩)
        · exact hintact
        · obtain ⟨-, rfl⟩ := Database.addAccount?_eq_row hadd
          intro account hmem
          rcases List.mem_append.mp hmem with hold | hnew
          · exact hintact account hold
          · rw [List.mem_singleton.mp hnew]
            exact ⟨_, _, _, Password.isSalt_numbered number, hhash⟩
      obtain ⟨hlater, hfollows⟩ := hends.apply
      exact ⟨hfollows.disturbances.trans hundisturbed, hlater⟩
  | verifyEmail | login | refresh | validateToken | logout | logoutAll | deactivate | activate
  | listSessions | purge => exact keeps_of_effect fun heffect => heffect.intact nofun

/-- In every state that deeds lead to from an empty database the hashes are intact. -/
theorem Reached.intact
    {service : Service} {start state : State} (hreached : Reached service start state)
    (hundisturbed : start.disturbances = []) (hintact : start.database.Intact) :
    state.disturbances = [] ∧ state.database.Intact := by
  refine hreached.keeps (fun state => state.disturbances = [] ∧ state.database.Intact)
    (fun _ hinv => hinv.1) ?_ (fun call => keeps_intact service call)
    (fun user call _ => keeps_intact user call) ⟨hundisturbed, hintact⟩
  intro state moment later hinv hfollows
  rw [hfollows.database]
  exact ⟨hfollows.disturbances.trans hinv.1, hinv.2⟩

/-! ## What is written to the log -/

/-- The log complains of stored hashes this often. -/
def State.Complained (count : Nat) (state : State) : Prop :=
  state.log.count Service.corruptHash = count

namespace Service

open Operation

variable {count : Nat}

theorem complained_note
    {level : Log.Level} {source : Log.Source} (hother : source ≠ .passwords) (text : String) :
    Keeps (State.Complained count) (note level source text) := by
  intro state hcount
  have hline : (⟨level, source, text⟩ : Log.Line) ≠ corruptHash :=
    fun hsame => hother (congrArg Log.Line.source hsame)
  rw [exec_note, State.Complained, List.count_append, List.count_singleton,
    if_neg (by simpa using hline)]
  exact hcount

theorem complained_publish (service : Service) (name : EventName) (userId : Int)
    (description : EventNote) :
    Keeps (State.Complained count) (service.publish name userId description) := by
  unfold publish
  refine .bind (fun _ hcount => hcount) fun moment => ?_
  dsimp only
  cases service.publisher with
  | absent => exact .pure ()
  | recording => exact fun _ hcount => hcount
  | logging => exact complained_note (by decide) _
  | failing => exact .bind (fun _ hcount => hcount) fun _ => complained_note (by decide) _

theorem complained_issue (service : Service) (kind : Token.Kind) (account : Account) :
    Keeps (State.Complained count) (service.issue kind account.holder) := by
  intro state hcount
  rw [exec_issue]
  exact hcount

theorem complained_requireColumn (id : Int) :
    Keeps (State.Complained count) (Store.requireColumn id) := by
  unfold Store.requireColumn
  split
  · exact .pure ()
  · exact .throw _

theorem complained_createRecord (userId : Int) (token : String) (expiresAt : Moment) :
    Keeps (State.Complained count) (Store.createRecord userId token expiresAt) := by
  unfold Store.createRecord
  refine .guarded ((complained_requireColumn userId).bind fun _ => .get_bind ?_) _
  intro state hcount
  cases state.database.addRecord? userId token expiresAt state.now with
  | none => exact ((complained_note (by decide) _).bind fun _ => .throw _) state hcount
  | some row =>
      obtain ⟨id, database⟩ := row
      exact ((complained_note (by decide) _).bind fun _ => .pure id) { state with database } hcount

theorem complained_stampLogin (id : Int) (moment : Option Moment) :
    Keeps (State.Complained count) (Store.stampLogin id moment) := by
  unfold Store.stampLogin
  refine .guarded (.bind (fun _ hcount => hcount) fun now => ?_) _
  exact (complained_requireColumn id).bind fun _ => .bind (fun _ hcount => hcount) fun _ => .pure _

theorem complained_note_refuse
    {α : Type} {level : Log.Level} (text : String) (kind : Refusal.Kind) (rest : Unit → Operation α) :
    Keeps (State.Complained count) (note level .service text >>= fun _ => refuse kind >>= rest) :=
  .bind (complained_note (by decide) text) fun _ => .throw _

theorem complained_opening (service : Service) (account : Account) :
    Keeps (State.Complained count) (service.opening account) := by
  unfold opening
  refine (complained_issue service .access account).bind fun accessToken => ?_
  refine (complained_issue service .refresh account).bind fun refreshToken => ?_
  refine .bind (fun _ hcount => hcount) fun moment => ?_
  cases moment.add? service.issuer.refreshTtl with
  | none => exact .throw _
  | some expiresAt =>
      refine (complained_createRecord account.id refreshToken expiresAt).bind fun _ => ?_
      refine (complained_stampLogin account.id none).bind fun _ => ?_
      refine (complained_note (by decide) _).bind fun _ => ?_
      exact (complained_publish service .loggedIn account.id .nothing).bind fun _ => .pure _

theorem complained_checkPassword
    {α : Type} {state : State} (hcount : state.Complained count) {password stored : String}
    {complaints : Nat}
    (hcomplaints : complaints =
      if Password.judge password stored = .unusable then 1 else 0)
    {rest : Bool → Operation α}
    (hrest : ∀ accepted, Keeps (State.Complained (count + complaints)) (rest accepted)) :
    State.Complained (count + complaints)
      (exec (checkPassword password stored >>= rest) state).2 := by
  rw [exec_bind_ok (exec_checkPassword password stored state)]
  refine hrest _ _ ?_
  rw [State.Complained, List.count_append, hcount, hcomplaints]
  split
  · rfl
  · rfl

/-- A login complains once if it comes to a check that can make nothing of the stored text,
and otherwise not at all. -/
theorem complained_login
    {state : State} (hundisturbed : state.disturbances = []) (hcount : state.Complained count)
    (service : Service) (identifier password : String) :
    State.Complained
      (count + if service.verdict? state.database identifier password = some .unusable then 1
        else 0)
      (exec (service.login identifier password) state).2 := by
  unfold login
  obtain ⟨noted, hnote, hsame, hcalm, hnoted⟩ :
      ∃ noted, exec (note .info .service "Login attempt") state = (.ok (), noted) ∧
        noted.database = state.database ∧ noted.disturbances = [] ∧ noted.Complained count :=
    ⟨_, rfl, rfl, hundisturbed, complained_note (by decide) _ state hcount⟩
  rw [exec_bind_ok hnote, exec_bind_ok (Store.exec_accountByIdentifier hcalm identifier), hsame]
  -- The check is the only step that may complain; all steps before and after it keep the count.
  generalize hcomplaints : (if service.verdict? state.database identifier password =
    some .unusable then 1 else 0) = complaints
  unfold verdict? at hcomplaints
  cases haccount : state.database.accountOf? identifier with
  | none =>
      rw [haccount] at hcomplaints
      refine complained_checkPassword hnoted (by simp [← hcomplaints]) fun _ => ?_
      exact (complained_note (by decide) _).bind fun _ => .throw _
  | some account =>
      rw [haccount] at hcomplaints
      dsimp only at hcomplaints ⊢
      by_cases hverified : account.emailVerified = true
      · rw [if_neg (by simp [hverified])]
        refine complained_checkPassword hnoted (by simp [← hcomplaints, hverified]) fun _ => ?_
        split
        · exact complained_note_refuse _ _ _
        · split
          · exact complained_note_refuse _ _ _
          · exact complained_opening service account
      · rw [if_pos (by simp [hverified])]
        obtain rfl : complaints = 0 := by simp [← hcomplaints, hverified]
        exact complained_note_refuse _ _ _ noted hnoted

/-- With intact hashes nothing can be made of the stored text just if the password is too
long and no unverified account stops the login before the check. -/
theorem verdict?_eq_unusable_iff
    {service : Service} (hdummy : Password.Hashed service.hasher.dummyHash) {db : Database}
    (hintact : db.Intact) {identifier password : String} :
    service.verdict? db identifier password = some .unusable ↔
      Password.Bcrypt.passwordLimit < Text.Utf8.size password ∧
        ∀ account, db.accountOf? identifier = some account → account.emailVerified = true := by
  unfold verdict?
  cases haccount : db.accountOf? identifier with
  | none => simp [hdummy.judge_eq_unusable_iff]
  | some account =>
      have hhashed := hintact account (Database.mem_of_accountOf? haccount)
      by_cases hverified : account.emailVerified = true
      · simp [hverified, hhashed.judge_eq_unusable_iff]
      · simp [hverified]

end Service

/-! ## Requests that log in -/

namespace Http

open Handling

/-- The request brings a sound form to the login. -/
def Request.Presents (request : Request) (form : Credentials) : Prop :=
  ∃ body, request.Submits .login body ∧ Credentials.read body = .sound form

variable {request : Request}

/-- Only a body that is submitted can be read as an object. -/
theorem Request.Asks.submits
    {route : Route} (hasks : request.Asks route) {body : Json} {state : State}
    (hread : (exec (readBody request) state).1 = .ok body) (hobject : body.isObject = true) :
    request.Submits route body := by
  unfold readBody at hread
  split at hread
  next =>
    injection hread with hnull
    rw [← hnull] at hobject
    cases hobject
  next hpresent =>
    simp only [Bool.or_eq_true, Bool.not_eq_true', not_or, Bool.not_eq_true, Bool.not_eq_false]
      at hpresent
    split at hread
    next content hcontent =>
      injection hread with hsame
      exact ⟨hasks, hpresent.1, hpresent.2, hsame ▸ hcontent⟩
    next => cases hread
    next => cases hread

/-- A request to log in leaves behind what the login with its form does, if it has one. -/
theorem Request.Asks.login_leaves
    (hasks : request.Asks .login) (service : Service) (site : Site) (state : State) :
    let later := ((respond service site request).run state).2
    (∀ form, request.Presents form →
      later = (exec (service.login form.identifier form.password) state).2) ∧
    ((∀ form, ¬ request.Presents form) → later = state) := by
  intro later
  obtain ⟨response, hrun, -⟩ := hasks.respond_sends service site state
  have hlater : later = (exec (Route.login.serve service request) state).2 := congrArg Prod.snd hrun
  rw [hlater]
  constructor
  · rintro form ⟨body, hsubmits, hread⟩
    rw [hsubmits.exec_serve (Route.handsOn_login service) hread]
  · intro hnone
    rw [Route.handsOn_login service request]
    obtain ⟨outcome, hbody⟩ := exec_readBody request
    rw [exec_bind, hbody]
    cases outcome with
    | error rejection => rfl
    | ok body =>
        dsimp only
        cases hread : Credentials.read body with
        | flawed problems => rfl
        | sound form =>
            have hobject := (Credentials.read_eq_sound.mp hread).1
            exact absurd ⟨body, hasks.submits (congrArg Prod.fst (hbody state)) hobject, hread⟩ (hnone form)

/-- The request presents a password beyond the limit, and no unverified account has the
identifier. -/
def Request.Overlong (request : Request) (db : Database) : Prop :=
  ∃ form, request.Presents form ∧
    Password.Bcrypt.passwordLimit < Text.Utf8.size form.password ∧
    ∀ account, db.accountOf? form.identifier = some account → account.emailVerified = true

end Http

/-- A hash that was made is reported as no hash by a check just if the password is too long
for one.  So a database whose hashes are intact, as it is in every state that deeds lead to,
is complained of by just the logins that present such a password. -/
theorem intact_hash_reported_iff
    {service : Service} (hdummy : Password.Hashed service.hasher.dummyHash) :
    (∀ stored, Password.Hashed stored → ∀ (password : String) (state : State),
      exec (Service.checkPassword password stored) state =
        (.ok (Password.verify password stored),
          { state with
            log := state.log ++
              if 72 < Text.Utf8.size password then [Service.corruptHash] else [] })) ∧
    (∀ start state, Reached service start state → start.disturbances = [] →
      start.database.Intact → state.disturbances = [] ∧ state.database.Intact) ∧
    ∀ state : State, state.disturbances = [] → state.database.Intact →
      ∀ (site : Http.Site) (request : Http.Request), request.Asks .login →
        let later := ((Http.respond service site request).run state).2
        (request.Overlong state.database →
          later.log.count Service.corruptHash = state.log.count Service.corruptHash + 1) ∧
        (¬ request.Overlong state.database →
          later.log.count Service.corruptHash = state.log.count Service.corruptHash) := by
  refine ⟨?_, ?_, ?_⟩
  · intro stored hhashed password state
    rw [Service.exec_checkPassword]
    simp only [hhashed.judge_eq_unusable_iff]
    rfl
  · exact fun start state hreached hundisturbed hintact => hreached.intact hundisturbed hintact
  · intro state hundisturbed hintact site request hasks later
    obtain ⟨hpresented, hsilent⟩ := hasks.login_leaves service site state
    have hlogin (form : Http.Credentials) (hform : request.Presents form) :
        later.Complained (state.log.count Service.corruptHash +
          if service.verdict? state.database form.identifier form.password = some .unusable
          then 1 else 0) := by
      rw [show later = _ from hpresented form hform]
      exact Service.complained_login hundisturbed rfl service form.identifier form.password
    constructor
    · rintro ⟨form, hform, hlong, hchecked⟩
      have hcomplained := hlogin form hform
      rwa [if_pos ((Service.verdict?_eq_unusable_iff hdummy hintact).mpr ⟨hlong, hchecked⟩)]
        at hcomplained
    · intro hproper
      by_cases hnone : ∀ form, ¬ request.Presents form
      · rw [show later = state from hsilent hnone]
      · push Not at hnone
        obtain ⟨form, hform⟩ := hnone
        have hcomplained := hlogin form hform
        rwa [if_neg] at hcomplained
        rw [Service.verdict?_eq_unusable_iff hdummy hintact]
        exact fun ⟨hlong, hchecked⟩ => hproper ⟨form, hform, hlong, hchecked⟩

/-- Nobody has registered, so a stranger's password of 73 bytes is checked against the hash
that the hasher has made for such cases, and that one is reported. -/
theorem intact_hash_reported_for_stranger :
    ∃ hasher, Password.Hasher.make 4 (Password.numberedSalt 0) = .ok hasher ∧
      let service : Service := { Service.lenient with hasher }
      let login := Http.Request.posting "/api/v1/auth/login"
        [("identifier", "ann"), ("password", String.ofList (List.replicate 73 'a'))]
      let start := State.start .epoch Token.unaryId
      let site : Http.Site := .ofOrigins []
      start.database.Intact ∧
        ((Http.respond service site login).run start).2.log.count Service.corruptHash = 1 := by
  obtain ⟨dummy, hdummy⟩ : ∃ dummy,
      Password.hash 4 (Password.numberedSalt 0) Password.Hasher.dummyPassword = .ok dummy :=
    Password.exists_hash (by decide) (by decide) (by decide) (Password.numberedSalt 0)
  have hmake : Password.Hasher.make 4 (Password.numberedSalt 0) = .ok ⟨4, dummy⟩ := by
    rw [Password.Hasher.make, hdummy]
    rfl
  refine ⟨⟨4, dummy⟩, hmake, ?_⟩
  intro service login start site
  have hintact : start.database.Intact := fun _ hmem => (List.not_mem_nil hmem).elim
  have hsubmits : login.Submits .login _ :=
    Http.Request.submits_posting rfl rfl (List.cons_ne_nil _ _) (by decide)
  have hidentifier : Http.TextRule.identifier.check "ann" = .ok "ann" :=
    Http.TextRule.check_eq_ok.mpr (by decide +kernel)
  have hpassword : Http.TextRule.password.check (String.ofList (List.replicate 73 'a')) = .ok _ :=
    Http.TextRule.check_eq_ok.mpr ⟨rfl, by decide +kernel, by decide +kernel, rfl⟩
  have hlong : 72 < Text.Utf8.size (String.ofList (List.replicate 73 'a')) := by decide +kernel
  have hnobody : start.database.accountOf? "ann" = none := rfl
  have hoverlong : login.Overlong start.database := by
    refine ⟨_, ⟨_, hsubmits, Http.Credentials.read_texts hidentifier hpassword⟩, hlong, ?_⟩
    intro account hfound
    exact nomatch hnobody.symm.trans hfound
  have hhashed : Password.Hashed service.hasher.dummyHash :=
    Password.hashed_of_make (Password.isSalt_numbered 0) hmake
  obtain ⟨-, -, hreports⟩ := intact_hash_reported_iff hhashed
  exact ⟨hintact, (hreports start rfl hintact site login hsubmits.toAsks).1 hoverlong⟩

end AccountSessions
