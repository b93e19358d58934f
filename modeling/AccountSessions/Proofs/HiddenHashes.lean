import AccountSessions.Proofs.ComparedCalls
import AccountSessions.Proofs.SmallDeployment

/-!
# Hidden hashes

Passwords and their hashes show in nothing that the service does, but for the verdicts on
them: whether the policy takes a password, whether it can be hashed, and what a login
finds when it checks one.  Two runs in which these are the same cannot be told apart by
outcomes, events or log lines, and their databases differ in hashes only.
-/

namespace AccountSessions

/-! ## Answers without hashes -/

/-- The account that the answer hands out, if any, has no hash. -/
def Answer.IsHashless : Answer → Prop
  | account owner => owner.passwordHash = ""
  | session opened => opened.account.passwordHash = ""
  | _ => True

/-- Whenever the operation succeeds, its value satisfies the condition. -/
def Gives {ε α : Type} (post : α → Prop) (action : ExceptT ε (StateM State) α) : Prop :=
  ∀ state value later, exec action state = (.ok value, later) → post value

namespace Gives

variable {ε α β : Type} {post : α → Prop}

theorem pure {value : α} (hpost : post value) :
    Gives post (Pure.pure value : ExceptT ε (StateM State) α) := by
  rintro state _ later ⟨⟩
  exact hpost

theorem throw (fault : ε) :
    Gives post (MonadExcept.throw fault : ExceptT ε (StateM State) α) := by
  rintro state value later ⟨⟩

theorem bind
    {first : ExceptT ε (StateM State) β} {next : β → ExceptT ε (StateM State) α}
    (hnext : ∀ value, Gives post (next value)) :
    Gives post (first >>= next) := by
  intro state value later hexec
  rw [exec_bind] at hexec
  rcases hfirst : exec first state with ⟨outcome, middle⟩
  rw [hfirst] at hexec
  cases outcome with
  | ok found => exact hnext found middle value later hexec
  | error fault => cases hexec

theorem throw_bind (fault : ε) (next : β → ExceptT ε (StateM State) α) :
    Gives post (MonadExcept.throw fault >>= next) := by
  rintro state value later ⟨⟩

theorem map
    {action : ExceptT ε (StateM State) β} {change : β → α}
    (haction : Gives (fun value => post (change value)) action) :
    Gives post (change <$> action) := by
  intro state value later hexec
  rcases hfirst : exec action state with ⟨outcome, middle⟩
  rw [exec_map, hfirst] at hexec
  cases outcome with
  | ok found =>
      obtain ⟨hvalue, -⟩ := Prod.mk.inj hexec
      rw [← Except.ok.inj hvalue]
      exact haction state found middle hfirst
  | error fault => cases hexec

theorem trivial (action : ExceptT ε (StateM State) α) (hpost : ∀ value, post value) :
    Gives post action :=
  fun _ value _ _ => hpost value

end Gives

open Operation

namespace Service

theorem gives_present (account : Option Account) :
    Gives (fun account : Account => account.passwordHash = "")
      (present account >>= fun account => pure account.withoutHash) :=
  .bind fun _ => .pure rfl

theorem gives_register (service : Service) (username email password name : String) :
    Gives (fun account : Account => account.passwordHash = "")
      (service.register username email password name) := by
  unfold register
  refine .bind fun _ => ?_
  cases service.policy.check password with
  | some violation => exact .bind fun _ => .throw_bind _ _
  | none =>
      refine .bind fun taken => ?_
      cases taken with
      | true => exact .bind fun _ => .throw_bind _ _
      | false =>
          exact .bind fun salt => .bind fun hash => .bind fun id => .bind fun created =>
            .bind fun _ => .bind fun _ => gives_present created

theorem gives_verifyEmail (userId : Int) :
    Gives (fun account : Account => account.passwordHash = "") (verifyEmail userId) := by
  unfold verifyEmail
  refine .bind fun marked => ?_
  cases marked with
  | false => exact .throw_bind _ _
  | true => exact .bind fun _ => .bind gives_present

theorem gives_login (service : Service) (identifier password : String) :
    Gives (fun session : Session => session.account.passwordHash = "")
      (service.login identifier password) := by
  unfold login
  refine .bind fun _ => .bind fun found => ?_
  cases found with
  | none => exact .bind fun _ => .bind fun _ => .throw _
  | some account =>
      dsimp only
      cases account.emailVerified with
      | false => exact .bind fun _ => .throw_bind _ _
      | true =>
          refine .bind fun accepted => ?_
          cases accepted with
          | false => exact .bind fun _ => .throw_bind _ _
          | true =>
              cases account.isActive with
              | false => exact .bind fun _ => .throw_bind _ _
              | true =>
                  refine .bind fun accessToken => .bind fun refreshToken => .bind fun now => ?_
                  cases now.add? service.issuer.refreshTtl with
                  | none => exact .throw _
                  | some expires =>
                      exact .bind fun _ => .bind fun moment => .bind fun _ => .bind fun _ =>
                        .pure rfl

theorem gives_refresh (service : Service) (token : String) :
    Gives (fun session : Session => session.account.passwordHash = "") (service.refresh token) := by
  unfold refresh
  refine .bind fun claims => .bind fun found => ?_
  cases found with
  | none => exact .bind fun _ => .throw _
  | some account =>
      refine .bind fun live => ?_
      cases live.isNone with
      | true => exact .bind fun _ => .throw_bind _ _
      | false => exact .bind fun accessToken => .bind fun _ => .pure rfl

end Service

theorem Call.gives_perform (service : Service) (call : Call) :
    Gives Answer.IsHashless (call.perform service) := by
  cases call with
  | register username email password name =>
      exact .map (service.gives_register username email password name)
  | verifyEmail userId => exact .map (Service.gives_verifyEmail userId)
  | login identifier password => exact .map (service.gives_login identifier password)
  | refresh token => exact .map (service.gives_refresh token)
  | validateToken | logout | logoutAll | deactivate | activate | listSessions | purge =>
      exact .map (.trivial _ fun _ => ⟨⟩)

/-! ## Databases without hashes -/

/-- The database with all hashes blotted out. -/
def Database.masked (db : Database) : Database :=
  { db with accounts := db.accounts.map Account.withoutHash }

theorem Account.matches_iff (account other : Account) :
    account.Matches (fun _ _ => True) other ↔ account.withoutHash = other.withoutHash := by
  constructor
  · rintro ⟨hash, -, rfl⟩
    rfl
  · intro hsame
    have hrestored := congrArg
      (fun row : Account => { row with passwordHash := other.passwordHash })
      hsame
    exact ⟨other.passwordHash, ⟨⟩, hrestored.symm⟩

theorem Database.matches_iff (db other : Database) :
    db.Matches (fun _ _ => True) other ↔ db.masked = other.masked := by
  have hrow : Account.Matches (fun _ _ => True) =
      fun account other : Account => account.withoutHash = other.withoutHash := by
    funext account other
    exact propext (account.matches_iff other)
  have hrows : List.Forall₂ (Account.Matches fun _ _ => True) db.accounts other.accounts ↔
      db.accounts.map Account.withoutHash = other.accounts.map Account.withoutHash := by
    rw [← List.forall₂_eq_eq_eq, List.forall₂_map_left_iff, List.forall₂_map_right_iff, hrow]
  constructor
  · intro hmatch
    rw [masked, masked, hrows.mp hmatch.accounts, hmatch.records]
  · intro hmasked
    have hrecords : db.records = other.records := congrArg (fun db => db.records) hmasked
    exact ⟨hrows.mpr (congrArg (fun db => db.accounts) hmasked), hrecords.symm⟩

/-! ## One call -/

/-- The service with another hash to check passwords against when there is no account. -/
def Service.withDummyHash (service : Service) (hash : String) : Service :=
  { service with hasher := { service.hasher with dummyHash := hash } }

/-- Salts, hashes and passwords may differ in everything but the verdicts on them. -/
def Comparison.ofHashes (service : Service) (dummy : String) :
    Comparison service (service.withDummyHash dummy) where
  hashes _ _ := True
  aside before after := after.log = before.log ∧ after.published = before.published
  told _ before after := after.log = before.log ∧ after.published = before.published
  issuer := rfl
  policy := rfl
  noted line _ hbefore := ⟨congrArg (· ++ [line]) hbefore.1, hbefore.2⟩
  salted hbefore := hbefore
  tell {before after} event hbefore := by
    obtain ⟨hlog, hpublished⟩ := hbefore
    unfold Publisher.tell Service.withDummyHash
    cases service.publisher with
    | absent | recording | logging | failing =>
        simp [Aside.noted, Aside.kept, hlog, hpublished]

/-- Undisturbed states that differ at most in hashes and in how many salts were drawn. -/
structure Veiled (state twin : State) : Prop where
  undisturbed : state.disturbances = []
  masked : state.database.masked = twin.database.masked
  rest : twin = { state with database := twin.database, saltsDrawn := twin.saltsDrawn }

/-- The calls are the same but for their passwords, of which the service makes the same. -/
inductive Service.ThinksAlike (service : Service) (dummy : String) (state twin : State) :
    Call → Call → Prop where
  | register {username email name password other : String}
      (hpolicy : service.policy.check other = service.policy.check password)
      (hhashed : service.policy.check password = none →
        state.database.isTaken username email = false →
        ((service.withDummyHash dummy).hashed twin other).isOk =
          (service.hashed state password).isOk) :
      ThinksAlike service dummy state twin (.register username email password name)
        (.register username email other name)
  | login {identifier password other : String}
      (hverdicts : Option.Rel Password.Verdict.Resembles
        (service.verdict? state.database identifier password)
        ((service.withDummyHash dummy).verdict? twin.database identifier other)) :
      ThinksAlike service dummy state twin (.login identifier password) (.login identifier other)
  | same {call : Call} (hplain : ¬ call.TakesPassword) :
      ThinksAlike service dummy state twin call call

/-- Whether a password can be hashed is all that a failed hashing tells of it. -/
theorem Password.hashesAlike_of_isOk
    {rounds : Int} {salt password otherSalt other : String}
    (hsame : (hash rounds otherSalt other).isOk = (hash rounds salt password).isOk) :
    HashesAlike (fun _ _ => True) (hash rounds salt password) (hash rounds otherSalt other) := by
  by_cases hrounds : rounds < Bcrypt.minCost ∨ (Bcrypt.maxCost : Int) < rounds
  · rw [hash, hash, if_pos hrounds, if_pos hrounds]
    exact .error _
  · rw [hash, hash, if_neg hrounds, if_neg hrounds] at hsame ⊢
    dsimp only at hsame ⊢
    by_cases hlong : Bcrypt.passwordLimit < (Text.Utf8.encode password.toList).length <;>
      by_cases hother : Bcrypt.passwordLimit < (Text.Utf8.encode other.toList).length
    · rw [if_pos hlong, if_pos hother]
      exact .error _
    · rw [if_pos hlong, if_neg hother] at hsame
      cases hsame
    · rw [if_neg hlong, if_pos hother] at hsame
      cases hsame
    · rw [if_neg hlong, if_neg hother]
      exact .ok trivial

namespace Veiled

variable {state twin : State}

theorem beside
    (hveiled : Veiled state twin) (service : Service) (dummy : String) (moment : Moment) :
    (Comparison.ofHashes service dummy).Holds moment { state with now := moment }
      { twin with now := moment } where
  undisturbed := hveiled.undisturbed
  twinUndisturbed := by rw [hveiled.rest]; exact hveiled.undisturbed
  clock := rfl
  twinClock := rfl
  tokenIds := by rw [hveiled.rest]
  databases := (Database.matches_iff ..).mpr hveiled.masked
  aside := by rw [hveiled.rest]; exact ⟨rfl, rfl⟩

theorem of_after
    {service : Service} {dummy : String} {now : Moment} {event? : Option Event}
    (hafter : (Comparison.ofHashes service dummy).After now event? state twin) :
    Veiled state twin := by
  have hbeside : (Comparison.ofHashes service dummy).Holds now state twin := by
    cases event? with
    | none => exact hafter
    | some event => exact hafter
  obtain ⟨hundisturbed, htwin, hclock, htwinClock, htokenIds, hdatabases, hlog, hpublished⟩ :=
    hbeside
  refine ⟨hundisturbed, (Database.matches_iff ..).mp hdatabases, ?_⟩
  obtain ⟨now, ids, salts, database, published, log, disturbances⟩ := state
  obtain ⟨twinNow, twinIds, twinSalts, twinDatabase, twinPublished, twinLog, twinDisturbances⟩ :=
    twin
  simp_all [State.aside]

/-- The service answers alike and leaves no trace of the difference. -/
theorem step
    (hveiled : Veiled state twin) {service : Service} {dummy : String} {moment : Moment}
    {call other : Call}
    (halike : service.ThinksAlike dummy { state with now := moment } { twin with now := moment }
      call other) :
    (AccountSessions.step (service.withDummyHash dummy) twin moment other).1 =
        (AccountSessions.step service state moment call).1 ∧
      Veiled (AccountSessions.step service state moment call).2
        (AccountSessions.step (service.withDummyHash dummy) twin moment other).2 := by
  have hpairs : (Comparison.ofHashes service dummy).Pairs { state with now := moment }
      { twin with now := moment } call other := by
    cases halike with
    | register hpolicy hhashed =>
        exact .register hpolicy fun hcheck hfree =>
          Password.hashesAlike_of_isOk (hhashed hcheck hfree)
    | login hverdicts => exact .login hverdicts
    | same hplain => exact .same hplain
  obtain ⟨houtcome, hafter⟩ := Comparison.perform_eq (hveiled.beside service dummy moment) hpairs
  exact ⟨houtcome, of_after hafter⟩

end Veiled

/-! ## Runs -/

/-- Two runs side by side, in which the service thinks alike of the passwords. -/
inductive Resembling (service : Service) (dummy : String) (start twin : State) :
    List Entry → List Entry → State → State → Prop where
  | nil : Resembling service dummy start twin [] [] start twin
  | snoc {history others : List Entry} {state last : State}
      (hruns : Resembling service dummy start twin history others state last) (moment : Moment)
      {call other : Call}
      (halike : service.ThinksAlike dummy { state with now := moment } { last with now := moment }
        call other) :
      Resembling service dummy start twin
        (history ++ [⟨moment, call, (step service state moment call).1⟩])
        (others ++ [⟨moment, other, (step (service.withDummyHash dummy) last moment other).1⟩])
        (step service state moment call).2 (step (service.withDummyHash dummy) last moment other).2

theorem Entry.isHashless_step
    {service : Service} {state : State} {moment : Moment} {call : Call} {answer : Answer}
    (hanswer : (step service state moment call).1 = .ok answer) :
    answer.IsHashless := by
  rcases hexec : step service state moment call with ⟨outcome, later⟩
  rw [hexec] at hanswer
  obtain rfl : outcome = .ok answer := hanswer
  exact call.gives_perform service _ answer later hexec

/-- Runs in which the service thinks alike of the passwords have the same outcomes, events
and log lines, and leave databases that differ in hashes only.  No answer has a hash in it. -/
theorem hashes_hidden
    {service : Service} {dummy : String} {start twin : State} (hstart : Veiled start twin)
    {history others : List Entry} {state last : State}
    (hruns : Resembling service dummy start twin history others state last) :
    others.map (·.outcome) = history.map (·.outcome) ∧ last.published = state.published ∧
      last.log = state.log ∧ state.database.masked = last.database.masked ∧
      ∀ entry ∈ history, ∀ answer, entry.outcome = .ok answer → answer.IsHashless := by
  have hrun : others.map (·.outcome) = history.map (·.outcome) ∧ Veiled state last ∧
      ∀ entry ∈ history, ∀ answer, entry.outcome = .ok answer → answer.IsHashless := by
    induction hruns with
    | nil => exact ⟨rfl, hstart, fun _ hentry => (List.not_mem_nil hentry).elim⟩
    | snoc hruns moment halike ih =>
        obtain ⟨houtcomes, hveiled, hhashless⟩ := ih
        obtain ⟨houtcome, hlater⟩ := hveiled.step halike
        refine ⟨?_, hlater, ?_⟩
        · rw [List.map_append, List.map_append, houtcomes, List.map_singleton,
            List.map_singleton, houtcome]
        · intro entry hentry answer hanswer
          rcases List.mem_append.mp hentry with hold | hnew
          · exact hhashless entry hold answer hanswer
          · rw [List.mem_singleton.mp hnew] at hanswer
            exact Entry.isHashless_step hanswer
  obtain ⟨houtcomes, hveiled, hhashless⟩ := hrun
  refine ⟨houtcomes, ?_, ?_, hveiled.masked, hhashless⟩
  · rw [hveiled.rest]
  · rw [hveiled.rest]

/-- Whoever logs in with this password or that on a stored text that is no hash, and
registers with this one or that, the runs resemble each other. -/
theorem hashes_hidden_after_registration :
    let row (hash : String) : Account :=
      ⟨1, "ann", "a@b.org", hash, "Ann", true, true, none, .epoch, .epoch⟩
    let start (hash : String) : State := { State.start .epoch with database := ⟨[row hash], []⟩ }
    let calls (password : String) : List Call :=
      [.login "ann" password, .register "bob" "b@b.org" password "Bob"]
    ∃ (history others : List Entry) (state last : State),
      Veiled (start "x") (start "y") ∧
      Resembling .lenient "other" (start "x") (start "y") history others state last ∧
      history.map (·.call) = calls "p" ∧ others.map (·.call) = calls "q" ∧
      others.map (·.outcome) = history.map (·.outcome) ∧ last.log = state.log := by
  intro row start calls
  have hstart : Veiled (start "x") (start "y") := ⟨rfl, rfl, rfl⟩
  have hlogin : Service.lenient.ThinksAlike "other" (start "x") (start "y") (.login "ann" "p")
      (.login "ann" "q") := by
    refine .login ?_
    have hfirst : Service.lenient.verdict? (start "x").database "ann" "p" = some .unusable := by
      decide +kernel
    have hsecond : (Service.lenient.withDummyHash "other").verdict? (start "y").database "ann" "q" =
        some .unusable := by
      decide +kernel
    rw [hfirst, hsecond]
    exact .some (.refl _)
  have hregister (state twin : State) : Service.lenient.ThinksAlike "other" state twin
      (.register "bob" "b@b.org" "p" "Bob") (.register "bob" "b@b.org" "q" "Bob") := by
    have haccepts : Service.lenient.policy.check "q" = none := rfl
    refine .register (haccepts.trans Service.lenient_accepts.symm) fun _ _ => ?_
    obtain ⟨hash, hhash⟩ := Service.lenient_hash (Password.numberedSalt state.saltsDrawn)
    obtain ⟨other, hother⟩ : ∃ other, (Service.lenient.withDummyHash "other").hashed twin "q" =
        .ok other :=
      Password.exists_hash (by decide) (by decide) (by decide) _
    rw [hother, Service.hashed, hhash]
    rfl
  have hruns : Resembling .lenient "other" (start "x") (start "y") _ _ _ _ :=
    .snoc (.snoc .nil .epoch hlogin) .epoch (hregister _ _)
  obtain ⟨houtcomes, -, hlog, -⟩ := hashes_hidden hstart hruns
  exact ⟨_, _, _, _, hstart, hruns, rfl, rfl, houtcomes, hlog⟩

end AccountSessions
