import AccountSessions.Proofs.Calls

/-!
# Names of accounts

User names hold no at sign and addresses hold one, so no account can be found under the
name of another one, whichever of its two names a caller gives.  An account keeps its id,
its names and the hash of its password for ever.  It stays verified, and it stays active
until it is blocked.
-/

namespace AccountSessions

/-! ## Changes that keep who the account is -/

/-- The change leaves alone what the account is found and recognised by. -/
structure KeepsIdentity (change : Account → Account) : Prop where
  id : ∀ account, (change account).id = account.id
  username : ∀ account, (change account).username = account.username
  email : ∀ account, (change account).email = account.email
  passwordHash : ∀ account, (change account).passwordHash = account.passwordHash

theorem keepsIdentity_verify (now : Moment) :
    KeepsIdentity fun account => { account with emailVerified := true, updatedAt := now } :=
  ⟨fun _ => rfl, fun _ => rfl, fun _ => rfl, fun _ => rfl⟩

theorem keepsIdentity_activate (active : Bool) (now : Moment) :
    KeepsIdentity fun account => { account with isActive := active, updatedAt := now } :=
  ⟨fun _ => rfl, fun _ => rfl, fun _ => rfl, fun _ => rfl⟩

theorem keepsIdentity_stamp (moment : Moment) :
    KeepsIdentity fun account =>
      { account with lastLoginAt := some moment, updatedAt := moment } :=
  ⟨fun _ => rfl, fun _ => rfl, fun _ => rfl, fun _ => rfl⟩

/-! ## Distinct names -/

structure Named (accounts : List Account) : Prop where
  ids : (accounts.map (·.id)).Nodup
  usernames : (accounts.map (·.username)).Nodup
  emails : (accounts.map (·.email)).Nodup
  unmixed : ∀ account ∈ accounts, '@' ∉ account.username.toList ∧ '@' ∈ account.email.toList

namespace Named

variable {db : Database} (hnamed : Named db.accounts)

theorem nil : Named [] :=
  ⟨List.nodup_nil, List.nodup_nil, List.nodup_nil, by simp⟩

include hnamed

theorem account?_eq {account : Account} (hmem : account ∈ db.accounts) :
    db.account? account.id = some account :=
  find?_eq_of_nodup hnamed.ids hmem

/-- An account is found by either of its names. -/
theorem accountOf?_eq
    {account : Account} (hmem : account ∈ db.accounts) {identifier : String}
    (hidentifier : identifier = account.username ∨ identifier = account.email) :
    db.accountOf? identifier = some account := by
  unfold Database.accountOf?
  rcases hidentifier with rfl | rfl
  · rw [find?_eq_of_nodup hnamed.usernames hmem]
    rfl
  · have hnone : db.accounts.find? (·.username == account.email) = none := by
      refine List.find?_eq_none.mpr ?_
      intro other hother hsame
      rw [beq_iff_eq] at hsame
      exact (hnamed.unmixed other hother).1 (hsame ▸ (hnamed.unmixed account hmem).2)
    rw [hnone, find?_eq_of_nodup hnamed.emails hmem]
    rfl

theorem accountOf?_eq_some {identifier : String} {account : Account} :
    db.accountOf? identifier = some account ↔
      account ∈ db.accounts ∧ (identifier = account.username ∨ identifier = account.email) := by
  constructor
  · intro hfound
    refine ⟨Database.mem_of_accountOf? hfound, ?_⟩
    unfold Database.accountOf? at hfound
    rcases Option.or_eq_some_iff.mp hfound with hname | ⟨-, hemail⟩
    · have hsame : account.username = identifier := by simpa using List.find?_some hname
      exact .inl hsame.symm
    · have hsame : account.email = identifier := by simpa using List.find?_some hemail
      exact .inr hsame.symm
  · rintro ⟨hmem, hidentifier⟩
    exact hnamed.accountOf?_eq hmem hidentifier

theorem changeAccount {change : Account → Account} (hchange : KeepsIdentity change) (id : Int) :
    Named (db.changeAccount id change).accounts := by
  refine ⟨?_, ?_, ?_, ?_⟩
  · rw [Database.map_changeAccount hchange.id]
    exact hnamed.ids
  · rw [Database.map_changeAccount hchange.username]
    exact hnamed.usernames
  · rw [Database.map_changeAccount hchange.email]
    exact hnamed.emails
  · intro account hmem
    obtain ⟨old, hold, rfl⟩ := List.mem_map.mp hmem
    split
    · rw [hchange.username, hchange.email]
      exact hnamed.unmixed old hold
    · exact hnamed.unmixed old hold

theorem addAccount?
    {added : Database} {username email hash name : String} {now : Moment} {id : Int}
    (hadd : db.addAccount?
      { username := some username
        email := some email
        passwordHash := some hash
        name := some name
        emailVerified := false
        isActive := true } now = some (id, added))
    (hunmixed : '@' ∉ username.toList ∧ '@' ∈ email.toList) :
    Named added.accounts := by
  obtain ⟨hids, husernames, hemails⟩ :=
    Database.nodup_of_addAccount? hadd hnamed.ids hnamed.usernames hnamed.emails
  obtain ⟨-, rfl⟩ := Database.addAccount?_eq_row hadd
  refine ⟨hids, husernames, hemails, ?_⟩
  intro account hmem
  rcases List.mem_append.mp hmem with hold | hnew
  · exact hnamed.unmixed account hold
  · rw [List.mem_singleton.mp hnew]
    exact hunmixed

end Named

/-- Names stay distinct and unmixed as long as new names are unmixed. -/
theorem Effect.named
    {service : Service} {ids : TokenIds} {now : Moment} {db later : Database} {call : Call}
    {outcome : Except Failure Answer} (heffect : Effect service ids now db call outcome later)
    (hunmixed : ∀ username email password name, call = .register username email password name →
      '@' ∉ username.toList ∧ '@' ∈ email.toList)
    (hnamed : Named db.accounts) :
    Named later.accounts := by
  cases heffect with
  | registered hadd => exact hnamed.addAccount? hadd (hunmixed _ _ _ _ rfl)
  | verified => exact hnamed.changeAccount (keepsIdentity_verify now) _
  | loggedIn _ _ _ _ _ hadd =>
      obtain ⟨-, rfl⟩ := Database.addRecord?_eq_some hadd
      exact hnamed.changeAccount (keepsIdentity_stamp now) _
  | loggedOut _ _ => exact hnamed
  | loggedOutAll => exact hnamed
  | deactivated => exact hnamed.changeAccount (keepsIdentity_activate false now) _
  | activated => exact hnamed.changeAccount (keepsIdentity_activate true now) _
  | purged => exact hnamed
  | read _ => exact hnamed
  | refused _ => exact hnamed

/-! ## Enrolled accounts -/

/-- What is known of the account of a user who has registered and was not blocked since;
it is verified if that has been done. -/
structure Account.Serves (userId : Int) (username email hash : String) (verified : Bool)
    (account : Account) : Prop where
  id : account.id = userId
  username : account.username = username
  email : account.email = email
  passwordHash : account.passwordHash = hash
  active : account.isActive = true
  verified : verified = true → account.emailVerified = true

def Enrolled (userId : Int) (username email hash : String) (verified : Bool)
    (accounts : List Account) : Prop :=
  ∃ account ∈ accounts, account.Serves userId username email hash verified

namespace Enrolled

variable {userId : Int} {username email hash : String} {verified : Bool} {db : Database}
  (henrolled : Enrolled userId username email hash verified db.accounts)

include henrolled

theorem changeAccount
    {change : Account → Account} (hchange : KeepsIdentity change) {id : Int}
    (hactive : ∀ account, account.id = id → id = userId → account.isActive = true →
      (change account).isActive = true)
    (hverified : ∀ account, account.emailVerified = true → (change account).emailVerified = true) :
    Enrolled userId username email hash verified (db.changeAccount id change).accounts := by
  obtain ⟨account, hmem, hserves⟩ := henrolled
  refine ⟨_, List.mem_map_of_mem hmem, ?_⟩
  split
  next hid =>
    exact ⟨(hchange.id account).trans hserves.id, (hchange.username account).trans hserves.username,
      (hchange.email account).trans hserves.email,
      (hchange.passwordHash account).trans hserves.passwordHash,
      hactive account hid (hid ▸ hserves.id) hserves.active,
      fun h => hverified account (hserves.verified h)⟩
  next => exact hserves

theorem effect
    {service : Service} {ids : TokenIds} {now : Moment} {later : Database} {call : Call}
    {outcome : Except Failure Answer} (heffect : Effect service ids now db call outcome later)
    (hspared : call ≠ .deactivate userId) :
    Enrolled userId username email hash verified later.accounts := by
  cases heffect with
  | registered hadd =>
      obtain ⟨account, rfl, -⟩ := Database.addAccount?_eq_some hadd
      obtain ⟨old, hold, hserves⟩ := henrolled
      exact ⟨old, List.mem_append_left _ hold, hserves⟩
  | verified =>
      exact henrolled.changeAccount (keepsIdentity_verify now) (fun _ _ _ h => h) fun _ _ => rfl
  | loggedIn _ _ _ _ _ hadd =>
      obtain ⟨-, rfl⟩ := Database.addRecord?_eq_some hadd
      exact henrolled.changeAccount (keepsIdentity_stamp now) (fun _ _ _ h => h) fun _ h => h
  | loggedOut _ _ => exact henrolled
  | loggedOutAll => exact henrolled
  | @deactivated blocked =>
      refine henrolled.changeAccount (keepsIdentity_activate false now) ?_ fun _ h => h
      rintro account - rfl
      exact absurd rfl hspared
  | activated =>
      exact henrolled.changeAccount (keepsIdentity_activate true now) (fun _ _ _ _ => rfl)
        fun _ h => h
  | purged => exact henrolled
  | read _ => exact henrolled
  | refused _ => exact henrolled

/-- The account is verified for good once it has been seen so. -/
theorem of_verified
    (hnamed : Named db.accounts) {account : Account} (hfound : db.account? userId = some account)
    (hverified : account.emailVerified = true) :
    Enrolled userId username email hash true db.accounts := by
  obtain ⟨owner, hmem, hserves⟩ := henrolled
  have hsame := hnamed.account?_eq hmem
  rw [hserves.id, hfound] at hsame
  injection hsame with hsame
  exact ⟨owner, hmem, { hserves with verified := fun _ => hsame ▸ hverified }⟩

end Enrolled

end AccountSessions
