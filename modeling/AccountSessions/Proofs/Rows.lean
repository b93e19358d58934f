import AccountSessions.Proofs.Calls
import Mathlib.Logic.Relation

/-!
# Rows over time

Apart from the sweep, no change of the tables takes a row away.  An account keeps what it
was created with and stays verified; a record keeps what it was opened with and is
revoked at most once.  Keys stay distinct, and records keep their owners.
-/

namespace AccountSessions

/-! ## Rows that continue -/

/-- The account is the same at a later time. -/
structure Account.Continues (kept old : Account) : Prop where
  id : kept.id = old.id
  username : kept.username = old.username
  email : kept.email = old.email
  passwordHash : kept.passwordHash = old.passwordHash
  name : kept.name = old.name
  createdAt : kept.createdAt = old.createdAt
  verified : old.emailVerified = true → kept.emailVerified = true

namespace Account.Continues

variable {first second third account : Account}

theorem refl (account : Account) : account.Continues account :=
  ⟨rfl, rfl, rfl, rfl, rfl, rfl, fun h => h⟩

theorem trans (hlate : third.Continues second) (hearly : second.Continues first) :
    third.Continues first :=
  ⟨hlate.id.trans hearly.id, hlate.username.trans hearly.username, hlate.email.trans hearly.email,
    hlate.passwordHash.trans hearly.passwordHash, hlate.name.trans hearly.name,
    hlate.createdAt.trans hearly.createdAt, fun h => hlate.verified (hearly.verified h)⟩

theorem verify (account : Account) (now : Moment) :
    { account with emailVerified := true, updatedAt := now }.Continues account :=
  ⟨rfl, rfl, rfl, rfl, rfl, rfl, fun _ => rfl⟩

theorem activate (account : Account) (active : Bool) (now : Moment) :
    { account with isActive := active, updatedAt := now }.Continues account :=
  ⟨rfl, rfl, rfl, rfl, rfl, rfl, fun h => h⟩

theorem stamp (account : Account) (moment : Moment) :
    { account with lastLoginAt := some moment, updatedAt := moment }.Continues account :=
  ⟨rfl, rfl, rfl, rfl, rfl, rfl, fun h => h⟩

end Account.Continues

/-- The record is the same at a later time; only a moment of revocation may have been
added. -/
structure SessionRecord.Continues (kept old : SessionRecord) : Prop where
  id : kept.id = old.id
  login : Database.SameLogin kept old
  revokedAt : kept.revokedAt = old.revokedAt ∨ old.revokedAt = none

namespace SessionRecord.Continues

variable {first second third : SessionRecord}

theorem refl (record : SessionRecord) : record.Continues record :=
  ⟨rfl, .refl record, .inl rfl⟩

theorem trans (hlate : third.Continues second) (hearly : second.Continues first) :
    third.Continues first := by
  refine ⟨hlate.id.trans hearly.id, hlate.login.trans hearly.login, ?_⟩
  rcases hearly.revokedAt with hsame | hopen
  · rcases hlate.revokedAt with hkept | hopen
    · exact .inl (hkept.trans hsame)
    · exact .inr (hsame.symm.trans hopen)
  · exact .inr hopen

end SessionRecord.Continues

namespace Database

/-- Every row is still there. -/
structure Retains (later db : Database) : Prop where
  accounts : ∀ old ∈ db.accounts, ∃ kept ∈ later.accounts, kept.Continues old
  records : ∀ old ∈ db.records, ∃ kept ∈ later.records, kept.Continues old

namespace Retains

variable {db middle later : Database}

theorem refl (db : Database) : db.Retains db :=
  ⟨fun old hold => ⟨old, hold, .refl old⟩, fun old hold => ⟨old, hold, .refl old⟩⟩

theorem trans (hlate : later.Retains middle) (hearly : middle.Retains db) : later.Retains db := by
  constructor
  · intro old hold
    obtain ⟨kept, hkept, hearly⟩ := hearly.accounts old hold
    obtain ⟨last, hlast, hlate⟩ := hlate.accounts kept hkept
    exact ⟨last, hlast, hlate.trans hearly⟩
  · intro old hold
    obtain ⟨kept, hkept, hearly⟩ := hearly.records old hold
    obtain ⟨last, hlast, hlate⟩ := hlate.records kept hkept
    exact ⟨last, hlast, hlate.trans hearly⟩

end Retains

/-! ## Keys and owners -/

structure Integral (db : Database) : Prop where
  accountIds : (db.accounts.map (·.id)).Nodup
  usernames : (db.accounts.map (·.username)).Nodup
  emails : (db.accounts.map (·.email)).Nodup
  recordIds : (db.records.map (·.id)).Nodup
  tokens : (db.records.map (·.token)).Nodup
  owned : ∀ record ∈ db.records, ∃ account ∈ db.accounts, account.id = record.userId

theorem Integral.empty : Database.empty.Integral :=
  ⟨.nil, .nil, .nil, .nil, .nil, by rintro _ ⟨⟩⟩

/-! ## Changes that remove nothing -/

/-- One change of the tables other than the sweep. -/
inductive Amends (db : Database) : Database → Prop where
  | enlisted {new : NewAccount} {now : Moment} {id : Int} {added : Database}
      (hadd : db.addAccount? new now = some (id, added)) : Amends db added
  | altered {change : Account → Account} (hchange : ∀ account, (change account).Continues account)
      (id : Int) : Amends db (db.changeAccount id change)
  | opened {userId id : Int} {token : String} {expires now : Moment} {added : Database}
      (hadd : db.addRecord? userId token expires now = some (id, added)) : Amends db added
  | revoked (test : SessionRecord → Bool) (now : Moment) : Amends db (db.revokeWhere test now)

namespace Amends

variable {db later : Database}

theorem retains (hamends : Amends db later) : later.Retains db := by
  cases hamends with
  | enlisted hadd =>
      obtain ⟨account, rfl, -⟩ := exists_of_addAccount? hadd
      exact ⟨fun old hold => ⟨old, List.mem_append_left _ hold, .refl old⟩,
        (Retains.refl db).records⟩
  | altered hchange id =>
      refine ⟨fun old hold => ⟨_, List.mem_map_of_mem hold, ?_⟩, (Retains.refl db).records⟩
      split
      · exact hchange old
      · exact .refl old
  | opened hadd =>
      obtain ⟨record, rfl, -⟩ := exists_of_addRecord? hadd
      exact ⟨(Retains.refl db).accounts,
        fun old hold => ⟨old, List.mem_append_left _ hold, .refl old⟩⟩
  | revoked test now =>
      refine ⟨(Retains.refl db).accounts, fun old hold => ⟨_, List.mem_map_of_mem hold, ?_⟩⟩
      by_cases hopen : (old.isOpen && test old) = true
      · rw [if_pos hopen]
        rw [Bool.and_eq_true] at hopen
        exact ⟨rfl, ⟨rfl, rfl, rfl, rfl⟩, .inr (Option.isNone_iff_eq_none.mp hopen.1)⟩
      · rw [if_neg hopen]
        exact .refl old

theorem integral (hamends : Amends db later) (hintegral : db.Integral) : later.Integral := by
  cases hamends with
  | enlisted hadd =>
      obtain ⟨hids, husernames, hemails⟩ := nodup_of_addAccount? hadd hintegral.accountIds
        hintegral.usernames hintegral.emails
      obtain ⟨account, rfl, -⟩ := exists_of_addAccount? hadd
      exact { hintegral with
        accountIds := hids
        usernames := husernames
        emails := hemails
        owned := by
          intro record hrecord
          obtain ⟨owner, howner, hid⟩ := hintegral.owned record hrecord
          exact ⟨owner, List.mem_append_left _ howner, hid⟩ }
  | altered hchange id =>
      exact { hintegral with
        accountIds := by
          rw [map_changeAccount fun account => (hchange account).id]
          exact hintegral.accountIds
        usernames := by
          rw [map_changeAccount fun account => (hchange account).username]
          exact hintegral.usernames
        emails := by
          rw [map_changeAccount fun account => (hchange account).email]
          exact hintegral.emails
        owned := by
          intro record hrecord
          obtain ⟨owner, howner, hid⟩ := hintegral.owned record hrecord
          obtain ⟨kept, hkept, hsame⟩ := (Amends.altered hchange id).retains.accounts owner howner
          exact ⟨kept, hkept, hsame.id.trans hid⟩ }
  | opened hadd =>
      obtain ⟨record, rfl, rfl, rfl, hhas, hnew⟩ := exists_of_addRecord? hadd
      exact { hintegral with
        recordIds := nodup_map_concat hintegral.recordIds fun old hold =>
          Int.ne_of_lt (lt_nextId (List.mem_map_of_mem hold))
        tokens := nodup_map_concat hintegral.tokens hnew
        owned := by
          intro other hother
          rcases List.mem_append.mp hother with hold | hlast
          · exact hintegral.owned other hold
          · rw [List.mem_singleton.mp hlast]
            exact hasAccount_eq_true.mp hhas }
  | revoked test now =>
      exact { hintegral with
        recordIds := by
          rw [map_revokeWhere fun _ _ => rfl]
          exact hintegral.recordIds
        tokens := by
          rw [map_revokeWhere fun _ _ => rfl]
          exact hintegral.tokens
        owned := by
          intro record hrecord
          obtain ⟨old, hold, hsame, -⟩ := mem_revokeWhere hrecord
          rw [hsame.userId]
          exact hintegral.owned old hold }

end Amends

theorem retains_of_amends {db later : Database} (hsteps : Relation.ReflTransGen Amends db later) :
    later.Retains db := by
  induction hsteps with
  | refl => exact .refl db
  | tail _ hamends ih => exact hamends.retains.trans ih

theorem Integral.of_amends
    {db later : Database} (hintegral : db.Integral)
    (hsteps : Relation.ReflTransGen Amends db later) :
    later.Integral := by
  induction hsteps with
  | refl => exact hintegral
  | tail _ hamends ih => exact hamends.integral ih

/-! ## The sweep -/

theorem Integral.sweep {db : Database} (hintegral : db.Integral) (now : Moment) :
    (db.sweep now).Integral :=
  { hintegral with
    recordIds := hintegral.recordIds.sublist (List.filter_sublist.map _)
    tokens := hintegral.tokens.sublist (List.filter_sublist.map _)
    owned := fun record hrecord => hintegral.owned record (List.mem_of_mem_filter hrecord) }

end Database

/-! ## Calls of the service -/

section Effects

variable {service : Service} {ids : TokenIds} {now : Moment} {db later : Database} {call : Call}
  {outcome : Except Failure Answer}
  (heffect : Effect service ids now db call outcome later)

include heffect

/-- A call amends the tables at most twice, or sweeps them. -/
theorem Effect.amends : Relation.ReflTransGen Database.Amends db later ∨ later = db.sweep now := by
  cases heffect with
  | registered hadd => exact .inl (.single (.enlisted hadd))
  | verified => exact .inl (.single (.altered (fun account => .verify account now) _))
  | @loggedIn _ _ _ _ _ account _ _ _ hfound hfits hoffers hissue hexpires hadd =>
      exact .inl (.tail (.single (.opened hadd)) (.altered (fun account => .stamp account now) _))
  | loggedOut _ _ => exact .inl (.single (.revoked _ now))
  | loggedOutAll => exact .inl (.single (.revoked _ now))
  | deactivated =>
      exact .inl (.tail (.single (.altered (fun account => .activate account false now) _))
        (.revoked _ now))
  | activated => exact .inl (.single (.altered (fun account => .activate account true now) _))
  | purged => exact .inr rfl
  | read _ => exact .inl .refl
  | refused _ => exact .inl .refl

theorem Effect.integral (hintegral : db.Integral) : later.Integral := by
  rcases heffect.amends with hsteps | rfl
  · exact hintegral.of_amends hsteps
  · exact hintegral.sweep now

theorem Effect.retains_accounts :
    ∀ old ∈ db.accounts, ∃ kept ∈ later.accounts, kept.Continues old := by
  rcases heffect.amends with hsteps | rfl
  · exact (Database.retains_of_amends hsteps).accounts
  · exact (Database.Retains.refl db).accounts

end Effects

end AccountSessions
