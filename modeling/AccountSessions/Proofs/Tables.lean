import AccountSessions.Database
import Mathlib.Data.List.Nodup

/-!
# Changes of the tables

What each change of the database does to the rows: which accounts and records are there
afterwards, and that a change for one user leaves the rows of the others alone.
-/

namespace AccountSessions

/-! ## Columns without repetition -/

theorem find?_eq_of_nodup
    {α β : Type} [DecidableEq β] {rows : List α} {key : α → β} (hnodup : (rows.map key).Nodup)
    {row : α} (hmem : row ∈ rows) :
    rows.find? (key · == key row) = some row := by
  cases hfound : rows.find? (key · == key row) with
  | none =>
      have hnone := List.find?_eq_none.mp hfound row hmem
      simp at hnone
  | some found =>
      have hkey : key found = key row := by simpa using List.find?_some hfound
      rw [List.inj_on_of_nodup_map hnodup (List.mem_of_find?_eq_some hfound) hmem hkey]

theorem nodup_map_concat
    {α β : Type} {rows : List α} {key : α → β} (hnodup : (rows.map key).Nodup) {row : α}
    (hfresh : ∀ old ∈ rows, key old ≠ key row) :
    ((rows ++ [row]).map key).Nodup := by
  rw [List.map_append, List.map_singleton, List.nodup_append]
  refine ⟨hnodup, List.nodup_singleton _, ?_⟩
  intro taken htaken fresh hrow
  obtain ⟨old, hold, rfl⟩ := List.mem_map.mp htaken
  rw [List.mem_singleton.mp hrow]
  exact hfresh old hold

namespace Database

/-! ## Accounts -/

theorem hasAccount_eq_true {db : Database} {id : Int} :
    db.hasAccount id = true ↔ ∃ account ∈ db.accounts, account.id = id := by
  simp [hasAccount]

theorem hasAccount_of_account?
    {db : Database} {id : Int} {account : Account} (hfound : db.account? id = some account) :
    account ∈ db.accounts ∧ account.id = id := by
  refine ⟨List.mem_of_find?_eq_some hfound, ?_⟩
  simpa using List.find?_some hfound

theorem exists_account? {db : Database} {id : Int} (hhas : db.hasAccount id = true) :
    ∃ account, db.account? id = some account ∧ account.id = id := by
  obtain ⟨account, hmem, hid⟩ := hasAccount_eq_true.mp hhas
  cases hfound : db.account? id with
  | none =>
      have hnone := List.find?_eq_none.mp hfound account hmem
      simp [hid] at hnone
  | some found => exact ⟨found, rfl, (hasAccount_of_account? hfound).2⟩

theorem mem_of_accountOf?
    {db : Database} {identifier : String} {account : Account}
    (hfound : db.accountOf? identifier = some account) :
    account ∈ db.accounts := by
  unfold accountOf? at hfound
  rcases Option.or_eq_some_iff.mp hfound with hname | ⟨-, hemail⟩
  · exact List.mem_of_find?_eq_some hname
  · exact List.mem_of_find?_eq_some hemail

theorem changeAccount_of_not_hasAccount
    {db : Database} {id : Int} (hhas : db.hasAccount id = false) (change : Account → Account) :
    db.changeAccount id change = db := by
  have hother : ∀ account ∈ db.accounts, account.id ≠ id := by
    intro account hmem hid
    rw [hasAccount_eq_true.mpr ⟨account, hmem, hid⟩] at hhas
    cases hhas
  have hmap : db.accounts.map (fun account => if account.id = id then change account else account) =
      db.accounts := by
    rw [List.map_congr_left fun account hmem => if_neg (hother account hmem), List.map_id']
  unfold changeAccount
  rw [hmap]

theorem map_changeAccount
    {β : Type} {key : Account → β} {change : Account → Account}
    (hkey : ∀ account, key (change account) = key account) {db : Database} {id : Int} :
    (db.changeAccount id change).accounts.map key = db.accounts.map key := by
  rw [changeAccount, List.map_map]
  apply List.map_congr_left
  intro account _
  rw [Function.comp_apply]
  split
  · exact hkey account
  · rfl

structure KeepsNames (change : Account → Account) : Prop where
  id : ∀ account, (change account).id = account.id
  email : ∀ account, (change account).email = account.email

theorem keepsNames_ite
    {change : Account → Account} (hchange : KeepsNames change) (id : Int) :
    KeepsNames fun account => if account.id = id then change account else account where
  id := by
    intro account
    by_cases hid : account.id = id
    · rw [if_pos hid, hchange.id]
    · rw [if_neg hid]
  email := by
    intro account
    by_cases hid : account.id = id
    · rw [if_pos hid, hchange.email]
    · rw [if_neg hid]

theorem hasAccount_changeAccount
    {db : Database} {id other : Int} (hhas : db.hasAccount id = true) {change : Account → Account}
    (hchange : ∀ account, (change account).id = account.id) :
    (db.changeAccount other change).hasAccount id = true := by
  obtain ⟨account, hmem, hid⟩ := hasAccount_eq_true.mp hhas
  refine hasAccount_eq_true.mpr ⟨_, List.mem_map_of_mem hmem, ?_⟩
  split
  · exact (hchange account).trans hid
  · exact hid

theorem changeAccount_accounts
    {change : Account → Account} (hchange : KeepsNames change) (db : Database) (id : Int) :
    ∃ all, KeepsNames all ∧ (db.changeAccount id change).accounts = db.accounts.map all :=
  ⟨_, keepsNames_ite hchange id, rfl⟩

theorem le_foldl_max (ids : List Int) (start : Int) :
    start ≤ ids.foldl max start ∧ ∀ id ∈ ids, id ≤ ids.foldl max start := by
  induction ids generalizing start with
  | nil => exact ⟨Int.le_refl start, by simp⟩
  | cons id rest ih =>
      obtain ⟨hstart, hrest⟩ := ih (max start id)
      refine ⟨Int.le_trans (Int.le_max_left start id) hstart, ?_⟩
      intro other hmem
      rcases List.mem_cons.mp hmem with rfl | hother
      · exact Int.le_trans (Int.le_max_right start other) hstart
      · exact hrest other hother

theorem nextId_pos (ids : List Int) : 0 < nextId ids := by
  have hlow := (le_foldl_max ids 0).1
  unfold nextId
  omega

theorem lt_nextId {ids : List Int} {id : Int} (hmem : id ∈ ids) : id < nextId ids := by
  have hbelow := (le_foldl_max ids 0).2 id hmem
  unfold nextId
  omega

/-- A new account comes last, with the next id and with names that nobody has. -/
theorem exists_of_addAccount?
    {db added : Database} {new : NewAccount} {now : Moment} {id : Int}
    (hadd : db.addAccount? new now = some (id, added)) :
    ∃ account : Account, added = { db with accounts := db.accounts ++ [account] } ∧
      account.id = id ∧ id = nextId (db.accounts.map (·.id)) ∧
      db.isTaken account.username account.email = false := by
  unfold addAccount? at hadd
  simp only [Option.bind_eq_bind, Option.bind_eq_some_iff] at hadd
  obtain ⟨username, -, email, -, hash, -, name, -, hadd⟩ := hadd
  split at hadd
  next => cases hadd
  next hfree =>
    injection hadd with hadd
    injection hadd with hid hadded
    rw [← hid, ← hadded]
    exact ⟨_, rfl, rfl, rfl, by simpa using hfree⟩

theorem id_of_addAccount?
    {db added : Database} {new : NewAccount} {now : Moment} {id : Int}
    (hadd : db.addAccount? new now = some (id, added)) :
    id = nextId (db.accounts.map (·.id)) := by
  obtain ⟨account, -, -, hid, -⟩ := exists_of_addAccount? hadd
  exact hid

theorem records_of_addAccount?
    {db added : Database} {new : NewAccount} {now : Moment} {id : Int}
    (hadd : db.addAccount? new now = some (id, added)) :
    added.records = db.records := by
  obtain ⟨account, rfl, -⟩ := exists_of_addAccount? hadd
  rfl

theorem addAccount?_eq_row
    {db added : Database} {username email hash name : String} {now : Moment} {id : Int}
    (hadd : db.addAccount?
      { username := some username
        email := some email
        passwordHash := some hash
        name := some name
        emailVerified := false
        isActive := true } now = some (id, added)) :
    db.isTaken username email = false ∧
      added = { db with
        accounts := db.accounts ++
          [⟨id, username, email, hash, name, false, true, none, now, now⟩] } := by
  unfold addAccount? at hadd
  simp only [Option.bind_eq_bind, Option.bind_some] at hadd
  split at hadd
  next => cases hadd
  next hfree =>
    injection hadd with hadd
    injection hadd with hid hadded
    rw [← hid, ← hadded]
    exact ⟨by simpa using hfree, rfl⟩

theorem addAccount?_eq_some
    {db added : Database} {username email hash name : String} {now : Moment} {id : Int}
    (hadd : db.addAccount?
      { username := some username
        email := some email
        passwordHash := some hash
        name := some name
        emailVerified := false
        isActive := true } now = some (id, added)) :
    ∃ account : Account, added = { db with accounts := db.accounts ++ [account] } ∧
      account.id = id ∧ account.email = email ∧ 0 < id := by
  have hid := id_of_addAccount? hadd
  obtain ⟨-, rfl⟩ := addAccount?_eq_row hadd
  refine ⟨_, rfl, rfl, rfl, ?_⟩
  rw [hid]
  exact nextId_pos _

theorem ne_of_not_isTaken
    {db : Database} {username email : String} (hfree : db.isTaken username email = false)
    {old : Account} (hold : old ∈ db.accounts) :
    old.username ≠ username ∧ old.email ≠ email := by
  have hclash := List.any_eq_false.mp hfree old hold
  simpa [Account.clashes] using hclash

theorem hasAccount_of_addAccount?
    {db added : Database} {username email hash name : String} {now : Moment} {id : Int}
    (hadd : db.addAccount?
      { username := some username
        email := some email
        passwordHash := some hash
        name := some name
        emailVerified := false
        isActive := true } now = some (id, added)) :
    added.hasAccount id = true := by
  obtain ⟨account, rfl, hid, -⟩ := addAccount?_eq_some hadd
  exact hasAccount_eq_true.mpr ⟨account, List.mem_append_right _ List.mem_cons_self, hid⟩

theorem lt_of_addAccount?
    {db added : Database} {new : NewAccount} {now : Moment} {id : Int}
    (hadd : db.addAccount? new now = some (id, added)) {old : Account} (hold : old ∈ db.accounts) :
    old.id < id := by
  rw [id_of_addAccount? hadd]
  exact lt_nextId (List.mem_map_of_mem hold)

theorem nodup_of_addAccount?
    {db added : Database} {new : NewAccount} {now : Moment} {id : Int}
    (hadd : db.addAccount? new now = some (id, added)) (hids : (db.accounts.map (·.id)).Nodup)
    (husernames : (db.accounts.map (·.username)).Nodup)
    (hemails : (db.accounts.map (·.email)).Nodup) :
    (added.accounts.map (·.id)).Nodup ∧ (added.accounts.map (·.username)).Nodup ∧
      (added.accounts.map (·.email)).Nodup := by
  have hgreater {old : Account} (hold : old ∈ db.accounts) := lt_of_addAccount? hadd hold
  obtain ⟨account, rfl, rfl, -, hfree⟩ := exists_of_addAccount? hadd
  exact ⟨nodup_map_concat hids fun old hold => Int.ne_of_lt (hgreater hold),
    nodup_map_concat husernames fun old hold => (ne_of_not_isTaken hfree hold).1,
    nodup_map_concat hemails fun old hold => (ne_of_not_isTaken hfree hold).2⟩

/-! ## Records -/

/-- The records of the same login, whether revoked or not. -/
structure SameLogin (record other : SessionRecord) : Prop where
  userId : record.userId = other.userId
  token : record.token = other.token
  expiresAt : record.expiresAt = other.expiresAt
  createdAt : record.createdAt = other.createdAt

theorem SameLogin.refl (record : SessionRecord) : SameLogin record record :=
  ⟨rfl, rfl, rfl, rfl⟩

/-- A new record comes last, with the next id, a token of its own and an owner. -/
theorem exists_of_addRecord?
    {db added : Database} {userId id : Int} {token : String} {expires now : Moment}
    (hadd : db.addRecord? userId token expires now = some (id, added)) :
    ∃ record : SessionRecord, added = { db with records := db.records ++ [record] } ∧
      record = ⟨id, userId, token, expires, now, none⟩ ∧
      id = nextId (db.records.map (·.id)) ∧ db.hasAccount userId = true ∧
      ∀ old ∈ db.records, old.token ≠ token := by
  unfold addRecord? at hadd
  split at hadd
  next hallowed =>
    injection hadd with hadd
    injection hadd with hid hadded
    obtain ⟨hhas, hnew⟩ := Bool.and_eq_true_iff.mp hallowed
    rw [← hid, ← hadded]
    refine ⟨_, rfl, rfl, rfl, hhas, ?_⟩
    intro old hold
    have hother := List.find?_eq_none.mp (Option.isNone_iff_eq_none.mp hnew) old hold
    simpa using hother
  next => cases hadd

theorem SameLogin.trans
    {record middle other : SessionRecord} (hlate : SameLogin record middle)
    (hearly : SameLogin middle other) : SameLogin record other :=
  ⟨hlate.userId.trans hearly.userId, hlate.token.trans hearly.token,
    hlate.expiresAt.trans hearly.expiresAt, hlate.createdAt.trans hearly.createdAt⟩

theorem addRecord?_eq_some
    {db added : Database} {userId id : Int} {token : String} {expires now : Moment}
    (hadd : db.addRecord? userId token expires now = some (id, added)) :
    db.hasAccount userId = true ∧
      added = { db with
        records := db.records ++
          [{ id, userId, token, expiresAt := expires, createdAt := now, revokedAt := none }] } := by
  obtain ⟨record, rfl, rfl, -, hhas, -⟩ := exists_of_addRecord? hadd
  exact ⟨hhas, rfl⟩

/-- The record of a stored account is refused for its token alone. -/
theorem exists_of_addRecord?_eq_none
    {db : Database} {userId : Int} {token : String} {expires now : Moment}
    (hhas : db.hasAccount userId = true) (hadd : db.addRecord? userId token expires now = none) :
    ∃ old ∈ db.records, old.token = token := by
  by_contra hfree
  push Not at hfree
  have hnone : db.record? token = none :=
    List.find?_eq_none.mpr fun old hold => by simpa using hfree old hold
  simp [addRecord?, hhas, hnone] at hadd

/-- A record behind a revocation was there before; if it is open, it is the same and did
not satisfy the test. -/
theorem mem_revokeWhere
    {db : Database} {test : SessionRecord → Bool} {now : Moment} {record : SessionRecord}
    (hmem : record ∈ (db.revokeWhere test now).records) :
    ∃ old ∈ db.records, SameLogin record old ∧
      (record.isOpen = true → record = old ∧ test old = false) := by
  obtain ⟨old, hold, rfl⟩ := List.mem_map.mp hmem
  refine ⟨old, hold, ?_⟩
  by_cases hrevoked : (old.isOpen && test old) = true
  · rw [if_pos hrevoked]
    refine ⟨⟨rfl, rfl, rfl, rfl⟩, ?_⟩
    intro hopen
    cases hopen
  · rw [if_neg hrevoked]
    refine ⟨.refl old, ?_⟩
    intro hopen
    refine ⟨rfl, ?_⟩
    simpa [hopen] using hrevoked

theorem map_revokeWhere
    {β : Type} {key : SessionRecord → β}
    (hkey : ∀ record moment, key { record with revokedAt := moment } = key record)
    {db : Database} {test : SessionRecord → Bool} {now : Moment} :
    (db.revokeWhere test now).records.map key = db.records.map key := by
  rw [revokeWhere, List.map_map]
  apply List.map_congr_left
  intro record _
  rw [Function.comp_apply]
  split
  · exact hkey record _
  · rfl

theorem mem_revokeWhere_of_not
    {db : Database} {test : SessionRecord → Bool} {now : Moment} {record : SessionRecord}
    (hmem : record ∈ db.records) (htest : test record = false) :
    record ∈ (db.revokeWhere test now).records := by
  refine List.mem_map.mpr ⟨record, hmem, ?_⟩
  simp [htest]

theorem revokeWhere_of_countOpen
    {db : Database} {test : SessionRecord → Bool} (hnone : db.countOpen test = 0) (now : Moment) :
    db.revokeWhere test now = db := by
  have hclosed := List.countP_eq_zero.mp hnone
  have hmap : db.records.map (fun record =>
      if record.isOpen && test record then { record with revokedAt := some now } else record) =
      db.records := by
    rw [List.map_congr_left fun record hmem => if_neg (hclosed record hmem), List.map_id']
  unfold revokeWhere
  rw [hmap]

theorem mem_sweep {db : Database} {now : Moment} {record : SessionRecord} :
    record ∈ (db.sweep now).records ↔ record ∈ db.records ∧ record.isSpent now = false := by
  simp [sweep]

theorem liveRecord?_isSome {db : Database} {token : String} {now : Moment} :
    (db.liveRecord? token now).isSome = true ↔
      ∃ record ∈ db.records, record.token = token ∧ record.isOpen = true ∧
        now.micros < record.expiresAt.micros := by
  unfold liveRecord?
  rw [List.find?_isSome]
  simp [SessionRecord.isLive, Moment.before]

/-! ## Rows of one user -/

/-- The rows of the user are the same in both databases. -/
structure Spares (userId : Int) (db later : Database) : Prop where
  accounts : later.accounts.filter (·.id == userId) = db.accounts.filter (·.id == userId)
  records : later.records.filter (·.userId == userId) = db.records.filter (·.userId == userId)

theorem Spares.refl (userId : Int) (db : Database) : Spares userId db db :=
  ⟨rfl, rfl⟩

theorem Spares.trans
    {userId : Int} {db middle later : Database} (hfirst : Spares userId db middle)
    (hsecond : Spares userId middle later) :
    Spares userId db later :=
  ⟨hsecond.accounts.trans hfirst.accounts, hsecond.records.trans hfirst.records⟩

theorem filter_map_of_fixed
    {α : Type} {rows : List α} {change : α → α} {test : α → Bool}
    (hkeeps : ∀ row ∈ rows, test (change row) = test row)
    (hfixed : ∀ row ∈ rows, test row = true → change row = row) :
    (rows.map change).filter test = rows.filter test := by
  induction rows with
  | nil => rfl
  | cons row rest ih =>
      have hrest := ih (fun r hr => hkeeps r (List.mem_cons_of_mem row hr))
        (fun r hr => hfixed r (List.mem_cons_of_mem row hr))
      have hrow := hkeeps row List.mem_cons_self
      rw [List.map_cons]
      by_cases htest : test row = true
      · rw [List.filter_cons_of_pos (hrow.trans htest), List.filter_cons_of_pos htest, hrest,
          hfixed row List.mem_cons_self htest]
      · rw [List.filter_cons_of_neg (by rwa [hrow]), List.filter_cons_of_neg htest, hrest]

theorem changeAccount_spares
    {userId id : Int} (hother : id ≠ userId) (db : Database) {change : Account → Account}
    (hid : ∀ account, (change account).id = account.id) :
    Spares userId db (db.changeAccount id change) where
  accounts := by
    apply filter_map_of_fixed
    · intro account _
      split
      · rw [hid]
      · rfl
    · intro account _ htest
      have hne : account.id ≠ id := by
        intro heq
        rw [← heq] at hother
        exact hother (by simpa using htest)
      rw [if_neg hne]
  records := rfl

theorem revokeWhere_spares
    {userId : Int} {db : Database} {test : SessionRecord → Bool}
    (htest : ∀ record ∈ db.records, test record = true → record.userId ≠ userId) (now : Moment) :
    Spares userId db (db.revokeWhere test now) where
  accounts := rfl
  records := by
    apply filter_map_of_fixed
    · intro record _
      split
      · rfl
      · rfl
    · intro record hmem huser
      apply if_neg
      intro hrevoked
      rw [Bool.and_eq_true] at hrevoked
      exact htest record hmem hrevoked.2 (by simpa using huser)

theorem addRecord?_spares
    {userId owner id : Int} (hother : owner ≠ userId) {db added : Database} {token : String}
    {expires now : Moment} (hadd : db.addRecord? owner token expires now = some (id, added)) :
    Spares userId db added := by
  obtain ⟨-, rfl⟩ := addRecord?_eq_some hadd
  refine ⟨rfl, ?_⟩
  simp [List.filter_append, hother]

end Database

end AccountSessions
