import AccountSessions.Proofs.RecordTokens
import AccountSessions.Proofs.Rows

/-!
# Sessions in the history

A session is open since the login that returned its refresh token, unless its user has
been cut off or the token has been logged out since.  The records say the same: each open
record stands for an open session, and each open session that has not run out by the
latest call has its record.
-/

namespace AccountSessions

/-! ## Open sessions -/

namespace Entry

def Opens (entry : Entry) (token : String) (userId : Int) : Prop :=
  ∃ identifier password session, entry.call = .login identifier password ∧
    entry.outcome = .ok (.session session) ∧ session.refreshToken = token ∧
    session.account.id = userId

/-- The entry logged the token out or cut the user off. -/
def Closes (entry : Entry) (token : String) (userId : Int) : Prop :=
  entry.call.Closes userId ∨
    ∃ caller answer, entry.call = .logout caller token ∧ entry.outcome = .ok answer

theorem not_closes
    {entry : Entry} {token : String} {userId : Int} (hcall : ¬ entry.call.Closes userId)
    (hlogout : ∀ caller, entry.call ≠ .logout caller token) :
    ¬ entry.Closes token userId := by
  rintro (hcloses | ⟨caller, answer, hcaller, -⟩)
  · exact hcall hcloses
  · exact hlogout caller hcaller

end Entry

/-- A login at the moment returned the token to the user, and nothing has ended the
session since. -/
def OpenSince (history : List Entry) (token : String) (moment : Moment) (userId : Int) : Prop :=
  ∃ before entry after, history = before ++ entry :: after ∧ entry.moment = moment ∧
    entry.Opens token userId ∧ ∀ later ∈ after, ¬ later.Closes token userId

theorem openSince_concat
    {history : List Entry} {entry : Entry} {token : String} {moment : Moment} {userId : Int} :
    OpenSince (history ++ [entry]) token moment userId ↔
      (entry.moment = moment ∧ entry.Opens token userId) ∨
        (OpenSince history token moment userId ∧ ¬ entry.Closes token userId) := by
  constructor
  · rintro ⟨before, opening, after, hsplit, hmoment, hopens, hkept⟩
    rcases List.eq_nil_or_concat after with rfl | ⟨rest, last, rfl⟩
    · obtain ⟨-, hlast⟩ := List.append_inj' hsplit rfl
      injection hlast with hlast
      rw [hlast]
      exact .inl ⟨hmoment, hopens⟩
    · rw [List.concat_eq_append, ← List.cons_append, ← List.append_assoc] at hsplit
      obtain ⟨hhistory, hlast⟩ := List.append_inj' hsplit rfl
      injection hlast with hlast
      rw [hlast]
      refine .inr ⟨⟨before, opening, rest, hhistory, hmoment, hopens, ?_⟩, ?_⟩
      · intro later hlater
        exact hkept later (by simp [hlater])
      · exact hkept last (by simp)
  · rintro (⟨hmoment, hopens⟩ | ⟨⟨before, opening, after, rfl, hmoment, hopens, hkept⟩, hcloses⟩)
    · exact ⟨history, entry, [], rfl, hmoment, hopens, by simp⟩
    · refine ⟨before, opening, after ++ [entry], by simp, hmoment, hopens, ?_⟩
      intro later hlater
      rcases List.mem_append.mp hlater with hold | hnew
      · exact hkept later hold
      · rw [List.mem_singleton.mp hnew]
        exact hcloses

/-! ## What one call does to open records -/

section Effects

variable {service : Service} {ids : TokenIds} {now : Moment} {db later : Database} {call : Call}
  {outcome : Except Failure Answer}
  (heffect : Effect service ids now db call outcome later)

include heffect

theorem Effect.accounts :
    (∃ change, Database.KeepsNames change ∧ later.accounts = db.accounts.map change) ∨
      ∃ account : Account, later.accounts = db.accounts ++ [account] ∧ 0 < account.id ∧
        ∃ username password name, call = .register username account.email password name := by
  have hkept : ∃ change, Database.KeepsNames change ∧ db.accounts = db.accounts.map change :=
    ⟨id, ⟨fun _ => rfl, fun _ => rfl⟩, (List.map_id _).symm⟩
  cases heffect with
  | registered hadd =>
      obtain ⟨account, rfl, haccount, rfl, hpos⟩ := Database.addAccount?_eq_some hadd
      exact .inr ⟨account, rfl, haccount ▸ hpos, _, _, _, rfl⟩
  | verified =>
      refine .inl (Database.changeAccount_accounts ?_ db _)
      exact ⟨fun _ => rfl, fun _ => rfl⟩
  | loggedIn _ _ _ _ _ hadd =>
      obtain ⟨-, rfl⟩ := Database.addRecord?_eq_some hadd
      refine .inl (Database.changeAccount_accounts ?_ db _)
      exact ⟨fun _ => rfl, fun _ => rfl⟩
  | deactivated =>
      refine .inl (Database.changeAccount_accounts ?_ db _)
      exact ⟨fun _ => rfl, fun _ => rfl⟩
  | activated =>
      refine .inl (Database.changeAccount_accounts ?_ db _)
      exact ⟨fun _ => rfl, fun _ => rfl⟩
  | loggedOut _ _ => exact .inl hkept
  | loggedOutAll => exact .inl hkept
  | purged => exact .inl hkept
  | read _ => exact .inl hkept
  | refused _ => exact .inl hkept

theorem Effect.hasAccount {userId : Int} (hhas : db.hasAccount userId = true) :
    later.hasAccount userId = true := by
  obtain ⟨account, hmem, hid⟩ := Database.hasAccount_eq_true.mp hhas
  obtain ⟨kept, hkept, hcontinues⟩ := heffect.retains_accounts account hmem
  exact Database.hasAccount_eq_true.mpr ⟨kept, hkept, hcontinues.id.trans hid⟩

/-- Records stay with accounts that are stored. -/
theorem Effect.owners
    (howners : ∀ record ∈ db.records,
      db.hasAccount record.userId = true ∧ Store.fitsColumn record.userId = true) :
    ∀ record ∈ later.records,
      later.hasAccount record.userId = true ∧ Store.fitsColumn record.userId = true := by
  intro record hmem
  rcases heffect.mem_records hmem with ⟨old, hold, hsame⟩ | ⟨account, tokenId, hfresh⟩
  · obtain ⟨hhas, hfits⟩ := howners old hold
    rw [hsame.userId]
    exact ⟨heffect.hasAccount hhas, hfits⟩
  · rw [hfresh.owner]
    refine ⟨heffect.hasAccount ?_, hfresh.fits⟩
    exact Database.hasAccount_eq_true.mpr ⟨account, hfresh.stored, rfl⟩

/-- An open record was open before the call, which did not close its session, or the call
has just opened it. -/
theorem Effect.mem_open
    (howners : ∀ record ∈ db.records,
      db.hasAccount record.userId = true ∧ Store.fitsColumn record.userId = true)
    {record : SessionRecord} (hmem : record ∈ later.records) (hopen : record.isOpen = true) :
    (record ∈ db.records ∧ ¬ (Entry.mk now call outcome).Closes record.token record.userId) ∨
      record.createdAt = now ∧
        (Entry.mk now call outcome).Opens record.token record.userId := by
  cases heffect with
  | registered hadd =>
      obtain ⟨account, rfl, -⟩ := Database.addAccount?_eq_some hadd
      exact .inl ⟨hmem, Entry.not_closes (by rintro ⟨⟩) (by rintro _ ⟨⟩)⟩
  | verified => exact .inl ⟨hmem, Entry.not_closes (by rintro ⟨⟩) (by rintro _ ⟨⟩)⟩
  | loggedIn hfound hfits hoffers hissue hexpires hadd =>
      obtain ⟨-, rfl⟩ := Database.addRecord?_eq_some hadd
      rcases List.mem_append.mp hmem with hold | hnew
      · exact .inl ⟨hold, Entry.not_closes (by rintro ⟨⟩) (by rintro _ ⟨⟩)⟩
      · rw [List.mem_singleton.mp hnew]
        exact .inr ⟨rfl, _, _, _, rfl, rfl, rfl, rfl⟩
  | loggedOut hvalid howner =>
      obtain ⟨old, hold, -, hsame⟩ := Database.mem_revokeWhere hmem
      obtain ⟨rfl, htest⟩ := hsame hopen
      refine .inl ⟨hold, Entry.not_closes (by rintro ⟨⟩) ?_⟩
      intro caller hcall
      injection hcall with _ htoken
      simp [htoken] at htest
  | loggedOutAll =>
      obtain ⟨old, hold, -, hsame⟩ := Database.mem_revokeWhere hmem
      obtain ⟨rfl, htest⟩ := hsame hopen
      refine .inl ⟨hold, Entry.not_closes ?_ (by rintro _ ⟨⟩)⟩
      rintro rfl
      simp at htest
  | deactivated =>
      obtain ⟨old, hold, -, hsame⟩ := Database.mem_revokeWhere hmem
      obtain ⟨rfl, htest⟩ := hsame hopen
      refine .inl ⟨hold, Entry.not_closes ?_ (by rintro _ ⟨⟩)⟩
      rintro rfl
      simp at htest
  | activated => exact .inl ⟨hmem, Entry.not_closes (by rintro ⟨⟩) (by rintro _ ⟨⟩)⟩
  | purged =>
      exact .inl ⟨List.mem_of_mem_filter hmem, Entry.not_closes (by rintro ⟨⟩) (by rintro _ ⟨⟩)⟩
  | read hreads =>
      refine .inl ⟨hmem, ?_⟩
      cases call with
      | refresh | validateToken | listSessions =>
          exact Entry.not_closes (by rintro ⟨⟩) (by rintro _ ⟨⟩)
      | register | verifyEmail | login | logout | logoutAll | deactivate | activate | purge =>
          cases hreads
  | refused hpowerless =>
      refine .inl ⟨hmem, ?_⟩
      rintro (hcloses | ⟨caller, answer, -, ⟨⟩⟩)
      obtain ⟨hhas, hfits⟩ := howners record hmem
      rw [hpowerless record.userId hcloses hfits] at hhas
      cases hhas

theorem Effect.exists_opened
    {token : String} {userId : Int} (hopens : (Entry.mk now call outcome).Opens token userId) :
    ∃ record ∈ later.records, record.token = token ∧ record.userId = userId ∧
      record.createdAt = now ∧ record.isOpen = true := by
  obtain ⟨identifier, password, session, hcall, houtcome, htoken, huser⟩ := hopens
  dsimp only at hcall houtcome
  subst hcall
  cases heffect with
  | loggedIn hfound hfits hoffers hissue hexpires hadd =>
      obtain ⟨-, rfl⟩ := Database.addRecord?_eq_some hadd
      injection houtcome with houtcome
      injection houtcome with houtcome
      rw [← houtcome] at htoken huser
      exact ⟨_, List.mem_append_right _ (List.mem_singleton.mpr rfl), htoken, huser, rfl, rfl⟩
  | read hreads => cases hreads
  | refused _ => cases houtcome

/-- A call that does not close the session of an open record leaves it there, unless it
sweeps a record that has run out. -/
theorem Effect.keeps_open
    {record : SessionRecord} (hmem : record ∈ db.records) (hopen : record.isOpen = true)
    (hcloses : ¬ (Entry.mk now call outcome).Closes record.token record.userId) :
    record ∈ later.records ∨ record.expiresAt.micros ≤ now.micros := by
  cases heffect with
  | registered hadd =>
      obtain ⟨account, rfl, -⟩ := Database.addAccount?_eq_some hadd
      exact .inl hmem
  | verified => exact .inl hmem
  | loggedIn _ _ _ _ _ hadd =>
      obtain ⟨-, rfl⟩ := Database.addRecord?_eq_some hadd
      exact .inl (List.mem_append_left _ hmem)
  | @loggedOut userId token claims _ _ _ =>
      refine .inl (Database.mem_revokeWhere_of_not hmem ?_)
      rw [beq_eq_false_iff_ne]
      intro htoken
      exact hcloses (.inr ⟨userId, .done, by rw [htoken], rfl⟩)
  | @loggedOutAll userId =>
      refine .inl (Database.mem_revokeWhere_of_not hmem ?_)
      rw [beq_eq_false_iff_ne]
      intro huser
      exact hcloses (.inl huser.symm)
  | @deactivated userId =>
      refine .inl (Database.mem_revokeWhere_of_not hmem ?_)
      rw [beq_eq_false_iff_ne]
      intro huser
      exact hcloses (.inl huser.symm)
  | activated => exact .inl hmem
  | purged =>
      by_cases hexpired : record.expiresAt.micros ≤ now.micros
      · exact .inr hexpired
      · refine .inl (List.mem_filter.mpr ⟨hmem, ?_⟩)
        have hbefore : now.before record.expiresAt = true := by
          simpa [Moment.before] using hexpired
        simp [SessionRecord.isSpent, hbefore, hopen]
  | read _ => exact .inl hmem
  | refused _ => exact .inl hmem

end Effects

/-! ## The records against the history -/

/-- The moments of a run pass in order between 1970 and 2500, and every token lives for a
while and ends before the year 9999. -/
structure Timely (service : Service) (moments : List Moment) : Prop where
  era : ∀ moment ∈ moments, moment.InEra
  ordered : moments.Pairwise fun earlier later => earlier.micros ≤ later.micros
  lifetimes : ∀ kind, 0 < (service.issuer.ttl kind).micros
  expiries : ∀ moment ∈ moments, ∀ kind,
    moment.micros + (service.issuer.ttl kind).micros < Moment.yearStart 9999

def Addressed (history : List Entry) : Prop :=
  ∀ entry ∈ history, ∀ username email password name,
    entry.call = .register username email password name → email ≠ ""

theorem Addressed.of_append
    {first : List Entry} (second : List Entry) (haddressed : Addressed (first ++ second)) :
    Addressed first :=
  fun entry hmem => haddressed entry (List.mem_append_left second hmem)

structure Genuine (service : Service) (history : List Entry) (record : SessionRecord) : Prop where
  backed : ∃ grant : Token.Grant, grant.Backs service.issuer record ∧ grant.Readable
  expires : record.createdAt.add? service.issuer.refreshTtl = some record.expiresAt
  created : record.createdAt ∈ history.map Entry.moment

/-- The records stand for the sessions of the history. -/
structure Consistent (service : Service) (history : List Entry) (db : Database) : Prop where
  accounts : ∀ account ∈ db.accounts, 0 < account.id ∧ account.email ≠ ""
  owners : ∀ record ∈ db.records,
    db.hasAccount record.userId = true ∧ Store.fitsColumn record.userId = true
  genuine : ∀ record ∈ db.records, Genuine service history record
  opened : ∀ record ∈ db.records, record.isOpen = true →
    OpenSince history record.token record.createdAt record.userId
  kept : ∀ token moment userId, OpenSince history token moment userId →
    (∃ entry ∈ history,
      moment.micros + service.issuer.refreshTtl.micros ≤ entry.moment.micros) ∨
    ∃ record ∈ db.records, record.token = token ∧ record.userId = userId ∧
      record.createdAt = moment ∧ record.isOpen = true

theorem consistent_empty (service : Service) : Consistent service [] .empty where
  accounts := by simp [Database.empty]
  owners := by simp [Database.empty]
  genuine := by simp [Database.empty]
  opened := by simp [Database.empty]
  kept := by
    rintro token moment userId ⟨before, entry, after, hsplit, -⟩
    simp at hsplit

section Preservation

variable {service : Service} {ids : TokenIds} {history : List Entry} {db later : Database}
  {now : Moment} {call : Call} {outcome : Except Failure Answer}
  (hconsistent : Consistent service history db)
  (heffect : Effect service ids now db call outcome later)

include hconsistent heffect

theorem Consistent.step_accounts
    (haddress : ∀ username email password name,
      call = .register username email password name → email ≠ "") :
    ∀ account ∈ later.accounts, 0 < account.id ∧ account.email ≠ "" := by
  intro account hmem
  rcases heffect.accounts with ⟨change, hkeeps, hlater⟩ | ⟨added, hlater, hpos, username, password,
    name, hcall⟩
  · rw [hlater] at hmem
    obtain ⟨old, hold, rfl⟩ := List.mem_map.mp hmem
    rw [hkeeps.id, hkeeps.email]
    exact hconsistent.accounts old hold
  · rw [hlater] at hmem
    rcases List.mem_append.mp hmem with hold | hnew
    · exact hconsistent.accounts account hold
    · rw [List.mem_singleton.mp hnew]
      exact ⟨hpos, haddress _ _ _ _ hcall⟩

theorem Consistent.step_genuine (hids : ∀ text, ids.Offers text → text ≠ "") :
    ∀ record ∈ later.records, Genuine service (history ++ [⟨now, call, outcome⟩]) record := by
  intro record hmem
  rcases heffect.mem_records hmem with ⟨old, hold, hsame⟩ | ⟨account, tokenId, hfresh⟩
  · obtain ⟨⟨grant, hbacks, hreadable⟩, hexpires, hcreated⟩ := hconsistent.genuine old hold
    refine ⟨⟨grant, hbacks.of_sameLogin hsame, hreadable⟩, ?_, ?_⟩
    · rw [hsame.createdAt, hsame.expiresAt]
      exact hexpires
    · rw [hsame.createdAt, List.map_append]
      exact List.mem_append_left _ hcreated
  · obtain ⟨hpos, hemail⟩ := hconsistent.accounts account hfresh.stored
    refine ⟨⟨_, hfresh.exists_backs, ?_⟩, ?_, ?_⟩
    · exact .of_fits hpos hfresh.fits hemail (hids _ hfresh.offers)
    · rw [hfresh.createdAt]
      exact hfresh.expires
    · rw [hfresh.createdAt]
      simp

theorem Consistent.step_opened :
    ∀ record ∈ later.records, record.isOpen = true →
      OpenSince (history ++ [⟨now, call, outcome⟩]) record.token record.createdAt
        record.userId := by
  intro record hmem hopen
  rw [openSince_concat]
  rcases heffect.mem_open hconsistent.owners hmem hopen with ⟨hold, hcloses⟩ | ⟨hcreated, hopens⟩
  · exact .inr ⟨hconsistent.opened record hold hopen, hcloses⟩
  · exact .inl ⟨hcreated.symm, hopens⟩

theorem Consistent.step_kept (token : String) (moment : Moment) (userId : Int)
    (hsince : OpenSince (history ++ [⟨now, call, outcome⟩]) token moment userId) :
    (∃ entry ∈ history ++ [⟨now, call, outcome⟩],
      moment.micros + service.issuer.refreshTtl.micros ≤ entry.moment.micros) ∨
    ∃ record ∈ later.records, record.token = token ∧ record.userId = userId ∧
      record.createdAt = moment ∧ record.isOpen = true := by
  rcases openSince_concat.mp hsince with ⟨hmoment, hopens⟩ | ⟨hsince, hcloses⟩
  · obtain ⟨record, hmem, htoken, huser, hcreated, hopen⟩ := heffect.exists_opened hopens
    exact .inr ⟨record, hmem, htoken, huser, hcreated.trans hmoment, hopen⟩
  · rcases hconsistent.kept token moment userId hsince with ⟨entry, hmem, hover⟩ | ⟨record, hmem,
      rfl, rfl, rfl, hopen⟩
    · exact .inl ⟨entry, List.mem_append_left _ hmem, hover⟩
    · rcases heffect.keeps_open hmem hopen hcloses with hlater | hexpired
      · exact .inr ⟨record, hlater, rfl, rfl, rfl, hopen⟩
      · refine .inl ⟨⟨now, call, outcome⟩, by simp, ?_⟩
        rw [← Moment.add?_eq_some.mp (hconsistent.genuine record hmem).expires]
        exact hexpired

end Preservation

theorem Run.consistent
    {service : Service} {begin : Moment} {ids : Nat → String} (hids : ∀ number, ids number ≠ "")
    {history : List Entry} {state : State}
    (hrun : Run service (State.start begin ids) history state) (haddressed : Addressed history) :
    Consistent service history state.database := by
  refine Run.invariant rfl (fun history db => Addressed history → Consistent service history db)
    ?_ ?_ hrun haddressed
  · exact fun _ => consistent_empty service
  · rintro history db ⟨now, call, outcome⟩ later hprevious ⟨ids', heffect, hoffers⟩ haddressed
    have hconsistent := hprevious (haddressed.of_append [_])
    have haddress := haddressed ⟨now, call, outcome⟩ (by simp)
    have htexts : ∀ text, ids'.Offers text → text ≠ "" := by
      intro text htext
      rcases hoffers text htext with hfixed | ⟨number, rfl⟩
      · cases hfixed
      · exact hids number
    exact
      { accounts := hconsistent.step_accounts heffect haddress
        owners := heffect.owners hconsistent.owners
        genuine := hconsistent.step_genuine heffect htexts
        opened := hconsistent.step_opened heffect
        kept := hconsistent.step_kept heffect }

end AccountSessions
