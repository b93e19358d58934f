import AccountSessions.Proofs.Deployments
import AccountSessions.Proofs.Rows

/-!
# Reached states

What holds of every state that deeds lead to from an empty database.  The ids of accounts
count up from one and fit their column.  The supply of token ids is the one that was laid
down, and as long as it does not repeat itself a new refresh token is stored nowhere.
Every record has a token that was signed for the id and the address of its owner.
-/

namespace AccountSessions

/-! ## Ids of accounts -/

namespace Database

/-- The numbers from one up to the count. -/
def numbers (count : Nat) : List Int :=
  (List.range count).map fun number : Nat => (number : Int) + 1

theorem numbers_succ (count : Nat) :
    numbers (count + 1) = numbers count ++ [(count : Int) + 1] := by
  rw [numbers, List.range_succ, List.map_append, List.map_singleton, ← numbers]

theorem nextId_numbers (count : Nat) : nextId (numbers count) = count + 1 := by
  have hgreatest : (numbers count).foldl max 0 = count := by
    induction count with
    | zero => rfl
    | succ count ih =>
        rw [numbers_succ, List.foldl_append, ih]
        simp
  rw [nextId, hgreatest]

/-- The greatest id that fits its column. -/
def greatestId : Nat := 9223372036854775807

def Consecutive (db : Database) : Prop :=
  db.accounts.map (·.id) = numbers db.accounts.length

namespace Consecutive

variable {db later : Database} (hconsecutive : db.Consecutive)

include hconsecutive

theorem nextId_eq : nextId (db.accounts.map (·.id)) = db.accounts.length + 1 := by
  rw [hconsecutive, nextId_numbers]

theorem bounds {account : Account} (hmem : account ∈ db.accounts) :
    0 < account.id ∧ account.id ≤ db.accounts.length := by
  have hid : account.id ∈ db.accounts.map (·.id) := List.mem_map_of_mem hmem
  rw [hconsecutive] at hid
  obtain ⟨number, hnumber, hsame⟩ := List.mem_map.mp hid
  have hbelow := List.mem_range.mp hnumber
  omega

theorem amend (hamends : Amends db later) : later.Consecutive := by
  have hsame : db.accounts = later.accounts → later.Consecutive := by
    intro haccounts
    rw [Consecutive, ← haccounts]
    exact hconsecutive
  cases hamends with
  | enlisted hadd =>
      have hnext := id_of_addAccount? hadd
      obtain ⟨account, rfl, hid, -⟩ := exists_of_addAccount? hadd
      rw [hconsecutive.nextId_eq, ← hid] at hnext
      rw [Consecutive, List.map_append, hconsecutive, List.map_singleton, hnext, List.length_append,
        List.length_singleton, numbers_succ]
  | altered hchange id =>
      rw [Consecutive, map_changeAccount fun account => (hchange account).id, hconsecutive,
        changeAccount, List.length_map]
  | opened hadd =>
      obtain ⟨record, rfl, -⟩ := exists_of_addRecord? hadd
      exact hsame rfl
  | revoked test now => exact hsame rfl

theorem of_amends (hsteps : Relation.ReflTransGen Amends db later) : later.Consecutive := by
  induction hsteps with
  | refl => exact hconsecutive
  | tail _ hamends ih => exact ih.amend hamends

/-- The table is full when all ids of its column are taken. -/
theorem isFull_eq_false_iff : Store.isFull db = false ↔ db.accounts.length < greatestId := by
  rw [Store.isFull, Store.fitsColumn, WholeNumber.fitsWord, hconsecutive.nextId_eq, greatestId]
  simp only [Bool.not_eq_false', Bool.and_eq_true, decide_eq_true_eq]
  omega

end Consecutive

end Database

theorem Effect.consecutive
    {service : Service} {ids : TokenIds} {now : Moment} {db later : Database} {call : Call}
    {outcome : Except Failure Answer} (heffect : Effect service ids now db call outcome later)
    (hconsecutive : db.Consecutive) :
    later.Consecutive := by
  rcases heffect.amends with hsteps | rfl
  · exact hconsecutive.of_amends hsteps
  · exact hconsecutive

/-! ## Addresses of owners -/

/-- The token of the record was signed for the id and the address of the account. -/
structure Token.Grant.Entitles (grant : Token.Grant) (issuer : Token.Issuer) (owner : Account)
    (record : SessionRecord) : Prop extends grant.Backs issuer record where
  id : owner.id = record.userId
  email : owner.email = grant.email

theorem Token.Grant.Entitles.account?_eq
    {issuer : Token.Issuer} {db : Database} (hintegral : db.Integral) {grant : Token.Grant}
    {owner : Account} {record : SessionRecord} (hentitles : grant.Entitles issuer owner record)
    (howner : owner ∈ db.accounts) :
    db.account? record.userId = some owner := by
  rw [← hentitles.id]
  exact find?_eq_of_nodup hintegral.accountIds howner

def Entitled (service : Service) (db : Database) : Prop :=
  ∀ record ∈ db.records, ∃ owner ∈ db.accounts, ∃ grant : Token.Grant,
    grant.Entitles service.issuer owner record

theorem Effect.entitled
    {service : Service} {ids : TokenIds} {now : Moment} {db later : Database} {call : Call}
    {outcome : Except Failure Answer} (heffect : Effect service ids now db call outcome later)
    (hentitled : Entitled service db) :
    Entitled service later := by
  intro record hmem
  rcases heffect.mem_records hmem with ⟨old, hold, hsame⟩ | ⟨account, tokenId, hfresh⟩
  · obtain ⟨owner, howner, grant, hentitles⟩ := hentitled old hold
    obtain ⟨kept, hkept, hcontinues⟩ := heffect.retains_accounts owner howner
    exact ⟨kept, hkept, grant, hentitles.toBacks.of_sameLogin hsame,
      (hcontinues.id.trans hentitles.id).trans hsame.userId.symm,
      hcontinues.email.trans hentitles.email⟩
  · obtain ⟨kept, hkept, hcontinues⟩ := heffect.retains_accounts account hfresh.stored
    exact ⟨kept, hkept, _, hfresh.exists_backs, hcontinues.id.trans hfresh.owner.symm,
      hcontinues.email⟩

/-! ## Deeds -/

/-- What every call of the service keeps, and every administrative call of any service, is
kept by rows of deeds. -/
theorem Reached.keeps
    {service : Service} {start state : State} (inv : State → Prop)
    (hundisturbed : ∀ state, inv state → state.disturbances = [])
    (hquiet : ∀ (state : State) (moment : Moment) (later : State), inv state →
      Follows { state with now := moment } state.database later → inv later)
    (hcall : ∀ call : Call, Keeps inv (call.perform service))
    (hmade : ∀ (user : Service) (call : Call), call.Administrative →
      Keeps inv (call.perform user))
    (hreached : Reached service start state) (hstart : inv start) :
    inv state := by
  induction hreached with
  | start => exact hstart
  | @deed state hreached moment deed ih =>
      cases deed with
      | call made => exact hcall made _ (hquiet state moment _ ih (.refl _))
      | command settings arguments =>
          exact Deed.keeps_command hundisturbed hquiet ih
            (fun user call hmakes => hmade user call (Console.administrative_of_call? hmakes))
            moment

namespace Supplied

variable {start state : State}

theorem of_follows
    (hsupplied : Supplied start state) {moment : Moment} {database : Database} {later : State}
    (hfollows : Follows { state with now := moment } database later) :
    Supplied start later :=
  ⟨hfollows.disturbances.trans hsupplied.undisturbed, hfollows.fixed.trans hsupplied.fixed,
    hfollows.text.trans hsupplied.text⟩

theorem keeps (user : Service) (call : Call) : Keeps (Supplied start) (call.perform user) := by
  intro state hsupplied
  obtain ⟨-, hfollows⟩ := (effect_of_perform hsupplied.undisturbed user call).apply
  exact @of_follows start state hsupplied state.now _ _ hfollows

end Supplied

/-- The supply of token ids is as it was laid down, and all ids of accounts fit. -/
structure Fitting (start state : State) : Prop extends Supplied start state where
  fits : ∀ account ∈ state.database.accounts, Store.fitsColumn account.id = true

/-- An id beyond its column is not given out. -/
theorem fits_step
    {state : State} (hundisturbed : state.disturbances = [])
    (hfits : ∀ account ∈ state.database.accounts, Store.fitsColumn account.id = true)
    (service : Service) (moment : Moment) (call : Call) :
    ∀ account ∈ (step service state moment call).2.database.accounts,
      Store.fitsColumn account.id = true := by
  have hcalm : ({ state with now := moment } : State).disturbances = [] := hundisturbed
  obtain ⟨heffect, -⟩ := step_effect hundisturbed service moment call
  rcases heffect.accounts with ⟨change, hkeeps, hlater⟩ | ⟨added, -, -, username,
    password, name, rfl⟩
  · intro account hmem
    rw [hlater] at hmem
    obtain ⟨old, hold, rfl⟩ := List.mem_map.mp hmem
    rw [hkeeps.id]
    exact hfits old hold
  · have hends : Ends ((Call.register username added.email password name).perform service)
        { state with now := moment } fun _ database =>
          ∀ account ∈ database.accounts, Store.fitsColumn account.id = true := by
      apply (Service.ends_registration hcalm service username added.email password
        name).map
      rintro outcome database (⟨-, rfl⟩ | ⟨_, hash, id, account, -, hcolumn, hadd, -, -⟩)
      · exact hfits
      · obtain ⟨-, hrows⟩ := Database.addAccount?_eq_row hadd
        intro account hmem
        rw [hrows] at hmem
        rcases List.mem_append.mp hmem with hold | hnew
        · exact hfits account hold
        · rw [List.mem_singleton.mp hnew]
          exact hcolumn
    exact hends.apply.1

namespace Reached

section Anywhere

variable {service : Service} {start state : State} (hreached : Reached service start state)
  (hundisturbed : start.disturbances = []) (hempty : start.database = .empty)

include hreached hundisturbed hempty

theorem fitting : Fitting start state := by
  have hkeeps (user : Service) (call : Call) : Keeps (Fitting start) (call.perform user) := by
    intro state hfitting
    exact ⟨Supplied.keeps user call state hfitting.toSupplied,
      fits_step hfitting.undisturbed hfitting.fits user state.now call⟩
  refine hreached.keeps (Fitting start) (fun _ hfitting => hfitting.undisturbed) ?_
    (hkeeps service) (fun user call _ => hkeeps user call) ?_
  · intro state moment later hfitting hfollows
    refine ⟨hfitting.toSupplied.of_follows hfollows, ?_⟩
    rw [hfollows.database]
    exact hfitting.fits
  · refine ⟨⟨hundisturbed, rfl, rfl⟩, ?_⟩
    rw [hempty]
    exact fun _ hmem => (List.not_mem_nil hmem).elim

theorem integral : state.database.Integral :=
  hreached.invariant hundisturbed Database.Integral (hempty ▸ .empty)
    fun _ _ _ _ _ _ hintegral heffect => heffect.integral hintegral

theorem consecutive : state.database.Consecutive :=
  hreached.invariant hundisturbed Database.Consecutive (hempty ▸ rfl)
    fun _ _ _ _ _ _ hconsecutive heffect => heffect.consecutive hconsecutive

theorem entitled : Entitled service state.database :=
  hreached.invariant hundisturbed (Entitled service)
    (hempty ▸ fun _ hmem => (List.not_mem_nil hmem).elim)
    fun _ _ _ _ _ _ hentitled heffect => heffect.entitled hentitled

end Anywhere

variable {service : Service} {begin : Moment} {ids : Nat → String} {state : State}
  (hreached : Reached service (State.start begin ids) state)

include hreached

theorem twins (hids : Function.Injective ids) : Twins service ids state state :=
  hreached.keeps (fun state => Twins service ids state state)
    (fun _ htwins => htwins.undisturbed) (fun _ _ _ htwins hfollows => htwins.of_follows hfollows)
    (fun call _ htwins => htwins.perform hids call)
    (fun user _ hcall _ htwins => htwins.perform_administrative user hcall)
    (Deployed.start service begin ids).twins

theorem numberedBelow (hids : Function.Injective ids) :
    NumberedBelow service ids (state.tokenIds.drawn + 1) state.database :=
  (hreached.twins hids).databases.below

end Reached

end AccountSessions
