import AccountSessions.Proofs.Rows
import AccountSessions.Proofs.StoreCalls

/-!
# Runs of the store

The two tables under any row of store calls, with any arguments and a clock that may
move either way.  Keys stay distinct, owners stay, and no row changes what it was made
with; only a sweep takes records away, and only those that are revoked or expired then.
-/

namespace AccountSessions.Store

open Operation

inductive Act where
  | createAccount (new : NewAccount)
  | accountExists (username email : String)
  | accountById (id : Int)
  | accountByIdentifier (identifier : String)
  | countAccounts
  | markVerified (id : Int)
  | setActive (id : Int) (active : Bool)
  | stampLogin (id : Int) (moment : Option Moment)
  | ping
  | createRecord (userId : Int) (token : String) (expiresAt : Moment)
  | liveRecord (token : String)
  | revokeRecord (token : String)
  | revokeAllRecords (userId : Int)
  | sweepRecords
  | findRecord (token : String)
  | listRecords (userId : Int)

namespace Act

def perform : Act → Operation Unit
  | createAccount new => (fun _ => ()) <$> Store.createAccount new
  | accountExists username email => (fun _ => ()) <$> Store.accountExists username email
  | accountById id => (fun _ => ()) <$> Store.accountById id
  | accountByIdentifier identifier => (fun _ => ()) <$> Store.accountByIdentifier identifier
  | countAccounts => (fun _ => ()) <$> Store.countAccounts
  | markVerified id => (fun _ => ()) <$> Store.markVerified id
  | setActive id active => (fun _ => ()) <$> Store.setActive id active
  | stampLogin id moment => (fun _ => ()) <$> Store.stampLogin id moment
  | ping => (fun _ => ()) <$> Store.ping
  | createRecord userId token expiresAt =>
    (fun _ => ()) <$> Store.createRecord userId token expiresAt
  | liveRecord token => (fun _ => ()) <$> Store.liveRecord token
  | revokeRecord token => (fun _ => ()) <$> Store.revokeRecord token
  | revokeAllRecords userId => (fun _ => ()) <$> Store.revokeAllRecords userId
  | sweepRecords => (fun _ => ()) <$> Store.sweepRecords
  | findRecord token => (fun _ => ()) <$> Store.findRecord token
  | listRecords userId => (fun _ => ()) <$> Store.listRecords userId

/-- What an act can make of the tables. -/
inductive Leaves (now : Moment) (db : Database) : Act → Database → Prop where
  | same (act : Act) : Leaves now db act db
  | amended {act : Act} {later : Database} (hamends : db.Amends later) : Leaves now db act later
  | swept : Leaves now db .sweepRecords (db.sweep now)

end Act

/-- The state after acts, each at its own moment. -/
def after (state : State) (acts : List (Moment × Act)) : State :=
  acts.foldl (fun state entry => (exec entry.2.perform { state with now := entry.1 }).2) state

/-! ## One act -/

theorem rests_of_yields
    {α : Type} {state : State} {operation : Operation α} {outcome : Except Failure α}
    {database : Database} (hyields : Yields operation state outcome database) {act : Act}
    (hleaves : act.Leaves state.now state.database database) :
    Rests ((fun _ => ()) <$> operation) state fun _ later =>
      act.Leaves state.now state.database later := by
  have hrests : Rests operation state fun _ later => act.Leaves state.now state.database later :=
    hyields.endsBy hleaves
  exact hrests.map fun _ _ h => h

theorem leaves_of_perform
    {state : State} (hundisturbed : state.disturbances = []) (act : Act) :
    Rests act.perform state fun _ later => act.Leaves state.now state.database later := by
  cases act with
  | createAccount new =>
      by_cases hfull : isFull state.database = true
      · exact rests_of_yields (yields_createAccount_full hundisturbed hfull) (.same _)
      cases hadd : state.database.addAccount? new state.now with
      | none => exact rests_of_yields (yields_createAccount_taken hundisturbed hfull hadd) (.same _)
      | some row =>
          exact rests_of_yields (yields_createAccount hundisturbed hfull hadd)
            (.amended (.enlisted hadd))
  | accountExists username email =>
      exact rests_of_yields (yields_accountExists hundisturbed username email) (.same _)
  | accountById id =>
      by_cases hfits : fitsColumn id = true
      · exact rests_of_yields (yields_accountById hundisturbed hfits) (.same _)
      · exact rests_of_yields (yields_overflow hundisturbed hfits) (.same _)
  | accountByIdentifier identifier =>
      exact rests_of_yields (yields_accountByIdentifier hundisturbed identifier) (.same _)
  | countAccounts => exact rests_of_yields (yields_countAccounts hundisturbed) (.same _)
  | markVerified id =>
      by_cases hfits : fitsColumn id = true
      · exact rests_of_yields (yields_markVerified hundisturbed hfits)
          (.amended (.altered (fun account => .verify account state.now) id))
      · exact rests_of_yields (yields_overflow hundisturbed hfits) (.same _)
  | setActive id active =>
      by_cases hfits : fitsColumn id = true
      · exact rests_of_yields (yields_setActive hundisturbed hfits active)
          (.amended (.altered (fun account => .activate account active state.now) id))
      · exact rests_of_yields (yields_overflow hundisturbed hfits) (.same _)
  | stampLogin id moment =>
      by_cases hfits : fitsColumn id = true
      · exact rests_of_yields (yields_stampLogin hundisturbed hfits moment)
          (.amended (.altered (fun account => .stamp account (moment.getD state.now)) id))
      · exact rests_of_yields (yields_stampLogin_overflow hundisturbed hfits moment) (.same _)
  | ping => exact rests_of_yields (yields_ping hundisturbed) (.same _)
  | createRecord userId token expiresAt =>
      by_cases hfits : fitsColumn userId = true
      · cases hadd : state.database.addRecord? userId token expiresAt state.now with
        | none =>
            exact rests_of_yields (yields_createRecord_taken hundisturbed hfits hadd) (.same _)
        | some row =>
            exact rests_of_yields (yields_createRecord hundisturbed hfits hadd)
              (.amended (.opened hadd))
      · exact rests_of_yields (yields_overflow hundisturbed hfits) (.same _)
  | liveRecord token => exact rests_of_yields (yields_liveRecord hundisturbed token) (.same _)
  | revokeRecord token =>
      by_cases hopen : state.database.countOpen (·.token == token) = 0
      · exact rests_of_yields (yields_revokeRecord_none hundisturbed hopen) (.same _)
      · exact rests_of_yields (yields_revokeRecord hundisturbed hopen)
          (.amended (.revoked _ state.now))
  | revokeAllRecords userId =>
      by_cases hfits : fitsColumn userId = true
      · exact rests_of_yields (yields_revokeAllRecords hundisturbed hfits)
          (.amended (.revoked _ state.now))
      · exact rests_of_yields (yields_overflow hundisturbed hfits) (.same _)
  | sweepRecords => exact rests_of_yields (yields_sweepRecords hundisturbed) .swept
  | findRecord token => exact rests_of_yields (yields_findRecord hundisturbed token) (.same _)
  | listRecords userId =>
      by_cases hfits : fitsColumn userId = true
      · exact rests_of_yields (yields_listRecords hundisturbed hfits) (.same _)
      · exact rests_of_yields (yields_overflow hundisturbed hfits) (.same _)

theorem step_leaves
    {state : State} (hundisturbed : state.disturbances = []) (entry : Moment × Act) :
    entry.2.Leaves entry.1 state.database (after state [entry]).database ∧
      (after state [entry]).disturbances = [] := by
  have hcalm : ({ state with now := entry.1 } : State).disturbances = [] := hundisturbed
  obtain ⟨hleaves, hfollows⟩ := (leaves_of_perform hcalm entry.2).apply
  exact ⟨hleaves, hfollows.disturbances.trans hundisturbed⟩

namespace Act.Leaves

variable {now : Moment} {db later : Database} {act : Act} (hleaves : act.Leaves now db later)

include hleaves

theorem integral (hintegral : db.Integral) : later.Integral := by
  cases hleaves with
  | same => exact hintegral
  | amended hamends => exact hamends.integral hintegral
  | swept => exact hintegral.sweep now

theorem accounts : ∀ old ∈ db.accounts, ∃ kept ∈ later.accounts, kept.Continues old := by
  cases hleaves with
  | same => exact (Database.Retains.refl db).accounts
  | amended hamends => exact hamends.retains.accounts
  | swept => exact (Database.Retains.refl db).accounts

theorem records {old : SessionRecord} (hold : old ∈ db.records) :
    (∃ kept ∈ later.records, kept.Continues old) ∨
      act = .sweepRecords ∧ old.isSpent now = true := by
  cases hleaves with
  | same => exact .inl ⟨old, hold, .refl old⟩
  | amended hamends => exact .inl (hamends.retains.records old hold)
  | swept =>
      cases hspent : old.isSpent now with
      | false => exact .inl ⟨old, Database.mem_sweep.mpr ⟨hold, hspent⟩, .refl old⟩
      | true => exact .inr ⟨rfl, rfl⟩

end Act.Leaves

/-! ## Rows of acts -/

/-- What becomes of a record: it is kept, or a sweep takes it away when it is revoked or
expired. -/
inductive Fate (state : State) (acts : List (Moment × Act)) (old : SessionRecord) : Prop where
  | kept {record : SessionRecord} (hmem : record ∈ (after state acts).database.records)
      (hcontinues : record.Continues old)
  | swept (early late : List (Moment × Act)) {moment : Moment} {record : SessionRecord}
      (hacts : acts = early ++ (moment, .sweepRecords) :: late)
      (hmem : record ∈ (after state early).database.records) (hcontinues : record.Continues old)
      (hspent : record.isSpent moment = true)

namespace Fate

variable {state : State} {acts : List (Moment × Act)} {old record : SessionRecord}

theorem of_later (hfate : Fate state acts record) (hcontinues : record.Continues old) :
    Fate state acts old := by
  cases hfate with
  | kept hmem hlater => exact .kept hmem (hlater.trans hcontinues)
  | swept early late hacts hmem hlater hspent =>
      exact .swept early late hacts hmem (hlater.trans hcontinues) hspent

theorem cons {entry : Moment × Act} (hfate : Fate (after state [entry]) acts old) :
    Fate state (entry :: acts) old := by
  cases hfate with
  | kept hmem hcontinues => exact .kept hmem hcontinues
  | swept early late hacts hmem hcontinues hspent =>
      refine .swept (entry :: early) late ?_ hmem hcontinues hspent
      rw [hacts, List.cons_append]

end Fate

section After

variable {state : State} (hundisturbed : state.disturbances = [])

include hundisturbed

theorem undisturbed_after (acts : List (Moment × Act)) : (after state acts).disturbances = [] := by
  induction acts generalizing state with
  | nil => exact hundisturbed
  | cons entry rest ih => exact ih (step_leaves hundisturbed entry).2

theorem integral_after (hintegral : state.database.Integral) (acts : List (Moment × Act)) :
    (after state acts).database.Integral := by
  induction acts generalizing state with
  | nil => exact hintegral
  | cons entry rest ih =>
      obtain ⟨hleaves, hcalm⟩ := step_leaves hundisturbed entry
      exact ih hcalm (hleaves.integral hintegral)

theorem accounts_after (acts : List (Moment × Act)) :
    ∀ old ∈ state.database.accounts, ∃ kept ∈ (after state acts).database.accounts,
      kept.Continues old := by
  induction acts generalizing state with
  | nil => exact (Database.Retains.refl state.database).accounts
  | cons entry rest ih =>
      obtain ⟨hleaves, hcalm⟩ := step_leaves hundisturbed entry
      intro old hold
      obtain ⟨next, hnext, hearly⟩ := hleaves.accounts old hold
      obtain ⟨kept, hkept, hlate⟩ := ih hcalm next hnext
      exact ⟨kept, hkept, hlate.trans hearly⟩

theorem fate_after (acts : List (Moment × Act)) :
    ∀ old ∈ state.database.records, Fate state acts old := by
  induction acts generalizing state with
  | nil => exact fun old hold => .kept hold (.refl old)
  | cons entry rest ih =>
      obtain ⟨moment, act⟩ := entry
      obtain ⟨hleaves, hcalm⟩ := step_leaves hundisturbed (moment, act)
      intro old hold
      rcases hleaves.records hold with ⟨next, hnext, hcontinues⟩ | ⟨rfl, hspent⟩
      · exact (Fate.of_later (ih hcalm next hnext) hcontinues).cons
      · exact .swept [] rest rfl hold (.refl old) hspent

end After

/-- After any acts the keys of both tables are distinct and every record has its owner;
from there on no account is lost, and no record but by a sweep that finds it spent. -/
theorem rows_endure (begin : Moment) (ids : Nat → String) (first second : List (Moment × Act)) :
    let middle := after (.start begin ids) first
    middle.database.Integral ∧
      (∀ old ∈ middle.database.accounts, ∃ kept ∈ (after middle second).database.accounts,
        kept.Continues old) ∧
      ∀ old ∈ middle.database.records, Fate middle second old := by
  have hstart : (State.start begin ids).disturbances = [] := rfl
  have hcalm := undisturbed_after hstart first
  exact ⟨integral_after rfl .empty first, accounts_after hcalm second, fate_after hcalm second⟩

/-- A session that is revoked and swept while the clock runs backwards. -/
theorem rows_endure_sweep :
    let ann : NewAccount := ⟨some "ann", some "a@b.org", some "hash", some "Ann", false, true⟩
    let first : List (Moment × Act) :=
      [({ micros := 5 }, .createAccount ann),
        ({ micros := 4 }, .createRecord 1 "token" { micros := 9 })]
    let middle := after (.start .epoch) first
    let second : List (Moment × Act) :=
      [({ micros := 3 }, .revokeRecord "token"), ({ micros := 2 }, .sweepRecords)]
    let session : SessionRecord := ⟨1, 1, "token", { micros := 9 }, { micros := 4 }, none⟩
    middle.database.records = [session] ∧ (after middle second).database.records = [] ∧
      middle.database.Integral ∧ Fate middle second session := by
  intro ann first middle second session
  obtain ⟨hintegral, -, hrecords⟩ := rows_endure .epoch Token.numberedId first second
  have hmiddle : middle.database.records = [session] := by decide +kernel
  refine ⟨hmiddle, by decide +kernel, hintegral, hrecords session ?_⟩
  exact hmiddle ▸ List.mem_cons_self

end AccountSessions.Store
