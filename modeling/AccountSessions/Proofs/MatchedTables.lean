import AccountSessions.Proofs.Tables
import Mathlib.Data.List.Forall2

/-!
# Databases that match up to hashes

The databases have the same rows, except that the hashes of their accounts may differ as
a relation allows.  No lookup and no change of a table looks at a hash, so what is found
in both matches, and what is changed alike matches again.
-/

namespace AccountSessions

/-- The accounts differ at most in their hashes, which are related. -/
def Account.Matches (hashes : String → String → Prop) (account other : Account) : Prop :=
  ∃ hash, hashes account.passwordHash hash ∧ other = { account with passwordHash := hash }

/-- The test does not look at the hash of an account. -/
def Account.Blind {α : Type} (test : Account → α) : Prop :=
  ∀ account hash, test { account with passwordHash := hash } = test account

section Rows

variable {hashes : String → String → Prop} {accounts others : List Account}
  (hmatch : List.Forall₂ (Account.Matches hashes) accounts others)

include hmatch

theorem map_of_matches {α : Type} {column : Account → α} (hblind : Account.Blind column) :
    others.map column = accounts.map column := by
  induction hmatch with
  | nil => rfl
  | cons hrow hrest ih =>
      obtain ⟨hash, -, rfl⟩ := hrow
      rw [List.map_cons, List.map_cons, hblind, ih]

theorem any_of_matches {test : Account → Bool} (hblind : Account.Blind test) :
    others.any test = accounts.any test := by
  have hcolumn := map_of_matches hmatch hblind
  simpa [List.any_map] using congrArg (·.any id) hcolumn

theorem find?_of_matches {test : Account → Bool} (hblind : Account.Blind test) :
    Option.Rel (Account.Matches hashes) (accounts.find? test) (others.find? test) := by
  induction hmatch with
  | nil => exact .none
  | @cons account other _ _ hrow hrest ih =>
      obtain ⟨hash, hrelated, rfl⟩ := hrow
      rw [List.find?_cons, List.find?_cons, hblind account hash]
      cases test account with
      | true => exact .some ⟨hash, hrelated, rfl⟩
      | false => exact ih

end Rows

namespace Database

theorem addAccount?_of_isTaken
    {db : Database} {username email hash name : String} {now : Moment}
    (htaken : db.isTaken username email = true) :
    db.addAccount?
      { username := some username
        email := some email
        passwordHash := some hash
        name := some name
        emailVerified := false
        isActive := true } now = none := by
  simp [addAccount?, htaken]

theorem addAccount?_of_free
    {db : Database} {username email : String} (hfree : db.isTaken username email = false)
    (hash name : String) (now : Moment) :
    db.addAccount?
      { username := some username
        email := some email
        passwordHash := some hash
        name := some name
        emailVerified := false
        isActive := true } now =
      some (nextId (db.accounts.map (·.id)), { db with
        accounts := db.accounts ++ [⟨nextId (db.accounts.map (·.id)), username, email, hash, name,
          false, true, none, now, now⟩] }) := by
  simp [addAccount?, hfree]

/-- The databases have the same records, and accounts that differ at most in their
hashes. -/
structure Matches (hashes : String → String → Prop) (db other : Database) : Prop where
  accounts : List.Forall₂ (Account.Matches hashes) db.accounts other.accounts
  records : other.records = db.records

namespace Matches

theorem refl {hashes : String → String → Prop} (hrefl : ∀ hash, hashes hash hash) (db : Database) :
    db.Matches hashes db :=
  ⟨List.forall₂_same.mpr fun account _ => ⟨account.passwordHash, hrefl _, rfl⟩, rfl⟩

theorem eq {db other : Database} (hmatch : db.Matches Eq other) : other = db := by
  have hrows : db.accounts = other.accounts := by
    rw [← List.forall₂_eq_eq_eq]
    refine hmatch.accounts.imp ?_
    rintro account _ ⟨_, rfl, rfl⟩
    rfl
  obtain ⟨accounts, records⟩ := other
  rw [show accounts = db.accounts from hrows.symm, show records = db.records from hmatch.records]

variable {hashes : String → String → Prop} {db other : Database} (hmatch : db.Matches hashes other)

include hmatch

/-! ### Lookups -/

theorem isTaken_eq (username email : String) :
    other.isTaken username email = db.isTaken username email :=
  any_of_matches hmatch.accounts fun _ _ => rfl

theorem hasAccount_eq (id : Int) : other.hasAccount id = db.hasAccount id :=
  any_of_matches hmatch.accounts fun _ _ => rfl

theorem nextId_eq : nextId (other.accounts.map (·.id)) = nextId (db.accounts.map (·.id)) := by
  rw [map_of_matches hmatch.accounts (fun _ _ => rfl)]

theorem account? (id : Int) :
    Option.Rel (Account.Matches hashes) (db.account? id) (other.account? id) :=
  find?_of_matches hmatch.accounts fun _ _ => rfl

theorem accountOf? (identifier : String) :
    Option.Rel (Account.Matches hashes) (db.accountOf? identifier)
      (other.accountOf? identifier) := by
  have hblindName : Account.Blind (·.username == identifier) := fun _ _ => rfl
  have hblindEmail : Account.Blind (·.email == identifier) := fun _ _ => rfl
  have hnamed := find?_of_matches hmatch.accounts hblindName
  have haddressed := find?_of_matches hmatch.accounts hblindEmail
  unfold Database.accountOf?
  revert hnamed
  generalize db.accounts.find? (·.username == identifier) = named
  generalize other.accounts.find? (·.username == identifier) = otherNamed
  intro hnamed
  cases hnamed with
  | some hrow => exact .some hrow
  | none => exact haddressed

theorem record?_eq (token : String) : other.record? token = db.record? token := by
  rw [record?, hmatch.records, ← record?]

theorem liveRecord?_eq (token : String) (now : Moment) :
    other.liveRecord? token now = db.liveRecord? token now := by
  rw [liveRecord?, hmatch.records, ← liveRecord?]

theorem countOpen_eq (test : SessionRecord → Bool) : other.countOpen test = db.countOpen test := by
  rw [countOpen, hmatch.records, ← countOpen]

theorem countSpent_eq (now : Moment) : other.countSpent now = db.countSpent now := by
  rw [countSpent, hmatch.records, ← countSpent]

theorem recordsOf_eq (userId : Int) : other.recordsOf userId = db.recordsOf userId := by
  rw [recordsOf, hmatch.records, ← recordsOf]

/-! ### Changes -/

/-- The accounts get hashes of their own. -/
theorem addAccount?
    (username email name : String) {hash otherHash : String} (hrelated : hashes hash otherHash)
    (now : Moment) :
    let new (hash : String) : NewAccount :=
      { username := some username
        email := some email
        passwordHash := some hash
        name := some name
        emailVerified := false
        isActive := true }
    (db.addAccount? (new hash) now = none ∧ other.addAccount? (new otherHash) now = none) ∨
      ∃ id added otherAdded, db.addAccount? (new hash) now = some (id, added) ∧
        other.addAccount? (new otherHash) now = some (id, otherAdded) ∧
        added.Matches hashes otherAdded := by
  intro new
  have hsame := hmatch.isTaken_eq username email
  cases htaken : db.isTaken username email with
  | true =>
      rw [htaken] at hsame
      exact .inl ⟨addAccount?_of_isTaken htaken, addAccount?_of_isTaken hsame⟩
  | false =>
      rw [htaken] at hsame
      have hother := addAccount?_of_free hsame otherHash name now
      rw [hmatch.nextId_eq] at hother
      refine .inr ⟨_, _, _, addAccount?_of_free htaken hash name now, hother, ?_, hmatch.records⟩
      exact List.rel_append hmatch.accounts (.cons ⟨otherHash, hrelated, rfl⟩ .nil)

/-- The change neither looks at a hash nor touches one. -/
theorem changeAccount
    (id : Int) {change : Account → Account}
    (hblind : ∀ account hash, change { account with passwordHash := hash } =
      { change account with passwordHash := hash })
    (hkeeps : ∀ account, (change account).passwordHash = account.passwordHash) :
    (db.changeAccount id change).Matches hashes (other.changeAccount id change) := by
  refine ⟨?_, hmatch.records⟩
  refine List.forall₂_map_left_iff.mpr (List.forall₂_map_right_iff.mpr ?_)
  refine hmatch.accounts.imp ?_
  rintro account _ ⟨hash, hrelated, rfl⟩
  by_cases hid : account.id = id
  · rw [if_pos hid, if_pos hid]
    exact ⟨hash, (hkeeps account).symm ▸ hrelated, hblind account hash⟩
  · rw [if_neg hid, if_neg hid]
    exact ⟨hash, hrelated, rfl⟩

theorem markVerified (id : Int) (now : Moment) :
    (db.markVerified id now).Matches hashes (other.markVerified id now) :=
  hmatch.changeAccount id (fun _ _ => rfl) fun _ => rfl

theorem setActive (id : Int) (active : Bool) (now : Moment) :
    (db.setActive id active now).Matches hashes (other.setActive id active now) :=
  hmatch.changeAccount id (fun _ _ => rfl) fun _ => rfl

theorem stampLogin (id : Int) (moment : Moment) :
    (db.stampLogin id moment).Matches hashes (other.stampLogin id moment) :=
  hmatch.changeAccount id (fun _ _ => rfl) fun _ => rfl

theorem withRecords (records : List SessionRecord) :
    Matches hashes { db with records } { other with records } :=
  ⟨hmatch.accounts, rfl⟩

theorem addRecord? (userId : Int) (token : String) (expires now : Moment) :
    (db.addRecord? userId token expires now = none ∧
        other.addRecord? userId token expires now = none) ∨
      ∃ id added otherAdded, db.addRecord? userId token expires now = some (id, added) ∧
        other.addRecord? userId token expires now = some (id, otherAdded) ∧
        added.Matches hashes otherAdded := by
  have hother : other.addRecord? userId token expires now =
      (db.addRecord? userId token expires now).map fun row =>
        (row.1, { other with records := row.2.records }) := by
    simp only [Database.addRecord?, hmatch.hasAccount_eq, hmatch.record?_eq, hmatch.records,
      apply_ite (Option.map _), Option.map_some, Option.map_none]
  cases hadd : db.addRecord? userId token expires now with
  | none => exact .inl ⟨rfl, by rw [hother, hadd]; rfl⟩
  | some row =>
      rw [hadd] at hother
      refine .inr ⟨row.1, row.2, _, rfl, hother, ?_⟩
      obtain ⟨-, hadded⟩ := Database.addRecord?_eq_some hadd
      rw [hadded]
      exact hmatch.withRecords _

theorem revokeWhere (test : SessionRecord → Bool) (now : Moment) :
    (db.revokeWhere test now).Matches hashes (other.revokeWhere test now) := by
  rw [Database.revokeWhere, Database.revokeWhere, hmatch.records]
  exact hmatch.withRecords _

theorem sweep (now : Moment) : (db.sweep now).Matches hashes (other.sweep now) := by
  rw [Database.sweep, Database.sweep, hmatch.records]
  exact hmatch.withRecords _

end Matches

end Database

end AccountSessions
