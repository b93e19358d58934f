import AccountSessions.Proofs.PasswordRoundTrip
import AccountSessions.Proofs.SessionCalls

/-!
# Registrations and logins that succeed

A registration with free names and a password that fits passes all its checks.  So does a
login when the account that it finds is verified and active and accepts the password.  Its
tokens get numbers that were never drawn before, so its record does not clash with another
one, whatever records there are.
-/

namespace AccountSessions

/-- The account is found under the identifier and can be entered with the password. -/
structure Admits (db : Database) (identifier password : String) (account : Account) : Prop where
  found : db.accountOf? identifier = some account
  fits : Store.fitsColumn account.id = true
  verified : account.emailVerified = true
  active : account.isActive = true
  accepts : Password.verify password account.passwordHash = true

namespace Service

open Operation

variable {state : State}

/-! ## Registrations -/

theorem ends_register_accepted
    (hundisturbed : state.disturbances = []) (service : Service) {username email password : String}
    (hpolicy : service.policy.check password = none)
    (hhash : ∀ salt, ∃ hash, Password.hash service.hasher.rounds salt password = .ok hash)
    (hfree : state.database.isTaken username email = false)
    (hroom : Store.isFull state.database = false) (name : String) :
    Ends (service.register username email password name) state fun outcome _ =>
      ∃ account, outcome = .ok account := by
  apply (ends_registration_outcome hundisturbed service username email password name).mono
  intro outcome database houtcome
  cases houtcome with
  | weak hweak => exact nomatch hpolicy.symm.trans hweak
  | taken _ htaken => exact nomatch hfree.symm.trans htaken
  | unhashed _ _ hfails =>
      obtain ⟨hash, hmade⟩ := hhash _
      exact nomatch hmade.symm.trans hfails
  | full _ _ hfull => exact nomatch hroom.symm.trans hfull
  | enlisted _ _ henlisted =>
      obtain ⟨_, _, _, account, -, -, -, -, rfl⟩ := henlisted
      exact ⟨_, rfl⟩

/-! ## Logins -/

/-- Whoever may log in gets a session if tokens can be issued. -/
theorem opens_of_admits
    {service : Service} {ids : Nat → String} (htwins : Twins service ids state state)
    (hids : Function.Injective ids) {identifier password : String} {account : Account}
    (hadmits : Admits state.database identifier password account)
    (hissues : ∀ kind tokenId, ∃ token,
      service.issuer.issue kind state.now tokenId account.id (some account.email) = .ok token) :
    let result := exec (service.login identifier password) state
    OpeningEnd service state account result ∧ ∃ session, result.1 = .ok session := by
  intro result
  have hopening : OpeningEnd service state account result :=
    (exec_login htwins.undisturbed service identifier password).of_admitted hadmits.found
      hadmits.verified hadmits.accepts hadmits.active
  have hhas : state.database.hasAccount account.id = true :=
    Database.hasAccount_eq_true.mpr ⟨account, Database.mem_of_accountOf? hadmits.found, rfl⟩
  have hnext : state.tokenIds.rest.next = ids (state.tokenIds.drawn + 2) := by
    rw [TokenIds.next_rest_of_unfixed htwins.fixed, htwins.text]
  obtain ⟨accessToken, haccess⟩ := hissues .access state.tokenIds.next
  obtain ⟨refreshToken, hrefresh⟩ := hissues .refresh state.tokenIds.rest.next
  refine ⟨hopening, (hopening.opens_iff hadmits.fits hhas).mpr
    ⟨accessToken, refreshToken, haccess, hrefresh, ?_⟩⟩
  rw [hnext] at hrefresh
  have hbelow := htwins.databases.below.mono (Nat.le_succ (state.tokenIds.drawn + 1))
  exact hbelow.ne_of_issue hids hrefresh

end Service

end AccountSessions
