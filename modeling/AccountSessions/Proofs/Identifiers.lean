import AccountSessions.Proofs.RegisteredLogins
import AccountSessions.Proofs.Rows

/-!
# Identifiers

In a deployed service no user name is an address, so a caller's identifier stands for one
account at most.  Once it stands for an account it stands for this account for ever: no
later registration can take it over.
-/

namespace AccountSessions

namespace Named

variable {db : Database} (hnamed : Named db.accounts)

include hnamed

theorem username_ne_email
    {account other : Account} (hmem : account ∈ db.accounts) (hother : other ∈ db.accounts) :
    account.username ≠ other.email := by
  intro hsame
  exact (hnamed.unmixed account hmem).1 (hsame ▸ (hnamed.unmixed other hother).2)

theorem countP_identifier_le_one (identifier : String) :
    db.accounts.countP (fun account =>
      account.username == identifier || account.email == identifier) ≤ 1 := by
  have hfound {account : Account} (hmem : account ∈ db.accounts)
      (htest : (account.username == identifier || account.email == identifier) = true) :
      db.accountOf? identifier = some account := by
    rw [Bool.or_eq_true, beq_iff_eq, beq_iff_eq] at htest
    exact hnamed.accountOf?_eq hmem (htest.imp Eq.symm Eq.symm)
  cases hany : db.accountOf? identifier with
  | none =>
      rw [List.countP_eq_zero.mpr]
      · exact Nat.zero_le 1
      · intro account hmem htest
        rw [hfound hmem htest] at hany
        cases hany
  | some found =>
      have hcount := List.nodup_iff_count_le_one.mp (List.Nodup.of_map _ hnamed.ids) found
      refine Nat.le_trans ?_ hcount
      rw [List.count_eq_countP]
      apply List.countP_mono_left
      intro account hmem htest
      rw [hfound hmem htest] at hany
      injection hany with hsame
      exact beq_iff_eq.mpr hsame

/-- What an identifier stands for it stands for as long as the account is there. -/
theorem accountOf?_of_continues
    {old kept : Account} {identifier : String}
    (hidentifier : identifier = old.username ∨ identifier = old.email)
    (hmem : kept ∈ db.accounts) (hcontinues : kept.Continues old) :
    db.accountOf? identifier = some kept := by
  rw [← hcontinues.username, ← hcontinues.email] at hidentifier
  exact hnamed.accountOf?_eq hmem hidentifier

end Named

theorem Proceeds.retains_account
    {service : Service} {allowed : Database → Doing → Prop} {start state : State}
    (hproceeds : Proceeds service allowed start state) (hundisturbed : start.disturbances = [])
    {old : Account} (hold : old ∈ start.database.accounts) :
    ∃ kept ∈ state.database.accounts, kept.Continues old := by
  refine (hproceeds.keeps_database (fun db => ∃ kept ∈ db.accounts, kept.Continues old) ?_
    hundisturbed ⟨old, hold, .refl old⟩).2
  rintro user call - ids now db later outcome heffect ⟨middle, hmiddle, hearly⟩
  obtain ⟨kept, hkept, hlate⟩ := heffect.retains_accounts middle hmiddle
  exact ⟨kept, hkept, hlate.trans hearly⟩

/-- After any requests and command lines an identifier stands for one account at most, and
whatever comes next, it goes on to stand for the account it has once led to. -/
theorem identifier_stays
    {service : Service} {begin : Moment} {ids : Nat → String} {state : State}
    (hvisited : Visited service (State.start begin ids) state) :
    (∀ account ∈ state.database.accounts, ∀ other ∈ state.database.accounts,
      account.username ≠ other.email) ∧
    (∀ identifier, state.database.accounts.countP (fun account =>
      account.username == identifier || account.email == identifier) ≤ 1) ∧
    ∀ {identifier : String} {account : Account},
      (exec (Store.accountByIdentifier identifier) state).1 = .ok (some account) →
      ∀ {later : State}, Visited service state later →
        ∃ kept, (exec (Store.accountByIdentifier identifier) later).1 = .ok (some kept) ∧
          kept.Continues account := by
  have hcalm := hvisited.undisturbed rfl
  have hnamed := hvisited.named rfl .nil
  refine ⟨fun account hmem other hother => hnamed.username_ne_email hmem hother,
    hnamed.countP_identifier_le_one, ?_⟩
  intro identifier account hlookup later hlater
  rw [Store.exec_accountByIdentifier hcalm] at hlookup
  have hfound : state.database.accountOf? identifier = some account := Except.ok.inj hlookup
  obtain ⟨hmem, hidentifier⟩ := hnamed.accountOf?_eq_some.mp hfound
  obtain ⟨kept, hkept, hcontinues⟩ := hlater.retains_account hcalm hmem
  refine ⟨kept, ?_, hcontinues⟩
  rw [Store.exec_accountByIdentifier (hlater.undisturbed hcalm),
    (hlater.named hcalm hnamed).accountOf?_of_continues hidentifier hkept hcontinues]

/-- Ann registers, is verified and is still found when someone has tried to take her
address as a user name. -/
theorem identifier_stays_with_ann :
    let registration := Http.Request.posting "/api/v1/auth/register"
      [("username", "ann"), ("email", "a@b.org"), ("password", "p")]
    let rival := Http.Request.posting "/api/v1/auth/register"
      [("username", "a@b.org"), ("email", "c@b.org"), ("password", "p")]
    let site : Http.Site := .ofOrigins []
    let registered :=
      (Doing.request site registration).after .lenient (State.start .epoch Token.unaryId) .epoch
    ∃ userId account kept,
      let verified := (Doing.verification userId).after .lenient registered .epoch
      let later := (Doing.request site rival).after .lenient verified .epoch
      account.username = "ann" ∧
      (exec (Store.accountByIdentifier "a@b.org") verified).1 = .ok (some account) ∧
      (exec (Store.accountByIdentifier "a@b.org") later).1 = .ok (some kept) ∧
      kept.Continues account := by
  intro registration rival site registered
  have hsubmits : registration.Submits .register _ :=
    Http.Request.submits_posting rfl rfl (List.cons_ne_nil _ _) (by decide)
  have hread := Http.Registration.read_texts
    (show Http.TextRule.username.check "ann" = .ok "ann" from
      Http.TextRule.check_eq_ok.mpr (by decide +kernel))
    (show Http.TextRule.address.check "a@b.org" = .ok "a@b.org" from
      Http.TextRule.check_eq_ok.mpr (by decide +kernel))
    (show Http.TextRule.password.check "p" = .ok "p" from
      Http.TextRule.check_eq_ok.mpr (by decide +kernel))
  obtain ⟨userId, hdeployed, henrolment⟩ :=
    exists_enrolment hsubmits hread Service.lenient_accepts Service.lenient_hash
      (site.reads_posting _ _) Token.unaryId_injective .epoch .epoch
  obtain ⟨_, -, account, hmem, hserves⟩ := henrolment.enrolled
  let verified := (Doing.verification userId).after .lenient registered .epoch
  have hvisited : Visited .lenient (State.start .epoch Token.unaryId) verified :=
    .doing (.doing .start .epoch (.request site registration) trivial) .epoch (.verification userId)
      trivial
  have hfound : (exec (Store.accountByIdentifier "a@b.org") verified).1 = .ok (some account) := by
    rw [Store.exec_accountByIdentifier hdeployed.twins.undisturbed,
      hdeployed.named.accountOf?_eq hmem (.inr hserves.email.symm)]
  obtain ⟨-, -, hstays⟩ := identifier_stays hvisited
  obtain ⟨kept, hkept, hcontinues⟩ :=
    hstays hfound (.doing .start .epoch (.request site rival) trivial)
  exact ⟨userId, account, kept, hserves.username, hfound, hkept, hcontinues⟩

end AccountSessions
