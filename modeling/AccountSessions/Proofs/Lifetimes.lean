import AccountSessions.Proofs.AcceptedSettings
import AccountSessions.Proofs.Overflows
import AccountSessions.Proofs.ReachedStates
import AccountSessions.Proofs.SmallDeployment

/-!
# Lives of tokens

A token may live for any positive number of seconds, but durations and the calendar come
to an end.  A service can be built just if both lives are durations.  With it a user who
may log in, or who holds a live session, meets an overflow just if a life that has to be
laid off reaches beyond the calendar.
-/

namespace AccountSessions

/-! ## The end of the calendar -/

/-- So many seconds from now the calendar has come to its end. -/
def Moment.EndsWithin (now : Moment) (seconds : Int) : Prop :=
  latestMicros < now.micros + seconds * Duration.microsPerSecond

instance (now : Moment) (seconds : Int) : Decidable (now.EndsWithin seconds) :=
  inferInstanceAs (Decidable (latestMicros < _))

theorem Moment.add?_eq_none_iff (now : Moment) {seconds : Int} (hpositive : 0 < seconds) :
    now.add? (.ofSeconds seconds) = none ↔ now.EndsWithin seconds := by
  have hlow := now.inCalendar.1
  unfold add? ofMicros? EndsWithin Duration.ofSeconds Duration.microsPerSecond
  dsimp only
  split
  next hinside => simp only [reduceCtorEq, false_iff]; omega
  next houtside => simp only [true_iff]; omega

/-- The seconds that are left of the calendar when the year 2500 has passed. -/
def Moment.eraRoom : Int := 236645539200

theorem Moment.InEra.not_endsWithin
    {now : Moment} (hera : now.InEra) {seconds : Int} (hroom : seconds ≤ eraRoom) :
    ¬ now.EndsWithin seconds := by
  have hbefore := hera.before
  rw [yearStart_2501] at hbefore
  unfold eraRoom at hroom
  unfold EndsWithin latestMicros Duration.microsPerSecond
  omega

/-! ## Sessions that are opened and renewed -/

namespace Service

variable {state : State}

/-- The session of a user who may log in overflows just if one of its tokens would outlive
the calendar. -/
theorem OpeningEnd.overflows_iff
    {service : Service} {account : Account} {result : Except Failure Session × State}
    (hend : OpeningEnd service state account result) (hfits : Store.fitsColumn account.id = true) :
    Overflows result.1 ↔ state.now.add? (service.issuer.ttl .access) = none ∨
      Token.Signs service.issuer.secret ∧
        state.now.add? (service.issuer.ttl .refresh) = none := by
  have haccessEnds := service.issuer.issues .access state.now state.tokenIds.next account.id
    (some account.email)
  have hrefreshEnds := service.issuer.issues .refresh state.now state.tokenIds.rest.next account.id
    (some account.email)
  -- Once both tokens are issued, both fit, and what follows fails at most with a refusal.
  have hwithin {accessToken refreshToken : String}
      (haccess : service.issuer.issue .access state.now state.tokenIds.next account.id
        (some account.email) = .ok accessToken)
      (hrefresh : service.issuer.issue .refresh state.now state.tokenIds.rest.next account.id
        (some account.email) = .ok refreshToken) :
      ¬ (state.now.add? (service.issuer.ttl .access) = none ∨
        Token.Signs service.issuer.secret ∧
          state.now.add? (service.issuer.ttl .refresh) = none) := by
    rw [haccess] at haccessEnds
    rw [hrefresh] at hrefreshEnds
    cases haccessEnds with
    | issued hexpires =>
        cases hrefreshEnds with
        | issued hends =>
            rintro (hlate | ⟨-, hlate⟩)
            · exact nomatch hexpires.symm.trans hlate
            · exact nomatch hends.symm.trans hlate
  cases hend with
  | accessFails haccess =>
      rw [haccess] at haccessEnds
      cases haccessEnds with
      | late hlate => exact iff_of_true trivial (.inl hlate)
      | unsigned hexpires hunsigned =>
          refine iff_of_false id ?_
          rintro (hlate | ⟨hsigns, -⟩)
          · exact nomatch hexpires.symm.trans hlate
          · exact hunsigned hsigns
  | refreshFails haccess hrefresh =>
      rw [haccess] at haccessEnds
      rw [hrefresh] at hrefreshEnds
      cases haccessEnds with
      | issued _ hsigns =>
          cases hrefreshEnds with
          | late hlate => exact iff_of_true trivial (.inr ⟨hsigns, hlate⟩)
          | unsigned _ hunsigned => exact (hunsigned hsigns).elim
  | unfit hoverflow => exact absurd hfits hoverflow
  | taken haccess hrefresh => exact iff_of_false id (hwithin haccess hrefresh)
  | opened haccess hrefresh => exact iff_of_false id (hwithin haccess hrefresh)

variable (hundisturbed : state.disturbances = []) (service : Service)

include hundisturbed

/-- A refresh of a token whose record is live overflows just if the token is still in
order and the new one would outlive the calendar. -/
theorem rests_refresh_overflow
    {record : SessionRecord}
    (hlive : (state.database.liveRecord? record.token state.now).isSome = true)
    {grant : Token.Grant} (hbacks : grant.Backs service.issuer record)
    (hfits : Store.fitsColumn record.userId = true)
    (howner : state.database.hasAccount record.userId = true) :
    Rests (service.refresh record.token) state fun outcome _ =>
      Overflows outcome ↔
        (∃ claims, service.issuer.validate state.now .refresh record.token = .ok claims) ∧
          state.now.add? (service.issuer.ttl .access) = none := by
  apply (rests_refresh hundisturbed service record.token).mono
  rintro outcome _ ⟨-, houtcome⟩
  cases hvalidate : service.issuer.validate state.now .refresh record.token with
  | error fault =>
      have hrejected : outcome = .error fault.toFailure := by
        cases houtcome with
        | rejected hinvalid => rw [Except.error.inj (hvalidate.symm.trans hinvalid)]
        | overflow hvalid => exact nomatch hvalidate.symm.trans hvalid
        | unknown hvalid => exact nomatch hvalidate.symm.trans hvalid
        | dead hvalid => exact nomatch hvalidate.symm.trans hvalid
        | renewed _ hvalid => exact nomatch hvalidate.symm.trans hvalid
      rw [hrejected]
      refine iff_of_false ?_ ?_
      · cases fault with
        | rejected reason => exact id
        | broken cause => exact Token.Issuer.not_isOverflow_of_validate hbacks.signed hvalidate
      · rintro ⟨⟨claims, hvalid⟩, -⟩
        cases hvalid
  | ok claims =>
      have huser : claims.userId = record.userId := by
        rw [Token.Issuer.userId_of_validate_signed hbacks.signed hvalidate, hbacks.userId]
      obtain ⟨account, haccount, -⟩ := Database.exists_account? howner
      rw [← huser] at hfits haccount
      rcases houtcome.of_found hvalidate hfits haccount with ⟨hdead, -⟩ | ⟨-, tokenId, rfl⟩
      · rw [hlive] at hdead
        cases hdead
      · rw [overflows_map, (service.issuer.issues ..).overflows_iff]
        exact ⟨fun hlate => ⟨⟨claims, rfl⟩, hlate⟩, And.right⟩

end Service

/-! ## Built services -/

section Steps

variable {service : Service} {start state : State} (hundisturbed : start.disturbances = [])
  (hempty : start.database = .empty) {history : List Entry}
  (hrun : Run service start history state) (now : Moment)

include hundisturbed hempty hrun

theorem Run.login_overflows_iff
    {identifier password : String} {account : Account}
    (hfound : state.database.accountOf? identifier = some account)
    (hverified : account.emailVerified = true) (hactive : account.isActive = true)
    (haccepts : Password.verify password account.passwordHash = true) :
    Overflows (step service state now (.login identifier password)).1 ↔
      now.add? (service.issuer.ttl .access) = none ∨
        Token.Signs service.issuer.secret ∧ now.add? (service.issuer.ttl .refresh) = none := by
  have hfitting := hrun.reached.fitting hundisturbed hempty
  have hcalm : ({ state with now } : State).disturbances = [] := hfitting.undisturbed
  have hopening := (Service.exec_login hcalm service identifier password).of_admitted hfound
    hverified haccepts hactive
  unfold step Call.perform
  rw [exec_map, overflows_map]
  exact hopening.overflows_iff (hfitting.fits account (Database.mem_of_accountOf? hfound))

theorem Run.refresh_overflows_iff
    {token : String} (hlive : (state.database.liveRecord? token now).isSome = true) :
    Overflows (step service state now (.refresh token)).1 ↔
      (∃ claims, service.issuer.validate now .refresh token = .ok claims) ∧
        now.add? (service.issuer.ttl .access) = none := by
  have hfitting := hrun.reached.fitting hundisturbed hempty
  have hclocked : ({ state with now } : State).disturbances = [] := hfitting.undisturbed
  obtain ⟨record, hmem, rfl, -, -⟩ := Database.liveRecord?_isSome.mp hlive
  obtain ⟨owner, howner, grant, hentitles⟩ :=
    hrun.reached.entitled hundisturbed hempty record hmem
  have hhas : state.database.hasAccount record.userId = true :=
    Database.hasAccount_eq_true.mpr ⟨owner, howner, hentitles.id⟩
  have hfits : Store.fitsColumn record.userId = true :=
    hentitles.id ▸ hfitting.fits owner howner
  have hrests : Rests ((Call.refresh record.token).perform service) { state with now }
      fun outcome _ => Overflows outcome ↔
        (∃ claims, service.issuer.validate now .refresh record.token = .ok claims) ∧
          now.add? (service.issuer.ttl .access) = none := by
    apply (Service.rests_refresh_overflow hclocked service hlive hentitles.toBacks hfits hhas).map
    intro outcome _ hoverflows
    exact (overflows_map _ outcome).trans hoverflows
  exact hrests.apply.1

end Steps

section Built

variable {settings : Settings} (haccepted : settings.Accepted) {start : State}
  (hundisturbed : start.disturbances = []) (hempty : start.database = .empty) {service : Service}
  {built : State} (hbuilt : exec settings.buildService start = (.ok service, built))
  {history : List Entry} {state : State} (hrun : Run service built history state) (now : Moment)

include haccepted hbuilt hundisturbed hempty hrun

theorem Settings.overflows_of_built :
    (∀ identifier password account,
      state.database.accountOf? identifier = some account → account.emailVerified = true →
      account.isActive = true → Password.verify password account.passwordHash = true →
      (Overflows (step service state now (.login identifier password)).1 ↔
        now.EndsWithin settings.accessTtlSeconds ∨
          Token.Signs settings.secretKey ∧ now.EndsWithin settings.refreshTtlSeconds)) ∧
    ∀ token, (state.database.liveRecord? token now).isSome = true →
      (Overflows (step service state now (.refresh token)).1 ↔
        (∃ claims, service.issuer.validate now .refresh token = .ok claims) ∧
          now.EndsWithin settings.accessTtlSeconds) := by
  obtain ⟨⟨dummy, rfl⟩, rfl⟩ := built_eq haccepted hbuilt
  let seeded : State := { start with saltsDrawn := start.saltsDrawn + 1 }
  have hcalm : seeded.disturbances = [] := hundisturbed
  have hfresh : seeded.database = .empty := hempty
  refine ⟨?_, ?_⟩
  · intro identifier password account hfound hverified hactive haccepts
    rw [← Moment.add?_eq_none_iff now haccepted.accessTtl,
      ← Moment.add?_eq_none_iff now haccepted.refreshTtl]
    exact hrun.login_overflows_iff hcalm hfresh now hfound hverified hactive haccepts
  · intro token hlive
    rw [← Moment.add?_eq_none_iff now haccepted.accessTtl]
    exact hrun.refresh_overflows_iff hcalm hfresh now hlive

end Built

/-- Lives of at most 7499 years are safe up to the end of the year 2500. -/
theorem lives_fit_era
    {sources : Settings.Sources} {fresh : String} {settings : Settings} {log : List Log.Line}
    (hread : Settings.read sources fresh = .ok (settings, log))
    (haccess : settings.accessTtlSeconds ≤ Moment.eraRoom)
    (hrefresh : settings.refreshTtlSeconds ≤ Moment.eraRoom) {start : State}
    (hundisturbed : start.disturbances = []) (hempty : start.database = .empty) :
    ∃ service built, exec settings.buildService start = (.ok service, built) ∧
      ∀ {history : List Entry} {state : State}, Run service built history state →
      ∀ {now : Moment}, now.InEra →
        (∀ identifier password account,
          state.database.accountOf? identifier = some account → account.emailVerified = true →
          account.isActive = true → Password.verify password account.passwordHash = true →
          ¬ Overflows (step service state now (.login identifier password)).1) ∧
        ∀ token, (state.database.liveRecord? token now).isSome = true →
          ¬ Overflows (step service state now (.refresh token)).1 := by
  have haccepted := Settings.accepted_of_read hread
  have hmeasurable : settings.Measurable := by
    have hroom : Moment.eraRoom < Settings.lifeLimit := by decide
    exact ⟨Int.lt_of_le_of_lt haccess hroom, Int.lt_of_le_of_lt hrefresh hroom⟩
  obtain ⟨dummy, hbuilt⟩ := Settings.exec_buildService haccepted hmeasurable start
  refine ⟨_, _, hbuilt, ?_⟩
  intro history state hrun now hera
  obtain ⟨hlogin, hrenewal⟩ :=
    Settings.overflows_of_built haccepted hundisturbed hempty hbuilt hrun now
  refine ⟨?_, ?_⟩
  · intro identifier password account hfound hverified hactive haccepts
    rw [hlogin identifier password account hfound hverified hactive haccepts]
    rintro (hends | ⟨-, hends⟩)
    · exact hera.not_endsWithin haccess hends
    · exact hera.not_endsWithin hrefresh hends
  · intro token hlive
    rw [hrenewal token hlive]
    exact fun hends => hera.not_endsWithin haccess hends.2

/-- A service can be built of accepted settings just if both lives of tokens are durations,
and otherwise this overflows.  With a service that was built, a user who may log in meets an
overflow just if a token would outlive the calendar, and so does the holder of a live session
whose token is in order. -/
theorem overflows_iff_outlives
    {sources : Settings.Sources} {fresh : String} {settings : Settings} {log : List Log.Line}
    (hread : Settings.read sources fresh = .ok (settings, log)) :
    ((∃ span, settings.accessTtl = .ok span) ↔
      settings.accessTtlSeconds < Settings.lifeLimit) ∧
    ((∃ span, settings.refreshTtl = .ok span) ↔
      settings.refreshTtlSeconds < Settings.lifeLimit) ∧
    (∀ start : State,
      ((∃ service built, exec settings.buildService start = (.ok service, built)) ↔
        settings.Measurable) ∧
      (Overflows (exec settings.buildService start).1 ↔ ¬ settings.Measurable)) ∧
    ∀ (start : State) (service : Service) (built : State),
      start.disturbances = [] → start.database = .empty →
      exec settings.buildService start = (.ok service, built) →
      ∀ (history : List Entry) (state : State), Run service built history state →
      ∀ now : Moment,
        (∀ identifier password account,
          state.database.accountOf? identifier = some account → account.emailVerified = true →
          account.isActive = true → Password.verify password account.passwordHash = true →
          (Overflows (step service state now (.login identifier password)).1 ↔
            now.EndsWithin settings.accessTtlSeconds ∨
              Token.Signs settings.secretKey ∧ now.EndsWithin settings.refreshTtlSeconds)) ∧
        ∀ token, (state.database.liveRecord? token now).isSome = true →
          (Overflows (step service state now (.refresh token)).1 ↔
            (∃ claims, service.issuer.validate now .refresh token = .ok claims) ∧
              now.EndsWithin settings.accessTtlSeconds) := by
  have haccepted := Settings.accepted_of_read hread
  refine ⟨?_, ?_, ?_, ?_⟩
  · simp only [Settings.accessTtl, mapError_eq_ok,
      Settings.exists_ofSecondsChecked_iff haccepted.accessTtl]
  · simp only [Settings.refreshTtl, mapError_eq_ok,
      Settings.exists_ofSecondsChecked_iff haccepted.refreshTtl]
  · intro start
    by_cases hmeasurable : settings.Measurable
    · obtain ⟨dummy, hbuilt⟩ := Settings.exec_buildService haccepted hmeasurable start
      rw [hbuilt]
      exact ⟨iff_of_true ⟨_, _, rfl⟩ hmeasurable, iff_of_false id (not_not_intro hmeasurable)⟩
    · obtain ⟨fault, hfails⟩ := Settings.fails_buildService haccepted hmeasurable start
      rw [hfails]
      refine ⟨iff_of_false ?_ hmeasurable, iff_of_true trivial hmeasurable⟩
      rintro ⟨_, _, hbuilt⟩
      cases hbuilt
  · intro start service built hundisturbed hempty hbuilt history state hrun now
    exact Settings.overflows_of_built haccepted hundisturbed hempty hbuilt hrun now

/-- With access tokens that live for 31688 years the settings are accepted and a service is
built, but nobody can log in. -/
theorem overflows_iff_outlives_at_login :
    let sources : Settings.Sources :=
      ⟨[("secret_key", .text "0123456789abcdef0123456789abcdef"),
        ("access_token_ttl_seconds", .int 1000000000000)], [], ""⟩
    let now : Moment := { micros := 1700000000000000 }
    ∃ settings service built history state account,
      Settings.read sources "" = .ok (settings, []) ∧
      exec settings.buildService (State.start now) = (.ok service, built) ∧
      Run service built history state ∧
      Admits state.database "ann" "Passw0rd!" account ∧
      Overflows (step service state now (.login "ann" "Passw0rd!")).1 := by
  intro sources now
  let settings : Settings := .withDefaults 1000000000000
  have hread : Settings.read sources "" = .ok (settings, []) := rfl
  have hmeasurable : settings.Measurable := ⟨by decide, by decide⟩
  obtain ⟨dummy, hbuilt⟩ :=
    Settings.exec_buildService (Settings.accepted_of_read hread) hmeasurable (State.start now)
  have hpolicy : settings.policy.check "Passw0rd!" = none := by decide +kernel
  have hhash : ∀ salt, ∃ hash, Password.hash settings.bcryptRounds salt "Passw0rd!" = .ok hash :=
    Password.exists_hash (by decide) (by decide) (by decide)
  let service : Service :=
    { issuer := ⟨settings.secretKey, .ofSeconds settings.accessTtlSeconds,
        .ofSeconds settings.refreshTtlSeconds⟩
      hasher := ⟨settings.bcryptRounds, dummy⟩
      policy := settings.policy
      publisher := settings.publisher }
  let built : State := { State.start now with saltsDrawn := 1 }
  have hundisturbed : built.disturbances = [] := rfl
  have hempty : built.database = .empty := rfl
  obtain ⟨history, state, account, hrun, hadmits⟩ :=
    exists_run_admits service hundisturbed hempty "ann" "a@b.org" hpolicy hhash now
  refine ⟨settings, service, built, history, state, account, hread, hbuilt, hrun, hadmits, ?_⟩
  obtain ⟨-, -, -, houtlives⟩ := overflows_iff_outlives hread
  have hlogin := (houtlives (State.start now) service built rfl rfl hbuilt history state hrun now).1
  have hends : now.EndsWithin settings.accessTtlSeconds := by decide
  exact (hlogin "ann" "Passw0rd!" account hadmits.found hadmits.verified hadmits.active
    hadmits.accepts).mpr (.inl hends)

end AccountSessions
