import AccountSessions.Proofs.SessionHistory
import AccountSessions.Proofs.SmallDeployment

/-!
# What a refresh token is worth

At any moment and for any text a refresh succeeds, and a bearer token counts as a refresh
token, exactly if the history has an open session for it that has not run out.  The two
clocks of a token agree on this: the record ends at its microsecond, and the token, in
whole seconds, neither begins later nor ends earlier.
-/

namespace AccountSessions

/-! ## The token of a live record -/

namespace Token

theorem Issuer.validate_between
    {issuer : Issuer} (hplain : isPlainSecret issuer.secret = true) {grant : Grant}
    (hreadable : grant.Readable) {token : String}
    (hsign : sign issuer.secret grant.payload = .ok token) (hissued : grant.issued.InEra)
    (hlast : grant.expires.micros < Moment.yearStart 9999) {now : Moment}
    (hfrom : grant.issued.micros ≤ now.micros) (huntil : now.micros < grant.expires.micros) :
    ∃ start stop, issuer.validate now grant.kind token = .ok (grant.claims start stop) := by
  have hpayload := verifiedPayload_sign hplain grant.legible_payload rfl hsign
  have hlow := hissued.notBefore
  have hseconds := epochSeconds_eq_second hissued
  rw [Moment.yearStart_1970] at hlow
  rw [Moment.yearStart_9999] at hlast
  have hstarts : Moment.yearStart 1970 ≤ grant.expires.micros := by
    rw [Moment.yearStart_1970]
    omega
  have hbounds := second_le_epochSeconds hstarts
  have hissuedSecond := grant.issued.second_eq_ediv
  have hexpiresSecond := grant.expires.second_eq_ediv
  have hnowSecond := now.second_eq_ediv
  have hstart : Claims.momentOf (.int (epochSeconds grant.issued)) =
      .ok grant.issued.startOfSecond := by
    rw [hseconds, momentOf_second hlow]
  have hlowEnd : 0 ≤ epochSeconds grant.expires := by omega
  have hhighEnd : epochSeconds grant.expires * 1000000 ≤ latestMicros := by
    unfold latestMicros
    omega
  obtain ⟨stop, hstop, -⟩ := exists_momentOf_int hlowEnd hhighEnd
  exact ⟨_, stop, validate_grant hpayload hreadable hstart hstop (by omega) (by omega)⟩

end Token

/-! ## Records that are live -/

namespace Genuine

variable {service : Service} (hplain : Token.isPlainSecret service.issuer.secret = true)
  {history : List Entry} {record : SessionRecord} (hgenuine : Genuine service history record)

include hplain hgenuine

theorem exists_validate
    (hcreated : record.createdAt.InEra)
    (hlast : record.expiresAt.micros < Moment.yearStart 9999) {now : Moment}
    (hfrom : record.createdAt.micros ≤ now.micros)
    (huntil : now.micros < record.expiresAt.micros) :
    ∃ claims, service.issuer.validate now .refresh record.token = .ok claims ∧
      claims.userId = record.userId := by
  obtain ⟨grant, hbacks, hreadable⟩ := hgenuine.backed
  rw [← hbacks.issued] at hcreated hfrom
  rw [← hbacks.expires] at hlast huntil
  obtain ⟨start, stop, hvalid⟩ := Token.Issuer.validate_between hplain hreadable hbacks.signed
    hcreated hlast hfrom huntil
  rw [hbacks.kind] at hvalid
  exact ⟨_, hvalid, hbacks.userId⟩

theorem rejects_access (now : Moment) : service.issuer.Rejects now .access record.token := by
  obtain ⟨grant, hbacks, -⟩ := hgenuine.backed
  have hpayload := Token.verifiedPayload_sign hplain grant.legible_payload rfl hbacks.signed
  have hother : Token.Kind.access ≠ grant.kind := by
    rw [hbacks.kind]
    decide
  exact Token.Issuer.rejects_other_kind hpayload hother now

end Genuine

/-! ## Sessions that count -/

/-- A session is open since a login and has not run out. -/
def CountsAt (service : Service) (history : List Entry) (now : Moment) (token : String)
    (userId : Int) : Prop :=
  ∃ moment, OpenSince history token moment userId ∧
    now.micros < moment.micros + service.issuer.refreshTtl.micros

theorem Timely.past
    {service : Service} {history : List Entry} {now : Moment}
    (htimely : Timely service (history.map Entry.moment ++ [now])) {moment : Moment}
    (hmem : moment ∈ history.map Entry.moment) :
    moment.micros ≤ now.micros :=
  (List.pairwise_append.mp htimely.ordered).2.2 moment hmem now (List.mem_singleton.mpr rfl)

namespace Consistent

variable {service : Service} {history : List Entry} {db : Database}
  (hconsistent : Consistent service history db) {now : Moment} {token : String}

include hconsistent

theorem countsAt_of_live
    {claims : Token.Claims} {seen : Moment}
    (hvalid : service.issuer.validate seen .refresh token = .ok claims)
    (hlive : (db.liveRecord? token now).isSome = true) :
    CountsAt service history now token claims.userId := by
  obtain ⟨record, hmem, rfl, hopen, hbefore⟩ := Database.liveRecord?_isSome.mp hlive
  obtain ⟨⟨grant, hbacks, -⟩, hexpires, -⟩ := hconsistent.genuine record hmem
  have huser : claims.userId = record.userId := by
    rw [Token.Issuer.userId_of_validate_signed hbacks.signed hvalid, hbacks.userId]
  rw [huser]
  refine ⟨record.createdAt, hconsistent.opened record hmem hopen, ?_⟩
  rw [← Moment.add?_eq_some.mp hexpires]
  exact hbefore

variable (htimely : Timely service (history.map Entry.moment ++ [now])) {userId : Int}
  (hcounts : CountsAt service history now token userId)

include htimely hcounts

/-- A sweep has not removed the record of a session that counts. -/
theorem exists_record_of_countsAt :
    ∃ record ∈ db.records, record.token = token ∧ record.userId = userId ∧
      record.isOpen = true ∧ now.micros < record.expiresAt.micros := by
  obtain ⟨moment, hsince, hbefore⟩ := hcounts
  rcases hconsistent.kept token moment userId hsince with ⟨entry, hmem, hover⟩ | ⟨record, hmem,
    htoken, huser, rfl, hopen⟩
  · have hpast := htimely.past (List.mem_map_of_mem hmem)
    omega
  · refine ⟨record, hmem, htoken, huser, hopen, ?_⟩
    rw [Moment.add?_eq_some.mp (hconsistent.genuine record hmem).expires]
    exact hbefore

theorem liveRecord?_of_countsAt : (db.liveRecord? token now).isSome = true := by
  obtain ⟨record, hmem, htoken, -, hopen, hbefore⟩ :=
    hconsistent.exists_record_of_countsAt htimely hcounts
  exact Database.liveRecord?_isSome.mpr ⟨record, hmem, htoken, hopen, hbefore⟩

theorem owner_of_countsAt :
    Store.fitsColumn userId = true ∧ ∃ account, db.account? userId = some account ∧
      account.id = userId := by
  obtain ⟨record, hmem, -, rfl, -⟩ := hconsistent.exists_record_of_countsAt htimely hcounts
  obtain ⟨hhas, hfits⟩ := hconsistent.owners record hmem
  exact ⟨hfits, Database.exists_account? hhas⟩

theorem validate_of_countsAt (hplain : Token.isPlainSecret service.issuer.secret = true) :
    (∃ claims, service.issuer.validate now .refresh token = .ok claims ∧
      claims.userId = userId) ∧ service.issuer.Rejects now .access token := by
  obtain ⟨record, hmem, rfl, rfl, -, hbefore⟩ :=
    hconsistent.exists_record_of_countsAt htimely hcounts
  have hgenuine := hconsistent.genuine record hmem
  have hmoment := List.mem_append_left [now] hgenuine.created
  have hlast := htimely.expiries record.createdAt hmoment .refresh
  have hexpires : record.expiresAt.micros =
      record.createdAt.micros + (service.issuer.ttl .refresh).micros :=
    Moment.add?_eq_some.mp hgenuine.expires
  rw [← hexpires] at hlast
  exact ⟨hgenuine.exists_validate hplain (htimely.era _ hmoment) hlast
    (htimely.past hgenuine.created) hbefore, hgenuine.rejects_access hplain now⟩

end Consistent

/-! ## Every run -/

theorem refresh_iff_countsAt
    {service : Service} (hplain : Token.isPlainSecret service.issuer.secret = true)
    {begin : Moment} {ids : Nat → String} (hids : ∀ number, ids number ≠ "")
    {history : List Entry} {state : State}
    (hrun : Run service (State.start begin ids) history state) {now : Moment}
    (htimely : Timely service (history.map Entry.moment ++ [now]))
    (haddressed : Addressed history) (token : String) (userId : Int) :
    ((∃ session, (exec (service.refresh token) { state with now := now }).1 = .ok session ∧
        session.account.id = userId) ↔
      CountsAt service history now token userId) ∧
    ((∃ claims, (exec (service.validateToken token) { state with now := now }).1 = .ok claims ∧
        claims.tokenType = .text "refresh" ∧ claims.userId = userId) ↔
      CountsAt service history now token userId) := by
  have hundisturbed : ({ state with now := now } : State).disturbances = [] :=
    (hrun.supplied rfl).undisturbed
  have hconsistent := hrun.consistent hids haddressed
  constructor
  · constructor
    · rintro ⟨session, hsession, rfl⟩
      obtain ⟨⟨-, houtcome⟩, -⟩ := (Service.ends_refresh hundisturbed service token).apply
      obtain ⟨claims, account, hvalid, haccount, hlive, hid⟩ := houtcome session hsession
      have huser := (Database.hasAccount_of_account? haccount).2
      rw [hid, huser]
      exact hconsistent.countsAt_of_live hvalid hlive
    · intro hcounts
      have hlive := hconsistent.liveRecord?_of_countsAt htimely hcounts
      obtain ⟨hfits, account, haccount, hid⟩ := hconsistent.owner_of_countsAt htimely hcounts
      obtain ⟨⟨claims, hvalid, rfl⟩, -⟩ :=
        hconsistent.validate_of_countsAt htimely hcounts hplain
      have hnow : now ∈ history.map Entry.moment ++ [now] := by simp
      have hissues : ∀ tokenId, ∃ accessToken, service.issuer.issue .access now tokenId account.id
          (some account.email) = .ok accessToken :=
        fun tokenId => Token.Issuer.issues_until hplain (htimely.era now hnow)
          (htimely.lifetimes .access) (htimely.expiries now hnow .access) tokenId account.id
          account.email
      obtain ⟨session, ⟨later, hexec, -⟩, hsession⟩ :=
        Service.yields_refresh hundisturbed hvalid hfits haccount hlive hissues
      exact ⟨session, by rw [hexec], hsession.trans hid⟩
  · constructor
    · rintro ⟨claims, hclaims, htype, rfl⟩
      obtain ⟨⟨-, houtcome⟩, -⟩ := (Service.ends_validateToken hundisturbed service token).apply
      rcases houtcome claims hclaims with haccess | ⟨hvalid, hlive⟩
      · rw [Token.Issuer.tokenType_of_validate haccess] at htype
        simp [Json.text, Token.Kind.name] at htype
      · exact hconsistent.countsAt_of_live hvalid hlive
    · intro hcounts
      have hlive := hconsistent.liveRecord?_of_countsAt htimely hcounts
      obtain ⟨⟨claims, hvalid, huser⟩, hother⟩ :=
        hconsistent.validate_of_countsAt htimely hcounts hplain
      obtain ⟨later, hexec, -⟩ := Service.yields_validateToken hundisturbed hother hvalid hlive
      exact ⟨claims, by rw [hexec], Token.Issuer.tokenType_of_validate hvalid, huser⟩

theorem Service.timely_lenient
    {moments : List Moment} (hmoments : ∀ moment ∈ moments, moment = .epoch) :
    Timely .lenient moments where
  era moment hmem := by
    rw [hmoments moment hmem]
    exact ⟨by decide, by decide⟩
  ordered := by
    refine List.pairwise_of_forall_mem_list fun earlier hearlier later hlater => ?_
    rw [hmoments earlier hearlier, hmoments later hlater]
  lifetimes kind := (lenient_ttl kind).1
  expiries moment hmem kind := by
    have hlast := (lenient_ttl kind).2
    have hepoch : Moment.epoch.micros = 0 := rfl
    rw [hmoments moment hmem, hepoch, Moment.yearStart_9999]
    omega

/-- Ann and bob have logged in.  Her token renews her session until all of hers are ended,
and his renews his still. -/
theorem refresh_until_logoutAll :
    ∃ (history : List Entry) (state : State) (ann bob : Session),
      Run .lenient (State.start .epoch Token.unaryId) history state ∧
      (∃ before, history = before ++
        [⟨.epoch, .login "ann" "p", .ok (.session ann)⟩,
          ⟨.epoch, .login "bob" "p", .ok (.session bob)⟩]) ∧
      (∃ renewed,
        (exec (Service.lenient.refresh ann.refreshToken) { state with now := .epoch }).1 =
          .ok renewed ∧ renewed.account.id = 1) ∧
      let closed := (step .lenient state .epoch (.logoutAll 1)).2
      (∀ token, ¬ ∃ session,
        (exec (Service.lenient.refresh token) { closed with now := .epoch }).1 = .ok session ∧
          session.account.id = 1) ∧
      ∃ renewed,
        (exec (Service.lenient.refresh bob.refreshToken) { closed with now := .epoch }).1 =
          .ok renewed ∧ renewed.account.id = 2 := by
  obtain ⟨history, state, ann, bob, hentered⟩ := exists_entered
  obtain ⟨before, hhistory⟩ := hentered.entries
  let closed := (step .lenient state .epoch (.logoutAll 1)).2
  let annEntry : Entry := ⟨.epoch, .login "ann" "p", .ok (.session ann)⟩
  let bobEntry : Entry := ⟨.epoch, .login "bob" "p", .ok (.session bob)⟩
  let ending : Entry := ⟨.epoch, .logoutAll 1, (step .lenient state .epoch (.logoutAll 1)).1⟩
  have hclosed : Run .lenient (State.start .epoch Token.unaryId) (history ++ [ending]) closed :=
    hentered.run.snoc .epoch (.logoutAll 1)
  have htimely : Timely .lenient (history.map Entry.moment ++ [.epoch]) :=
    Service.timely_lenient (by simp [hentered.moments])
  have hlater : Timely .lenient ((history ++ [ending]).map Entry.moment ++ [.epoch]) :=
    Service.timely_lenient (by simp [hentered.moments, ending])
  have haddressed : Addressed (history ++ [ending]) := by
    intro entry hmem username email password name hcall
    have hmember := List.mem_map_of_mem (f := Entry.call) hmem
    rw [hcall, List.map_append, hentered.calls] at hmember
    have hemail : email = "ann@b.org" ∨ email = "bob@b.org" := by
      simp [ending] at hmember
      exact hmember.imp (·.2.1) (·.2.1)
    rcases hemail with rfl | rfl
    · decide
    · decide
  have hann : annEntry.Opens ann.refreshToken 1 :=
    ⟨_, _, ann, rfl, rfl, rfl, hentered.annServed.user⟩
  have hbob : bobEntry.Opens bob.refreshToken 2 :=
    ⟨_, _, bob, rfl, rfl, rfl, hentered.bobServed.user⟩
  have hspared : ¬ bobEntry.Closes ann.refreshToken 1 := by
    rintro (hcloses | ⟨_, _, ⟨⟩, -⟩)
    exact hcloses
  have hstays : ¬ ending.Closes bob.refreshToken 2 := by
    have hother : ¬ (1 : Int) = 2 := by decide
    rintro (hcloses | ⟨_, _, ⟨⟩, -⟩)
    exact hother hcloses
  refine ⟨history, state, ann, bob, hentered.run, ⟨before, hhistory⟩, ?_, ?_, ?_⟩
  · refine (refresh_iff_countsAt Service.lenient_plain Token.unaryId_ne_empty hentered.run htimely
      (haddressed.of_append [ending]) ann.refreshToken 1).1.mpr ⟨.epoch, ?_, by decide⟩
    refine ⟨before, annEntry, [bobEntry], hhistory, rfl, hann, ?_⟩
    simpa using hspared
  · intro token hrefresh
    obtain ⟨moment, hsince, -⟩ := (refresh_iff_countsAt Service.lenient_plain
      Token.unaryId_ne_empty hclosed hlater haddressed token 1).1.mp hrefresh
    rcases openSince_concat.mp hsince with ⟨-, _, _, _, ⟨⟩, -⟩ | ⟨-, hopen⟩
    exact hopen (.inl rfl)
  · refine (refresh_iff_countsAt Service.lenient_plain Token.unaryId_ne_empty hclosed hlater
      haddressed bob.refreshToken 2).1.mpr ⟨.epoch, ?_, by decide⟩
    refine openSince_concat.mpr (.inr ⟨⟨before ++ [annEntry], bobEntry, [], ?_, rfl, hbob, ?_⟩,
      hstays⟩)
    · rw [hhistory]
      simp [annEntry, bobEntry]
    · simp

end AccountSessions
