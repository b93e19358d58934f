import AccountSessions.Proofs.RegisteredLogins

/-!
# Refresh tokens that come back

A login hands out a refresh token as long as the address in it makes it.  The routes that
take the token back read at most 4096 characters, which are enough for a payload of 3011
bytes.  A longer token is turned away before it reaches the service, so its session can be
neither continued nor ended with it.
-/

namespace AccountSessions.Http

open Handling

/-! ## Tickets -/

/-- The body brings a refresh token. -/
structure SessionTicket.Brings (body : Json) (token : String) : Prop where
  object : body.isObject = true
  token : body.member? "refresh_token" = some (.text token)

theorem SessionTicket.read_eq
    {body : Json} {token : String} (hbrings : SessionTicket.Brings body token)
    (hnonempty : 1 ≤ token.length) :
    SessionTicket.read body =
      if 4096 < token.length then .flawed [⟨.tooLong 4096, [.field "refresh_token"]⟩]
      else .sound ⟨token⟩ := by
  have hcheck : TextRule.refreshToken.check token =
      if 4096 < token.length then .error (.tooLong 4096) else .ok token := by
    rw [TextRule.check_eq]
    exact if_neg (Nat.not_lt.mpr hnonempty)
  rw [SessionTicket.read, readFields, if_pos hbrings.object, TextRule.require, hbrings.token]
  show (SessionTicket.mk <$> Checked.field "refresh_token" (TextRule.refreshToken.check token)) = _
  rw [hcheck]
  split
  · rfl
  · rfl

/-! ## Routes that take a token back -/

/-- The service renews and ends sessions with the token when asked to. -/
structure TakesBack (service : Service) (token : String) : Prop where
  refresh {request : Request} {body : Json} (hsubmits : request.Submits .refresh body)
    (hbrings : SessionTicket.Brings body token) (state : State) :
    request.Reaches service state (service.refresh token) state fun session =>
      (Response.json 200 (Session.toJson session)).unstored
  logout {request : Request} {body : Json} (hsubmits : request.Submits .logout body)
    (hbrings : SessionTicket.Brings body token) {state known : State} {claims : Token.Claims}
    (hcaller : exec (identify service request) state = (.ok claims, known)) :
    request.Reaches service state (service.logout claims.userId token) known fun _ =>
      .json 200 (messageBody "Logged out." [])

/-- The token is refused for its length by the routes that take one. -/
structure TurnsAway (service : Service) (token : String) : Prop where
  refresh {request : Request} {body : Json} (hsubmits : request.Submits .refresh body)
    (hbrings : SessionTicket.Brings body token) (state : State) :
    request.IsRejected service state
      (.invalid [⟨.tooLong 4096, [.field "refresh_token"]⟩]) state
  logout {request : Request} {body : Json} (hsubmits : request.Submits .logout body)
    (hbrings : SessionTicket.Brings body token) {state known : State} {claims : Token.Claims}
    (hcaller : exec (identify service request) state = (.ok claims, known)) :
    request.IsRejected service state
      (.invalid [⟨.tooLong 4096, [.field "refresh_token"]⟩]) known

variable {service : Service} {token : String}

/-- A caller who is known has the ticket checked. -/
theorem exec_serve_logout
    {request : Request} {body : Json} (hsubmits : request.Submits .logout body)
    {state known : State} {claims : Token.Claims}
    (hcaller : exec (identify service request) state = (.ok claims, known)) :
    exec (Route.logout.serve service request) state =
      exec (do
        let form ← require (SessionTicket.read body)
        ofOperation (service.logout claims.userId form.refreshToken)
        return .json 200 (messageBody "Logged out." [])) known := by
  rw [Route.serve, exec_bind, hsubmits.exec_readBody]
  dsimp only
  rw [exec_bind, hcaller]

theorem takesBack_of_length (hnonempty : 1 ≤ token.length) (hfits : token.length ≤ 4096) :
    TakesBack service token where
  refresh hsubmits hbrings state := by
    have hread := (SessionTicket.read_eq hbrings hnonempty).trans (if_neg (Nat.not_lt.mpr hfits))
    exact hsubmits.reaches (Route.handsOn_refresh service) hread state
  logout {request body} hsubmits hbrings {state known claims} hcaller site := by
    have hread := (SessionTicket.read_eq hbrings hnonempty).trans (if_neg (Nat.not_lt.mpr hfits))
    have hserve := exec_serve_logout hsubmits hcaller
    rw [hread] at hserve
    obtain ⟨response, hrun, hsends⟩ := hsubmits.respond_sends service site state
    have hanswered := hserve.trans (exec_answered (service.logout claims.userId token) known)
    rw [hanswered] at hrun hsends
    exact ⟨response, hrun, hsends⟩

theorem turnsAway_of_length (hlong : 4096 < token.length) : TurnsAway service token where
  refresh hsubmits hbrings state := by
    have hread := (SessionTicket.read_eq hbrings (by omega)).trans (if_pos hlong)
    exact hsubmits.isRejected (Route.handsOn_refresh service) hread state
  logout {request body} hsubmits hbrings {state known claims} hcaller site := by
    have hread := (SessionTicket.read_eq hbrings (by omega)).trans (if_pos hlong)
    have hserve := exec_serve_logout hsubmits hcaller
    rw [hread] at hserve
    obtain ⟨response, hrun, hsends⟩ := hsubmits.respond_sends service site state
    rw [hserve] at hrun hsends
    exact ⟨response, hrun, hsends⟩

theorem Session.email_eq_of_toJson {session other : Session}
    (hsame : Session.toJson session = Session.toJson other) :
    session.account.email = other.account.email := by
  simp only [Session.toJson, Profile.toJson, Profile.ofAccount, Json.record, List.map_cons,
    Json.object.injEq, List.cons.injEq, Prod.mk.injEq, Json.text, Json.string.injEq,
    JsonString.plain.injEq] at hsame
  exact hsame.1.2.2.2.1.2

end AccountSessions.Http

namespace AccountSessions

/-! ## Long addresses -/

/-- An address of 255 characters, nearly all of which are written as pairs. -/
def pairedAddress : List Char :=
  List.replicate 251 (Char.ofNat 0x1F600) ++ ['@', 'a', '.', 'b']

theorem check_pairedAddress :
    Http.TextRule.address.check (String.ofList pairedAddress) =
      .ok (String.ofList pairedAddress) := by
  have htrimmed : Text.trimEnds Text.isBlank pairedAddress = pairedAddress := by decide +kernel
  have hlength : (String.ofList pairedAddress).length = 255 := by
    rw [← String.length_toList, String.toList_ofList]
    decide +kernel
  refine Http.TextRule.check_eq_ok.mpr ⟨?_, ?_, ?_, ?_⟩
  · show _ = Text.trim _
    rw [Text.trim, String.toList_ofList, htrimmed]
  · rw [hlength]
    decide
  · rw [hlength]
    decide
  · rw [String.toList_ofList]
    decide +kernel

theorem lt_escapedLength_pairedAddress :
    3011 < Json.escapedLength (String.ofList pairedAddress) := by
  rw [Json.escapedLength, String.toList_ofList]
  decide +kernel

/-! ## Logins -/

/-- A login is answered with a refresh token for the account that was found, which comes
back to the service as long as its payload has no more than 3011 bytes, and is turned away
otherwise.  It always comes back if at most 219 characters of the address that was
registered are written as pairs. -/
theorem login_refresh_token
    {service : Service} {state : State} (hundisturbed : state.disturbances = [])
    {login : Http.Request} {form : Json} (hsubmits : login.Submits .login form)
    {site : Http.Site} {answer : Http.Response} {later : State}
    (hanswered : (Http.respond service site login).run state = (answer, later))
    (hlet : answer.status = 200) :
    ∃ session tokenId expires,
      answer.body = .json (Http.Session.toJson session) ∧
      (∃ account ∈ state.database.accounts,
        account.id = session.account.id ∧ account.email = session.account.email) ∧
      state.tokenIds.Offers tokenId ∧
      state.now.add? service.issuer.refreshTtl = some expires ∧
      let grant : Token.Grant :=
        ⟨.refresh, session.account.id, session.account.email, tokenId, state.now, expires⟩
      session.refreshToken.length = 81 + (4 * grant.size + 2) / 3 ∧
      (grant.size ≤ 3011 → Http.TakesBack service session.refreshToken) ∧
      (3011 < grant.size → Http.TurnsAway service session.refreshToken) ∧
      ∀ {registration : Json} {fields : Http.Registration},
        Http.Registration.read registration = .sound fields →
        fields.email = session.account.email → Json.escapedLength tokenId ≤ 36 →
        fields.email.toList.countP Json.isPaired ≤ 219 →
        Http.TakesBack service session.refreshToken := by
  obtain ⟨credentials, session, -, hlogin, htells⟩ :=
    hsubmits.exists_value (Http.Route.handsOn_login service) hanswered (by omega)
  have hends :=
    (Service.ends_login hundisturbed service credentials.identifier credentials.password).apply.1
  rw [hlogin] at hends
  rcases hends with ⟨⟨failure, hfails⟩, -⟩ |
    ⟨account, hfound, -, -, accessToken, tokenId, refreshToken, expires, id, added, hfits, hoffers,
      hissue, hexpires, -, houtcome, -⟩
  · cases hfails
  injection houtcome with hsession
  subst hsession
  let grant : Token.Grant := ⟨.refresh, account.id, account.email, tokenId, state.now, expires⟩
  have hlength : refreshToken.length = 81 + (4 * grant.size + 2) / 3 :=
    Token.Issuer.length_of_issue hissue hexpires
  have hreturns (hsmall : grant.size ≤ 3011) : Http.TakesBack service refreshToken :=
    Http.takesBack_of_length (by omega) (by omega)
  have hturned (hlarge : 3011 < grant.size) : Http.TurnsAway service refreshToken :=
    Http.turnsAway_of_length (by omega)
  refine ⟨_, tokenId, expires, htells.body,
    ⟨account, Database.mem_of_accountOf? hfound, rfl, rfl⟩, hoffers, hexpires, hlength, hreturns,
    hturned, ?_⟩
  intro registration fields hread hemail htokenId hpaired
  obtain ⟨-, -, ⟨address, -, haddress⟩, -, -⟩ := Http.Registration.read_eq_sound.mp hread
  have hshort : fields.email.length ≤ 255 := (Http.TextRule.check_eq_ok.mp haddress).2.2.1
  have hwidth := Json.escapedLength_le fields.email
  have hsize : grant.size ≤ 165 + Json.escapedLength fields.email :=
    hemail ▸ Token.Grant.size_le hfits htokenId
  exact hreturns (by omega)

/-- Ann logs in, but cannot renew her session, for her address has 251 characters that are
written as pairs. -/
theorem login_refresh_token_paired :
    let address := String.ofList pairedAddress
    let registration := Http.Request.posting "/api/v1/auth/register"
      [("username", "ann"), ("email", address), ("password", "p")]
    let login := Http.Request.posting "/api/v1/auth/login"
      [("identifier", "ann"), ("password", "p")]
    let now : Moment := { micros := 1700000000000000 }
    let site : Http.Site := .ofOrigins []
    let registered :=
      (Doing.request site registration).after .lenient (State.start .epoch Token.unaryId) now
    ∃ userId answer session later response,
      let verified := (Doing.verification userId).after .lenient registered now
      let refresh := Http.Request.posting "/api/v1/auth/refresh"
        [("refresh_token", session.refreshToken)]
      (Http.respond .lenient site login).run { verified with now := now } = (answer, later) ∧
      answer.status = 200 ∧ answer.body = .json (Http.Session.toJson session) ∧
      session.account.email = address ∧
      (Http.respond .lenient site refresh).run later = (response, later) ∧
      response.status = 422 := by
  intro address registration login now site registered
  have haddress : Http.TextRule.address.check address = .ok address := check_pairedAddress
  have hlong : 3011 < Json.escapedLength address := lt_escapedLength_pairedAddress
  -- Nothing but these two facts matters of the address, which is never spelled out.
  clear_value address
  have hregisters : registration.Submits .register _ :=
    Http.Request.submits_posting rfl rfl (List.cons_ne_nil _ _)
      (show ["username", "email", "password"].Nodup by decide)
  have hlogs : login.Submits .login _ :=
    Http.Request.submits_posting rfl rfl (List.cons_ne_nil _ _) (by decide)
  have husername : Http.TextRule.username.check "ann" = .ok "ann" :=
    Http.TextRule.check_eq_ok.mpr (by decide +kernel)
  have hpassword : Http.TextRule.password.check "p" = .ok "p" :=
    Http.TextRule.check_eq_ok.mpr (by decide +kernel)
  have hread := Http.Registration.read_texts husername haddress hpassword
  obtain ⟨userId, hdeployed, henrolment⟩ :=
    exists_enrolment hregisters hread Service.lenient_accepts Service.lenient_hash
      (site.reads_posting _ _) Token.unaryId_injective .epoch now
  generalize hverified : (Doing.verification userId).after .lenient registered now = verified
    at hdeployed henrolment
  have hnow : now.InEra := ⟨by decide, by decide⟩
  have hlast : Moment.InEra { micros := 1700000900000000 } := ⟨by decide, by decide⟩
  have haccess : now.add? Service.lenient.issuer.accessTtl =
      some { micros := 1700000900000000 } := rfl
  have hrefresh : now.add? Service.lenient.issuer.refreshTtl =
      some { micros := 1700604800000000 } := rfl
  have haddressed : address ≠ "" := by
    rintro rfl
    exact absurd hlong (by decide)
  obtain ⟨session, later, hexec, -, haddressee, -⟩ :=
    Enrolment.login Service.lenient_plain Token.unaryId_injective Token.unaryId_ne_empty hdeployed
      henrolment haddressed (.inl rfl) hnow haccess hlast hrefresh
  have hcredentials := Http.Credentials.read_texts
    (show Http.TextRule.identifier.check "ann" = .ok "ann" from
      Http.TextRule.check_eq_ok.mpr (by decide +kernel)) hpassword
  obtain ⟨answer, hanswered, hsends⟩ :=
    hlogs.respond_value (Http.Route.handsOn_login .lenient) hcredentials hexec site
  have htells := hsends.tells (site.reads_posting _ _)
  obtain ⟨found, tokenId, expires, hbody, -, -, -, -, -, haway, -⟩ :=
    login_refresh_token (hdeployed.atMoment now).twins.undisturbed hlogs hanswered htells.status
  have hsame : Http.Session.toJson session = Http.Session.toJson found :=
    Http.Body.json.inj (htells.body.symm.trans hbody)
  have hemail : found.account.email = address :=
    (Http.Session.email_eq_of_toJson hsame).symm.trans haddressee
  let grant : Token.Grant :=
    ⟨.refresh, found.account.id, found.account.email, tokenId, now, expires⟩
  have hlarge : 3011 < grant.size := by
    rw [← hemail] at hlong
    exact hlong.trans_le (Token.Grant.escapedLength_le_size grant)
  have hrefreshes : (Http.Request.posting "/api/v1/auth/refresh"
      [("refresh_token", found.refreshToken)]).Submits .refresh _ :=
    Http.Request.submits_posting rfl rfl (List.cons_ne_nil _ _)
      (List.nodup_singleton _)
  obtain ⟨response, hrefused, hrejects⟩ := (haway hlarge).refresh hrefreshes ⟨rfl, rfl⟩ later site
  refine ⟨userId, answer, found, later, response, ?_, htells.status, hbody, hemail, hrefused,
    (hrejects.tells (site.reads_posting _ _)).status⟩
  rw [hverified, hanswered]

end AccountSessions
