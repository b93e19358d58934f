import AccountSessions.Proofs.BearerHeaders
import AccountSessions.Proofs.Requests
import AccountSessions.Proofs.SmallDeployment
import AccountSessions.Proofs.TokenForm

/-!
# Tokens that the secret did not sign

A token whose last segment is not the digest of the text before it is refused before its
payload is read.  The reason that is given depends on the form of the token and on its
header alone.  The refusal is the same in every state and under every disturbance, and
it leaves nothing but lines of the log.
-/

namespace AccountSessions

namespace Token

/-- The text does not consist of three segments of which the last is the digest of the
text before it. -/
def Untrusted (secret token : String) : Prop :=
  ∀ segments : Segments, token.toList = segments.text →
    Base64.decode (Text.Utf8.encode segments.tail) ≠
      .ok (Hmac.sign (Text.Utf8.encode secret.toList) (Text.Utf8.encode segments.signed))

/-! ## The reason of the refusal -/

def headerFault (header : Json) : Rejection :=
  let found := (header.member? "alg").getD .null
  if found.text? ≠ some algorithm then .wrongAlgorithm found
  else .unverified "Signature verification failed."

def distrust (token : String) : Rejection :=
  match openToken token with
  | .ok opened => headerFault opened.header
  | .error reason => reason

theorem verifiedPayload_of_untrusted
    {issuer : Issuer} (hplain : isPlainSecret issuer.secret = true) {token : String}
    (huntrusted : Untrusted issuer.secret token) :
    issuer.verifiedPayload token = .error (.rejected (distrust token)) := by
  unfold Issuer.verifiedPayload distrust
  cases hopen : openToken token with
  | error reason => rfl
  | ok opened =>
      obtain ⟨segments, htoken, hopens⟩ := openToken_eq_ok.mp hopen
      have hsigned : Hmac.sign (Text.Utf8.encode issuer.secret.toList) opened.signed ≠
          opened.signature := by
        intro hsame
        apply huntrusted segments htoken
        rw [hopens.signature, ← hsame, hopens.signed]
      simp only [Except.mapError, ok_bind, headerFault, signedBy_of_plain hplain,
        decide_eq_false hsigned]
      by_cases halgorithm : ((opened.header.member? "alg").getD .null).text? ≠ some algorithm
      · rw [if_pos halgorithm, if_pos halgorithm]
        rfl
      · rw [if_neg halgorithm, if_neg halgorithm]
        rfl

theorem validate_of_untrusted
    {issuer : Issuer} (hplain : isPlainSecret issuer.secret = true) {token : String}
    (huntrusted : Untrusted issuer.secret token) (moment : Moment) (kind : Kind) :
    issuer.validate moment kind token = .error (.rejected (distrust token)) := by
  rw [Issuer.validate, verifiedPayload_of_untrusted hplain huntrusted]
  rfl

/-- Of the segment in the middle it only matters whether it can be decoded. -/
theorem distrust_text (segments : Segments) :
    distrust (String.ofList segments.text) =
      match (Base64.decode (Text.Utf8.encode segments.head)).toOption.bind objectOf?,
        (Base64.decode (Text.Utf8.encode segments.body)).toOption.isSome,
        (Base64.decode (Text.Utf8.encode segments.tail)).toOption.isSome with
      | some header, true, true => headerFault header
      | _, _, _ => .malformedHeader := by
  unfold distrust openToken
  rw [Text.Utf8.fields_encode, String.toList_ofList, segments.fields_text]
  simp only [List.map_cons, List.map_nil]
  cases (Base64.decode (Text.Utf8.encode segments.head)).toOption.bind objectOf? with
  | none => rfl
  | some header =>
      cases (Base64.decode (Text.Utf8.encode segments.body)).toOption with
      | none => rfl
      | some payload =>
          cases (Base64.decode (Text.Utf8.encode segments.tail)).toOption with
          | none => rfl
          | some signature => rfl

/-- Two tokens that differ in their middle segments only, and both or neither of these
can be decoded. -/
structure SameShell (segments other : Segments) : Prop where
  head : other.head = segments.head
  tail : other.tail = segments.tail
  decodes : (Base64.decode (Text.Utf8.encode other.body)).toOption.isSome =
    (Base64.decode (Text.Utf8.encode segments.body)).toOption.isSome

theorem SameShell.distrust_eq {segments other : Segments} (hshell : SameShell segments other) :
    distrust (String.ofList other.text) = distrust (String.ofList segments.text) := by
  rw [distrust_text, distrust_text, hshell.head, hshell.tail, hshell.decodes]

end Token

/-! ## Operations -/

/-- In every state the operation fails with the refusal and leaves nothing but lines of
the log. -/
def Operation.Refuses {α : Type} (operation : Operation α) (refusal : Refusal) : Prop :=
  ∀ state : State, ∃ lines,
    exec operation state =
      (.error (.refused refusal), { state with log := state.log ++ lines })

namespace Operation.Refuses

variable {α β : Type} {operation : Operation α} {refusal : Refusal}

theorem bind (hrefuses : Refuses operation refusal) (next : α → Operation β) :
    Refuses (operation >>= next) refusal := by
  intro state
  obtain ⟨lines, hexec⟩ := hrefuses state
  exact ⟨lines, by rw [exec_bind, hexec]⟩

theorem note_throw (level : Log.Level) (source : Log.Source) (text : String) :
    Refuses (note level source text >>= fun _ => (throw (.refused refusal) : Operation α))
      refusal :=
  fun _ => ⟨[⟨level, source, text⟩], rfl⟩

theorem tryCatch
    (hrefuses : Refuses operation refusal) {handler : Failure → Operation α} {other : Refusal}
    (hhandler : Refuses (handler (.refused refusal)) other) :
    Refuses (MonadExcept.tryCatch operation handler) other := by
  intro state
  obtain ⟨first, hfirst⟩ := hrefuses state
  obtain ⟨second, hsecond⟩ := hhandler { state with log := state.log ++ first }
  refine ⟨first ++ second, ?_⟩
  rw [exec_tryCatch, hfirst, ← List.append_assoc]
  exact hsecond

end Operation.Refuses

namespace Service

open Operation

/-- No check of the token ever succeeds or breaks down. -/
def Distrusts (service : Service) (token : String) (reason : Token.Rejection) : Prop :=
  ∀ moment kind, service.issuer.validate moment kind token = .error (.rejected reason)

/-- Whoever hands in the token, and for what, is told the same: that it is invalid. -/
structure TurnsDown (service : Service) (token : String) (reason : Token.Rejection) : Prop where
  validate : service.Distrusts token reason
  validateToken : Refuses (service.validateToken token) (.ofToken reason.text)
  refresh : Refuses (service.refresh token) (.ofToken reason.text)
  logout : ∀ userId, Refuses (service.logout userId token) (.ofToken reason.text)

variable {service : Service} {token : String} {reason : Token.Rejection}
  (hdistrusts : service.Distrusts token reason)

include hdistrusts

theorem refuses_validate (kind : Token.Kind) :
    Refuses (service.validate kind token) (.ofToken reason.text) := by
  intro state
  refine ⟨[⟨.debug, .tokens, "Rejected " ++ kind.name ++ " token: " ++ reason.text⟩], ?_⟩
  rw [validate, exec_bind, exec_now]
  dsimp only
  rw [hdistrusts state.now kind]
  rfl

theorem refuses_validateRefresh (report : String → String) :
    Refuses (service.validateRefresh token report) (.ofToken reason.text) :=
  (refuses_validate hdistrusts .refresh).tryCatch (.note_throw _ _ _)

theorem refuses_validateToken :
    Refuses (service.validateToken token) (.ofToken reason.text) :=
  (refuses_validate hdistrusts .access).tryCatch ((refuses_validate hdistrusts .refresh).bind _)

theorem refuses_refresh : Refuses (service.refresh token) (.ofToken reason.text) :=
  (refuses_validateRefresh hdistrusts _).bind _

theorem refuses_logout (userId : Int) :
    Refuses (service.logout userId token) (.ofToken reason.text) :=
  (refuses_validateRefresh hdistrusts _).bind _

theorem turnsDown_of_distrusts : service.TurnsDown token reason where
  validate := hdistrusts
  validateToken := refuses_validateToken hdistrusts
  refresh := refuses_refresh hdistrusts
  logout := refuses_logout hdistrusts

end Service

/-! ## Requests -/

namespace Http

open Handling

theorem bearerToken?_bearer
    {token : String} (htrimmed : Text.trimEnds Text.isWordBreak token.toList = token.toList) :
    bearerToken? ("Bearer " ++ token) = if token.toList = [] then none else some token := by
  rw [bearerToken?_append, htrimmed, String.ofList_toList]

variable {service : Service} {token : String} {reason : Token.Rejection}
  (hdistrusts : service.Distrusts token reason) {request : Request}
  (htrimmed : Text.trimEnds Text.isWordBreak token.toList = token.toList)
  (hheader : request.header? "authorization" = some ("Bearer " ++ token))

include hdistrusts htrimmed hheader

theorem exec_identify_distrusted (state : State) :
    ∃ lines,
      exec (identify service request) state =
        (.error .unauthenticated, { state with log := state.log ++ lines }) := by
  unfold identify
  rw [hheader, Option.bind_some, bearerToken?_bearer htrimmed]
  by_cases hempty : token.toList = []
  · rw [if_pos hempty]
    exact ⟨[], by rw [List.append_nil]; rfl⟩
  · rw [if_neg hempty]
    obtain ⟨lines, hexec⟩ := Service.refuses_validateToken hdistrusts state
    refine ⟨lines, ?_⟩
    dsimp only
    rw [exec_tryCatch, ofOperation, exec_adapt, hexec]
    rfl

/-- A request that is not answered before its caller is identified. -/
theorem respond_unauthenticated
    {route : Route} (hroute : route = .identity ∨ route = .logoutAll)
    (hpath : Route.ofPath? (Target.ofText request.target).path = some route)
    (hmethod : request.method = route.method) (site : Site) (state : State) :
    ∃ response lines,
      (respond service site request).run state =
        (response, { state with log := state.log ++ lines }) ∧
      site.Sends request Rejection.unauthenticatedResponse response := by
  obtain ⟨lines, hidentify⟩ := exec_identify_distrusted hdistrusts htrimmed hheader state
  have hserve : exec (route.serve service request) state =
      (.error .unauthenticated, { state with log := state.log ++ lines }) := by
    rcases hroute with rfl | rfl
    · rw [Route.serve, exec_bind, hidentify]
    · rw [Route.serve, exec_bind, hidentify]
  have hasks : request.Asks route := ⟨hpath, hmethod⟩
  obtain ⟨response, hrun, hsends⟩ := hasks.respond_sends service site state
  rw [hserve] at hrun hsends
  exact ⟨response, lines, hrun, hsends⟩

end Http

/-! ## The whole -/

/-- A token that the secret did not sign is turned down for one reason, whatever its
middle segment spells, and does not authenticate a request. -/
theorem untrusted_token_refused
    {service : Service} (hplain : Token.isPlainSecret service.issuer.secret = true)
    {token : String} (huntrusted : Token.Untrusted service.issuer.secret token) :
    ∃ reason,
      service.TurnsDown token reason ∧
      (∀ segments other : Token.Segments, token.toList = segments.text →
        Token.SameShell segments other →
        Token.Untrusted service.issuer.secret (String.ofList other.text) →
        service.TurnsDown (String.ofList other.text) reason) ∧
      (Text.trimEnds Text.isWordBreak token.toList = token.toList →
        ∀ (request : Http.Request) (route : Http.Route),
          route = .identity ∨ route = .logoutAll →
          Http.Route.ofPath? (Http.Target.ofText request.target).path = some route →
          request.method = route.method →
          request.header? "authorization" = some ("Bearer " ++ token) →
          ∀ (site : Http.Site) (state : State), ∃ response lines,
            (Http.respond service site request).run state =
              (response, { state with log := state.log ++ lines }) ∧
            (site.reads request = true → response.status = 401) ∧
            (site.reads request = false → response = .bare)) := by
  have hdistrusts : service.Distrusts token (Token.distrust token) :=
    Token.validate_of_untrusted hplain huntrusted
  refine ⟨Token.distrust token, Service.turnsDown_of_distrusts hdistrusts, ?_, ?_⟩
  · intro segments other htoken hshell hother
    have hsame : Token.distrust (String.ofList other.text) = Token.distrust token := by
      rw [hshell.distrust_eq, ← htoken, String.ofList_toList]
    rw [← hsame]
    exact Service.turnsDown_of_distrusts (Token.validate_of_untrusted hplain hother)
  · intro htrimmed request route hroute hpath hmethod hheader site state
    obtain ⟨response, lines, hrun, hsends⟩ := Http.respond_unauthenticated hdistrusts htrimmed
      hheader hroute hpath hmethod site state
    exact ⟨response, lines, hrun, fun hreads => (hsends.tells hreads).status, hsends.bare⟩

/-- Three letters between two points. -/
theorem untrusted_token_refused_letters :
    let site : Http.Site := .ofOrigins []
    let request : Http.Request :=
      ⟨"GET", "/api/v1/auth/me", [("Authorization", "Bearer a.b.c")], []⟩
    Token.Untrusted Service.lenient.issuer.secret "a.b.c" ∧
      (∃ reason, Service.lenient.TurnsDown "a.b.c" reason) ∧
      ∃ response lines,
        (Http.respond .lenient site request).run (State.start .epoch) =
          (response, { State.start .epoch with log := lines }) ∧
        response.status = 401 := by
  intro site request
  have huntrusted : Token.Untrusted Service.lenient.issuer.secret "a.b.c" := by
    intro segments htoken hdecode
    have hparts : Text.fields '.' "a.b.c".toList = [['a'], ['b'], ['c']] := by decide +kernel
    rw [htoken, segments.fields_text] at hparts
    simp only [List.cons.injEq] at hparts
    rw [hparts.2.2.1] at hdecode
    cases hdecode
  obtain ⟨reason, hturns, -, hrequest⟩ :=
    untrusted_token_refused Service.lenient_plain huntrusted
  obtain ⟨response, lines, hrun, hstatus, -⟩ :=
    hrequest (by decide +kernel) request .identity (.inl rfl) (by decide +kernel) rfl
      (by decide +kernel) site (State.start .epoch)
  have hreads : site.reads request = true := by decide +kernel
  exact ⟨huntrusted, ⟨reason, hturns⟩, response, _, hrun, hstatus hreads⟩

end AccountSessions
