import AccountSessions.Proofs.SessionCalls

/-!
# Fresh tokens

The payload of a token keeps its id, and a token can be read back as its payload.  Ids are
drawn one after the other, two by a login and one by a refresh.  So as long as the supply
of ids does not repeat itself, no token is handed out twice.
-/

namespace AccountSessions

/-! ## Numbers of tokens -/

namespace Token.Issuer

/-- The token was signed for a grant with the id. -/
def Marks (issuer : Issuer) (tokenId token : String) : Prop :=
  ∃ grant : Grant, sign issuer.secret grant.payload = .ok token ∧ grant.tokenId = tokenId

variable {issuer : Issuer} {tokenId token : String}

theorem marks_of_issue
    {kind : Kind} {now : Moment} {userId : Int} {email : String}
    (hissue : issuer.issue kind now tokenId userId (some email) = .ok token) :
    issuer.Marks tokenId token := by
  obtain ⟨expires, -, hsign⟩ := issue_eq_ok.mp hissue
  exact ⟨_, hsign, rfl⟩

theorem Marks.tokenId_eq
    {other : String} (hmarks : issuer.Marks tokenId token) (hother : issuer.Marks other token) :
    tokenId = other := by
  obtain ⟨grant, hsign, rfl⟩ := hmarks
  obtain ⟨grant', hsign', rfl⟩ := hother
  exact Grant.tokenId_eq_of_sign hsign hsign'

end Token.Issuer

/-- Distinct tokens, with numbers behind the first one and up to the last one. -/
structure Minted (issuer : Token.Issuer) (ids : Nat → String) (first last : Nat)
    (tokens : List String) : Prop where
  ordered : first ≤ last
  distinct : tokens.Nodup
  numbered : ∀ token ∈ tokens, ∃ number, first < number ∧ number ≤ last ∧
    issuer.Marks (ids number) token

namespace Minted

variable {issuer : Token.Issuer} {ids : Nat → String} {first middle last : Nat}

theorem nil (hordered : first ≤ last) : Minted issuer ids first last [] :=
  ⟨hordered, .nil, fun _ hmem => (List.not_mem_nil hmem).elim⟩

theorem single {token : String} (hmarks : issuer.Marks (ids (first + 1)) token) :
    Minted issuer ids first (first + 1) [token] where
  ordered := Nat.le_succ first
  distinct := List.nodup_singleton token
  numbered := by
    intro other hother
    rw [List.mem_singleton.mp hother]
    exact ⟨first + 1, Nat.lt_succ_self first, Nat.le_refl _, hmarks⟩

theorem append
    (hids : Function.Injective ids) {tokens more : List String}
    (hfirst : Minted issuer ids first middle tokens) (hlast : Minted issuer ids middle last more) :
    Minted issuer ids first last (tokens ++ more) where
  ordered := Nat.le_trans hfirst.ordered hlast.ordered
  distinct := by
    refine List.nodup_append.mpr ⟨hfirst.distinct, hlast.distinct, ?_⟩
    -- A token on both sides would have two numbers, one on each side of the middle.
    rintro token hold _ hnew rfl
    obtain ⟨number, -, hbefore, hmarks⟩ := hfirst.numbered token hold
    obtain ⟨other, hbehind, -, hother⟩ := hlast.numbered token hnew
    have hsame : number = other := hids (hmarks.tokenId_eq hother)
    omega
  numbered := by
    intro token hmem
    rcases List.mem_append.mp hmem with hold | hnew
    · obtain ⟨number, hbehind, hbefore, hmarks⟩ := hfirst.numbered token hold
      exact ⟨number, hbehind, Nat.le_trans hbefore hlast.ordered, hmarks⟩
    · obtain ⟨number, hbehind, hbefore, hmarks⟩ := hlast.numbered token hnew
      exact ⟨number, Nat.lt_of_le_of_lt hfirst.ordered hbehind, hbefore, hmarks⟩

end Minted

/-! ## Tokens of a history -/

/-- The new tokens that a call has handed out: two by a login, and the access token by a
refresh. -/
def Entry.issued (entry : Entry) : List String :=
  match entry.call, entry.outcome with
  | .login _ _, .ok (.session session) => [session.accessToken, session.refreshToken]
  | .refresh _, .ok (.session session) => [session.accessToken]
  | _, _ => []

section Steps

variable {state : State} (hundisturbed : state.disturbances = [])
  (hfixed : state.tokenIds.fixed = none) (service : Service)

include hfixed

theorem Service.LoginEnd.minted
    {service : Service} {identifier password : String} {result : Except Failure Session × State}
    (hend : Service.LoginEnd service state identifier password result)
    (hids : Function.Injective state.tokenIds.text) {session : Session}
    (hsession : result.1 = .ok session) :
    Minted service.issuer state.tokenIds.text state.tokenIds.drawn result.2.tokenIds.drawn
      [session.accessToken, session.refreshToken] := by
  obtain ⟨account, -, -, -, -, hopening⟩ := hend.exists_opening hsession
  cases hopening with
  | accessFails | refreshFails | unfit | taken => cases hsession
  | opened haccess hrefresh =>
      obtain rfl := Except.ok.inj hsession
      rw [TokenIds.next_of_unfixed hfixed] at haccess
      rw [TokenIds.next_rest_of_unfixed hfixed] at hrefresh
      have hlast : state.tokenIds.rest.rest.drawn = state.tokenIds.drawn + 2 := by
        rw [TokenIds.rest_of_unfixed ((TokenIds.fixed_rest _).trans hfixed),
          TokenIds.rest_of_unfixed hfixed]
      rw [show [_, _] = [_] ++ [_] from rfl, hlast]
      exact .append hids (.single (Token.Issuer.marks_of_issue haccess))
        (.single (Token.Issuer.marks_of_issue hrefresh))

include hundisturbed

theorem Service.minted_of_refresh
    {token : String} {session : Session} {later : State}
    (hrefresh : exec (service.refresh token) state = (.ok session, later)) :
    Minted service.issuer state.tokenIds.text state.tokenIds.drawn later.tokenIds.drawn
      [session.accessToken] := by
  obtain ⟨claims, account, accessToken, -, -, -, haccess, rfl, hlater⟩ :=
    Service.renewed_of_refresh hundisturbed service hrefresh
  rw [TokenIds.next_of_unfixed hfixed] at haccess
  rw [hlater, TokenIds.rest_of_unfixed hfixed]
  exact .single (Token.Issuer.marks_of_issue haccess)

theorem step_minted
    (hids : Function.Injective state.tokenIds.text) (moment : Moment) (call : Call) :
    Minted service.issuer state.tokenIds.text state.tokenIds.drawn
      (step service state moment call).2.tokenIds.drawn
      (Entry.issued ⟨moment, call, (step service state moment call).1⟩) := by
  obtain ⟨-, hfollows⟩ := step_effect hundisturbed service moment call
  have hordered : state.tokenIds.drawn ≤ (step service state moment call).2.tokenIds.drawn :=
    hfollows.drawn
  have hcalm : ({ state with now := moment } : State).disturbances = [] := hundisturbed
  have hfree : ({ state with now := moment } : State).tokenIds.fixed = none := hfixed
  cases call with
  | login identifier password =>
      have hend := Service.exec_login hcalm service identifier password
      unfold step Call.perform at hordered ⊢
      rw [exec_map] at hordered ⊢
      cases houtcome : (exec (service.login identifier password) { state with now := moment }).1 with
      | error failure => exact .nil hordered
      | ok session => exact hend.minted hfree hids houtcome
  | refresh token =>
      unfold step Call.perform at hordered ⊢
      rw [exec_map] at hordered ⊢
      rcases hrefresh : exec (service.refresh token) { state with now := moment } with
        ⟨outcome, later⟩
      rw [hrefresh] at hordered
      cases outcome with
      | error failure => exact .nil hordered
      | ok session => exact Service.minted_of_refresh hcalm hfree service hrefresh
  | register | verifyEmail | validateToken | logout | logoutAll | deactivate | activate |
      listSessions | purge =>
      exact .nil hordered

end Steps

theorem Run.minted
    {service : Service} {begin : Moment} {ids : Nat → String} {history : List Entry}
    {state : State} (hrun : Run service (State.start begin ids) history state)
    (hids : Function.Injective ids) :
    Minted service.issuer ids 0 state.tokenIds.drawn (history.flatMap Entry.issued) := by
  induction hrun with
  | nil => exact .nil (Nat.le_refl 0)
  | @snoc history state hrun moment call ih =>
      obtain ⟨hundisturbed, hfixed, htext⟩ := hrun.supplied rfl
      have hsupply : state.tokenIds.text = ids := htext
      have hstep := step_minted hundisturbed hfixed service (hsupply ▸ hids) moment call
      rw [hsupply] at hstep
      rw [List.flatMap_append, List.flatMap_singleton]
      exact .append hids ih hstep

end AccountSessions
