import AccountSessions.Proofs.ClaimChecks

/-!
# Issued tokens

What an issuer says about a token that it has issued, at any moment.  The payload of the
token is known, so the checks are evaluated on it: the token counts from the second of
its issue to the second of its end, as its own kind and no other.
-/

namespace AccountSessions

/-! ## Subjects of digits -/

theorem Text.isDigit_of_isAsciiDigit {c : Char} (hc : WholeNumber.isAsciiDigit c = true) :
    Text.isDigit c = true := by
  have hcode := WholeNumber.toNat_lt_of_isAsciiDigit hc
  refine Text.Span.covers_iff.mpr ⟨⟨48, 57, 1⟩, List.mem_cons_self, ?_⟩
  rw [Text.Span.contains_iff]
  exact ⟨hcode.1, Nat.le_of_lt_succ hcode.2, Nat.mod_one _⟩

namespace Token

theorem isDigits_toString {userId : Int} (hid : 0 ≤ userId) :
    Claims.isDigits (toString userId) = true := by
  have hspelled : (toString userId).toList = Nat.toDigits 10 userId.natAbs := by
    rw [WholeNumber.toList_toString, WholeNumber.spelled, if_neg (by omega), List.nil_append]
  have hne : toString userId ≠ "" := by
    intro hempty
    rw [hempty] at hspelled
    exact Nat.toDigits_ne_nil hspelled.symm
  simp only [Claims.isDigits, hspelled, Bool.and_eq_true, Bool.not_eq_true', List.all_eq_true]
  refine ⟨by simpa using hne, ?_⟩
  intro c hc
  exact Text.isDigit_of_isAsciiDigit (WholeNumber.isAsciiDigit_of_mem_toDigits hc)

theorem fewDigits_of_lt_word {userId : Int} (hword : userId < 2 ^ 63) :
    userId < 10 ^ WholeNumber.digitLimit := by
  calc
    userId < 2 ^ 63 := hword
    _ ≤ 10 ^ 19 := by norm_num
    _ ≤ 10 ^ WholeNumber.digitLimit := pow_le_pow_right₀ (by norm_num) (by decide)

/-! ## Seconds as moments -/

theorem exists_momentOf_int
    {seconds : Int} (hlow : 0 ≤ seconds) (hhigh : seconds * 1000000 ≤ latestMicros) :
    ∃ moment : Moment, Claims.momentOf (.int seconds) = .ok moment ∧
      moment.micros = seconds * Duration.microsPerSecond := by
  have hcalendar : earliestMicros ≤ seconds * Duration.microsPerSecond ∧
      seconds * Duration.microsPerSecond ≤ latestMicros := by
    unfold Duration.microsPerSecond earliestMicros
    omega
  refine ⟨⟨_, hcalendar⟩, ?_, rfl⟩
  have hword : WholeNumber.fitsWord seconds = true := by
    unfold latestMicros at hhigh
    simp only [WholeNumber.fitsWord, Bool.and_eq_true, decide_eq_true_eq]
    omega
  have hsystem : ¬ (Claims.latestSystemSecond < seconds ∨
      seconds < Claims.earliestSystemSecond) := by
    unfold latestMicros at hhigh
    unfold Claims.latestSystemSecond Claims.earliestSystemSecond
    omega
  have hmoment : Moment.ofMicros? (seconds * Duration.microsPerSecond) =
      some ⟨_, hcalendar⟩ := Moment.ofMicros?_eq_some.mpr rfl
  rw [Claims.momentOf, Claims.momentOfSeconds, hword, if_neg (by decide), if_neg hsystem,
    Int.add_zero, hmoment]

theorem momentOf_second {moment : Moment} (hlow : 0 ≤ moment.micros) :
    Claims.momentOf (.int moment.second) = .ok moment.startOfSecond := by
  have hhigh := moment.inCalendar.2
  have hsecond := moment.second_eq_ediv
  obtain ⟨start, hstart, hmicros⟩ :=
    exists_momentOf_int (show 0 ≤ moment.second by omega)
      (show moment.second * 1000000 ≤ latestMicros by omega)
  rw [hstart, Moment.ext (b := moment.startOfSecond) hmicros]

/-! ## Grants -/

/-- What a new token is issued for. -/
structure Grant where
  kind : Kind
  userId : Int
  email : String
  tokenId : String
  issued : Moment
  expires : Moment

namespace Grant

def payload (grant : Grant) : Json :=
  Token.payload grant.userId (some grant.email) grant.tokenId grant.kind
    (epochSeconds grant.issued) (epochSeconds grant.expires)

structure Readable (grant : Grant) : Prop where
  notNegative : 0 ≤ grant.userId
  fewDigits : grant.userId < 10 ^ WholeNumber.digitLimit
  hasEmail : grant.email ≠ ""
  hasTokenId : grant.tokenId ≠ ""

def claims (grant : Grant) (start stop : Moment) : Claims where
  userId := grant.userId
  email := .plain grant.email
  tokenId := .plain grant.tokenId
  tokenType := .text grant.kind.name
  issuedAt := start
  notBefore := start
  expiresAt := stop

theorem legible_payload (grant : Grant) : Json.Legible Json.nestingLimit grant.payload :=
  Token.legible_payload _ _ _ _ _ _

theorem missingClaim?_payload (grant : Grant) : missingClaim? grant.payload = none :=
  rfl

theorem otherFault?_payload (grant : Grant) : otherFault? grant.payload = none :=
  rfl

theorem subject?_payload {grant : Grant} (hreadable : grant.Readable) :
    Claims.subject? grant.payload = some (toString grant.userId) :=
  subject?_eq_some.mpr ⟨rfl, isDigits_toString hreadable.notNegative⟩

theorem read_subject {grant : Grant} (hreadable : grant.Readable) :
    WholeNumber.read (toString grant.userId).toList = .ok grant.userId := by
  have hlow := hreadable.notNegative
  have hhigh := hreadable.fewDigits
  apply WholeNumber.read_toString
  generalize WholeNumber.digitLimit = limit at hhigh ⊢
  zify
  rwa [abs_of_nonneg hlow]

theorem isEmpty_plain {s : String} (hs : s ≠ "") : (JsonString.plain s).isEmpty = false := by
  have hne : s.toList ≠ [] := by simpa using hs
  simp [JsonString.isEmpty, JsonString.codes, hne]

theorem ofPayload_payload
    {grant : Grant} (hreadable : grant.Readable) {start stop : Moment}
    (hstart : Claims.momentOf (.int (epochSeconds grant.issued)) = .ok start)
    (hstop : Claims.momentOf (.int (epochSeconds grant.expires)) = .ok stop) :
    Claims.ofPayload grant.payload = .ok (grant.claims start stop) := by
  refine ofPayload_eq_ok.mpr ⟨_, subject?_payload hreadable, read_subject hreadable, ?_, ?_,
    momentClaim_eq_ok.mpr ⟨_, rfl, hstart⟩, momentClaim_eq_ok.mpr ⟨_, rfl, hstart⟩,
    momentClaim_eq_ok.mpr ⟨_, rfl, hstop⟩, rfl⟩
  · exact textClaim?_eq_some.mpr ⟨rfl, isEmpty_plain hreadable.hasEmail⟩
  · exact textClaim?_eq_some.mpr ⟨rfl, isEmpty_plain hreadable.hasTokenId⟩

theorem checkRegistered_payload (grant : Grant) (now : Int) :
    checkRegistered now grant.payload =
      if now < epochSeconds grant.issued then
        .error (.rejected (.unverified "The token is not yet valid (nbf)"))
      else if epochSeconds grant.expires < now then .error (.rejected .expired)
      else .ok () := by
  have hissued : (grant.payload.member? "iat").getD .null = .int (epochSeconds grant.issued) := rfl
  have hbefore : (grant.payload.member? "nbf").getD .null = .int (epochSeconds grant.issued) := rfl
  have hexpires : (grant.payload.member? "exp").getD .null = .int (epochSeconds grant.expires) :=
    rfl
  unfold checkRegistered checkTimes
  rw [missingClaim?_payload, otherFault?_payload]
  simp only [hissued, hbefore, hexpires, wholeClaim, ok_bind]
  by_cases hearly : now < epochSeconds grant.issued
  · rw [if_pos hearly, if_pos hearly]
    rfl
  · by_cases hlate : epochSeconds grant.expires < now
    · rw [if_neg hearly, if_neg hearly, if_pos hlate, if_pos hlate]
      rfl
    · rw [if_neg hearly, if_neg hearly, if_neg hlate, if_neg hlate]
      rfl

end Grant

/-! ## Validation of an issued token -/

namespace Issuer

/-- The token is refused with a reason. -/
def Rejects (issuer : Issuer) (moment : Moment) (kind : Kind) (token : String) : Prop :=
  ∃ reason, issuer.validate moment kind token = .error (.rejected reason)

theorem issue_eq_ok
    {issuer : Issuer} {kind : Kind} {now : Moment} {tokenId : String} {userId : Int}
    {email : String} {token : String} :
    issuer.issue kind now tokenId userId (some email) = .ok token ↔
      ∃ expires, now.add? (issuer.ttl kind) = some expires ∧
        sign issuer.secret (Grant.payload ⟨kind, userId, email, tokenId, now, expires⟩) =
          .ok token := by
  unfold issue
  cases now.add? (issuer.ttl kind) with
  | none => simp
  | some expires => simp [Grant.payload]

/-- Under a plain secret a token can be issued whenever its end lies in the calendar. -/
theorem exists_issue_of_plain
    {issuer : Issuer} (hplain : isPlainSecret issuer.secret = true) {now : Moment}
    {kind : Kind} {expires : Moment} (hexpires : now.add? (issuer.ttl kind) = some expires)
    (tokenId : String) (userId : Int) (email : String) :
    ∃ token, issuer.issue kind now tokenId userId (some email) = .ok token := by
  obtain ⟨token, hsign⟩ := exists_sign_of_plain hplain
    (Grant.payload ⟨kind, userId, email, tokenId, now, expires⟩)
  exact ⟨token, issue_eq_ok.mpr ⟨expires, hexpires, hsign⟩⟩

theorem issues_until
    {issuer : Issuer} (hplain : isPlainSecret issuer.secret = true) {kind : Kind} {now : Moment}
    (hnow : now.InEra) (hlifetime : 0 < (issuer.ttl kind).micros)
    (hlast : now.micros + (issuer.ttl kind).micros < Moment.yearStart 9999)
    (tokenId : String) (userId : Int) (email : String) :
    ∃ token, issuer.issue kind now tokenId userId (some email) = .ok token := by
  have hlow := hnow.notBefore
  rw [Moment.yearStart_1970] at hlow
  rw [Moment.yearStart_9999] at hlast
  have hcalendar : earliestMicros ≤ now.micros + (issuer.ttl kind).micros ∧
      now.micros + (issuer.ttl kind).micros ≤ latestMicros := by
    unfold earliestMicros latestMicros
    omega
  let expires : Moment := ⟨now.micros + (issuer.ttl kind).micros, hcalendar⟩
  have hexpires : now.add? (issuer.ttl kind) = some expires := Moment.add?_eq_some.mpr rfl
  exact exists_issue_of_plain hplain hexpires tokenId userId email

variable {issuer : Issuer} {token : String} {grant : Grant}

theorem validate_of_verifiedPayload
    (hpayload : issuer.verifiedPayload token = .ok grant.payload) (moment : Moment) (kind : Kind) :
    issuer.validate moment kind token = (do
      checkRegistered moment.second grant.payload
      if kind = grant.kind then Claims.ofPayload grant.payload
      else throw (.rejected (.wrongKind kind))) := by
  have htype : (grant.payload.member? "typ").bind Json.text? = some grant.kind.name := rfl
  have hname : some grant.kind.name = some kind.name ↔ kind = grant.kind := by
    cases kind <;> cases grant.kind <;> decide
  unfold validate
  rw [hpayload, ok_bind, htype]
  by_cases hkind : kind = grant.kind
  · simp [hkind]
  · have hother : some grant.kind.name ≠ some kind.name := mt hname.mp hkind
    simp only [if_pos hother, if_neg hkind]
    rfl

theorem validate_grant
    (hpayload : issuer.verifiedPayload token = .ok grant.payload) (hreadable : grant.Readable)
    {start stop : Moment}
    (hstart : Claims.momentOf (.int (epochSeconds grant.issued)) = .ok start)
    (hstop : Claims.momentOf (.int (epochSeconds grant.expires)) = .ok stop)
    {moment : Moment} (hfrom : epochSeconds grant.issued ≤ moment.second)
    (huntil : moment.second ≤ epochSeconds grant.expires) :
    issuer.validate moment grant.kind token = .ok (grant.claims start stop) := by
  rw [validate_of_verifiedPayload hpayload, Grant.checkRegistered_payload,
    if_neg (Int.not_lt.mpr hfrom), if_neg (Int.not_lt.mpr huntil), if_pos rfl,
    Grant.ofPayload_payload hreadable hstart hstop]
  rfl

theorem validate_in_era
    (hpayload : issuer.verifiedPayload token = .ok grant.payload) (hreadable : grant.Readable)
    (hissued : grant.issued.InEra) (hexpires : grant.expires.InEra) {moment : Moment}
    (hfrom : grant.issued.second ≤ moment.second) (huntil : moment.second ≤ grant.expires.second) :
    issuer.validate moment grant.kind token =
      .ok (grant.claims grant.issued.startOfSecond grant.expires.startOfSecond) := by
  have hfirst : epochSeconds grant.issued = grant.issued.second := epochSeconds_eq_second hissued
  have hlast : epochSeconds grant.expires = grant.expires.second := epochSeconds_eq_second hexpires
  have hlow := hissued.notBefore
  have hlowLast := hexpires.notBefore
  rw [Moment.yearStart_1970] at hlow hlowLast
  refine validate_grant hpayload hreadable ?_ ?_ ?_ ?_
  · rw [hfirst, momentOf_second hlow]
  · rw [hlast, momentOf_second hlowLast]
  · rwa [hfirst]
  · rwa [hlast]

theorem validate_issued
    (hplain : isPlainSecret issuer.secret = true) {kind : Kind} {now expires : Moment}
    {tokenId email : String} {userId : Int}
    (hreadable : Grant.Readable ⟨kind, userId, email, tokenId, now, expires⟩)
    (hissue : issuer.issue kind now tokenId userId (some email) = .ok token)
    (hexpires : now.add? (issuer.ttl kind) = some expires) (hnow : now.InEra)
    (hlast : expires.InEra) {moment : Moment} (hfrom : now.second ≤ moment.second)
    (huntil : moment.second ≤ expires.second) :
    issuer.validate moment kind token =
      .ok (Grant.claims ⟨kind, userId, email, tokenId, now, expires⟩ now.startOfSecond
        expires.startOfSecond) := by
  obtain ⟨found, hfound, hsign⟩ := issue_eq_ok.mp hissue
  obtain rfl := Option.some.inj (hexpires.symm.trans hfound)
  have hpayload := verifiedPayload_sign hplain (Grant.legible_payload _) rfl hsign
  exact validate_in_era hpayload hreadable hnow hlast hfrom huntil

/-- The token counts in the second of its issue if it does not end before it begins. -/
theorem validate_at_once
    (hplain : isPlainSecret issuer.secret = true) {kind : Kind} {now : Moment}
    {tokenId email : String} {userId : Int}
    (hissue : issuer.issue kind now tokenId userId (some email) = .ok token)
    (hreadable : ∀ expires, Grant.Readable ⟨kind, userId, email, tokenId, now, expires⟩)
    (hlifetime : 0 < (issuer.ttl kind).micros) (hnow : now.InEra)
    (hlast : ∀ expires, now.add? (issuer.ttl kind) = some expires → expires.InEra) :
    ∃ claims, issuer.validate now kind token = .ok claims ∧ claims.userId = userId ∧
      claims.email = .plain email := by
  obtain ⟨expires, hexpires, -⟩ := issue_eq_ok.mp hissue
  have huntil : now.second ≤ expires.second := by
    have hmicros := Moment.add?_eq_some.mp hexpires
    rw [Moment.second_eq_ediv, Moment.second_eq_ediv]
    omega
  exact ⟨_, validate_issued hplain (hreadable expires) hissue hexpires hnow (hlast _ hexpires)
    (Int.le_refl _) huntil, rfl, rfl⟩

theorem rejects_outside
    (hpayload : issuer.verifiedPayload token = .ok grant.payload) (kind : Kind)
    {moment : Moment}
    (houtside : ¬ (epochSeconds grant.issued ≤ moment.second ∧
      moment.second ≤ epochSeconds grant.expires)) :
    issuer.Rejects moment kind token := by
  unfold Rejects
  rw [validate_of_verifiedPayload hpayload, Grant.checkRegistered_payload]
  by_cases hearly : moment.second < epochSeconds grant.issued
  · exact ⟨_, by rw [if_pos hearly]; rfl⟩
  · have hlate : epochSeconds grant.expires < moment.second := by omega
    exact ⟨_, by rw [if_neg hearly, if_pos hlate]; rfl⟩

theorem rejects_other_kind
    (hpayload : issuer.verifiedPayload token = .ok grant.payload) {kind : Kind}
    (hkind : kind ≠ grant.kind) (moment : Moment) :
    issuer.Rejects moment kind token := by
  by_cases hinside : epochSeconds grant.issued ≤ moment.second ∧
      moment.second ≤ epochSeconds grant.expires
  · refine ⟨.wrongKind kind, ?_⟩
    rw [validate_of_verifiedPayload hpayload, Grant.checkRegistered_payload,
      if_neg (Int.not_lt.mpr hinside.1), if_neg (Int.not_lt.mpr hinside.2), if_neg hkind]
    rfl
  · exact rejects_outside hpayload kind hinside

/-- A token that counts as one kind is refused as the other. -/
theorem rejects_of_validate
    {moment : Moment} {kind other : Kind} (hother : other ≠ kind) {claims : Claims}
    (hvalid : issuer.validate moment kind token = .ok claims) :
    issuer.Rejects moment other token := by
  obtain ⟨payload, hpayload, hregistered, hkind, -⟩ := validate_eq_ok.mp hvalid
  have hname : some kind.name ≠ some other.name := by
    cases kind <;> cases other <;> simp [Kind.name] at hother ⊢
  refine ⟨.wrongKind other, ?_⟩
  rw [validate, hpayload, ok_bind, hregistered, ok_bind, hkind, if_pos hname]
  rfl

theorem tokenType_of_validate
    {moment : Moment} {kind : Kind} {claims : Claims}
    (hvalid : issuer.validate moment kind token = .ok claims) :
    claims.tokenType = .text kind.name := by
  obtain ⟨payload, -, -, hkind, hclaims⟩ := validate_eq_ok.mp hvalid
  exact tokenType_of_ofPayload hkind hclaims

/-- Whatever the secret, the claims of a signed token are read off the payload of its
grant. -/
theorem ofPayload_of_validate_signed
    (hsign : sign issuer.secret grant.payload = .ok token) {moment : Moment} {kind : Kind}
    {claims : Claims} (hvalid : issuer.validate moment kind token = .ok claims) :
    Claims.ofPayload grant.payload = .ok claims := by
  obtain ⟨payload, hpayload, -, -, hclaims⟩ := validate_eq_ok.mp hvalid
  rwa [eq_of_verifiedPayload_sign grant.legible_payload rfl hsign hpayload] at hclaims

theorem userId_of_validate_signed
    (hsign : sign issuer.secret grant.payload = .ok token) {moment : Moment} {kind : Kind}
    {claims : Claims} (hvalid : issuer.validate moment kind token = .ok claims) :
    claims.userId = grant.userId := by
  have hclaims := ofPayload_of_validate_signed hsign hvalid
  obtain ⟨subject, hsubject, hread, -⟩ := ofPayload_eq_ok.mp hclaims
  have htext : some (Json.text (toString grant.userId)) = some (Json.text subject) :=
    (subject?_eq_some.mp hsubject).1
  injection htext with htext
  injection htext with htext
  injection htext with htext
  rw [← htext] at hread
  exact WholeNumber.eq_of_read_toString hread

/-- A token without an address is never accepted. -/
theorem email_ne_empty_of_validate_signed
    (hsign : sign issuer.secret grant.payload = .ok token) {moment : Moment} {kind : Kind}
    {claims : Claims} (hvalid : issuer.validate moment kind token = .ok claims) :
    grant.email ≠ "" := by
  have hclaims := ofPayload_of_validate_signed hsign hvalid
  obtain ⟨-, -, -, hemail, -⟩ := ofPayload_eq_ok.mp hclaims
  obtain ⟨hmember, hfilled⟩ := textClaim?_eq_some.mp hemail
  have htext : some (Json.text grant.email) = some (Json.string claims.email) := hmember
  injection htext with htext
  injection htext with htext
  intro hempty
  rw [← htext, hempty] at hfilled
  cases hfilled

end Issuer

end Token

end AccountSessions
