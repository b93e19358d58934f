import AccountSessions.Proofs.IssuedTokens
import AccountSessions.Service.Operations

/-!
# Validation undoes issuance

A token that a plain secret signs for a user gives back what was put into it, from the
second in which it was issued to the second in which it ends.  Before and after, and as
the other kind at any time, it is rejected.
-/

namespace AccountSessions.Token

theorem startOfSecond_sub_startOfSecond
    {now expires : Moment} {seconds : Int}
    (hexpires : now.add? (.ofSeconds seconds) = some expires) :
    expires.startOfSecond.micros - now.startOfSecond.micros =
      (Duration.ofSeconds seconds).micros := by
  have hmicros := Moment.add?_eq_some.mp hexpires
  simp only [Moment.startOfSecond, Moment.second_eq_ediv, hmicros, Duration.ofSeconds,
    Duration.microsPerSecond]
  omega

theorem ofSeconds_expiresIn
    {service : Service} {seconds : Int} (httl : service.issuer.accessTtl = .ofSeconds seconds)
    (account : Account) (accessToken refreshToken : String) :
    Duration.ofSeconds (service.session account accessToken refreshToken).expiresIn =
      .ofSeconds seconds := by
  have hwhole : (seconds * Duration.microsPerSecond).tdiv Duration.microsPerSecond = seconds :=
    Int.mul_tdiv_cancel _ (by decide)
  simp only [Service.session, httl, Duration.ofSeconds, hwhole]

theorem validate_issue
    {issuer : Issuer} (hplain : isPlainSecret issuer.secret = true)
    {kind : Kind} {now expires : Moment} {userId : Int} {email tokenId : String}
    (hid : 0 ≤ userId) (hdigits : userId < 10 ^ WholeNumber.digitLimit)
    (hemail : email ≠ "") (htokenId : tokenId ≠ "")
    (hnow : now.InEra) (hexpires : now.add? (issuer.ttl kind) = some expires)
    (hlast : expires.InEra) :
    ∃ token, issuer.issue kind now tokenId userId (some email) = .ok token ∧
      (∀ moment : Moment,
        (now.second ≤ moment.second ∧ moment.second ≤ expires.second →
          issuer.validate moment kind token =
            .ok { userId
                  email := .plain email
                  tokenId := .plain tokenId
                  tokenType := .text kind.name
                  issuedAt := now.startOfSecond
                  notBefore := now.startOfSecond
                  expiresAt := expires.startOfSecond }) ∧
        (¬ (now.second ≤ moment.second ∧ moment.second ≤ expires.second) →
          issuer.Rejects moment kind token) ∧
        ∀ other, other ≠ kind → issuer.Rejects moment other token) ∧
      ∀ seconds, issuer.ttl kind = .ofSeconds seconds →
        expires.startOfSecond.micros - now.startOfSecond.micros = (issuer.ttl kind).micros ∧
        (kind = .access → ∀ service : Service, service.issuer = issuer →
          ∀ account accessToken refreshToken,
            Duration.ofSeconds (service.session account accessToken refreshToken).expiresIn =
              issuer.ttl kind) := by
  let grant : Grant := ⟨kind, userId, email, tokenId, now, expires⟩
  have hreadable : grant.Readable := ⟨hid, hdigits, hemail, htokenId⟩
  obtain ⟨token, hsign⟩ := exists_sign_of_plain hplain grant.payload
  have hpayload := verifiedPayload_sign hplain grant.legible_payload rfl hsign
  have hissued : epochSeconds grant.issued = now.second := epochSeconds_eq_second hnow
  have hends : epochSeconds grant.expires = expires.second := epochSeconds_eq_second hlast
  have hlow := hnow.notBefore
  have hlowLast := hlast.notBefore
  rw [Moment.yearStart_1970] at hlow hlowLast
  have hstart : Claims.momentOf (.int (epochSeconds grant.issued)) = .ok now.startOfSecond := by
    rw [hissued, momentOf_second hlow]
  have hstop : Claims.momentOf (.int (epochSeconds grant.expires)) = .ok expires.startOfSecond := by
    rw [hends, momentOf_second hlowLast]
  refine ⟨token, Issuer.issue_eq_ok.mpr ⟨expires, hexpires, hsign⟩, ?_, ?_⟩
  · intro moment
    refine ⟨?_, ?_, ?_⟩
    · rintro ⟨hfrom, huntil⟩
      rw [← hissued] at hfrom
      rw [← hends] at huntil
      exact Issuer.validate_grant hpayload hreadable hstart hstop hfrom huntil
    · intro houtside
      rw [← hissued, ← hends] at houtside
      exact Issuer.rejects_outside hpayload kind houtside
    · intro other hother
      exact Issuer.rejects_other_kind hpayload hother moment
  · intro seconds httl
    rw [httl] at hexpires ⊢
    refine ⟨startOfSecond_sub_startOfSecond hexpires, ?_⟩
    rintro rfl service rfl account accessToken refreshToken
    exact ofSeconds_expiresIn httl account accessToken refreshToken

/-- An address with a quote and a character beyond U+FFFF comes back, and the token ends
with its quarter of an hour. -/
theorem validate_issue_quarter :
    ∃ token,
      Issuer.issue ⟨"keep it", .ofSeconds 900, .ofSeconds 604800⟩ .access
        { micros := 1700000000999999 } "1f" 7 (some "\"😀\"@example.org") = .ok token ∧
      Issuer.validate ⟨"keep it", .ofSeconds 900, .ofSeconds 604800⟩
          { micros := 1700000900000000 } .access token =
        .ok { userId := 7
              email := .plain "\"😀\"@example.org"
              tokenId := .plain "1f"
              tokenType := .text "access"
              issuedAt := { micros := 1700000000000000 }
              notBefore := { micros := 1700000000000000 }
              expiresAt := { micros := 1700000900000000 } } ∧
      Issuer.Rejects ⟨"keep it", .ofSeconds 900, .ofSeconds 604800⟩
        { micros := 1700000901000000 } .access token := by
  have hkeep : isPlainSecret "keep it" = true := by decide +kernel
  let issuer : Issuer := ⟨"keep it", .ofSeconds 900, .ofSeconds 604800⟩
  let now : Moment := { micros := 1700000000999999 }
  let expires : Moment := { micros := 1700000900999999 }
  have hplain : isPlainSecret issuer.secret = true := hkeep
  have hid : (0 : Int) ≤ 7 := by decide
  have hdigits : (7 : Int) < 10 ^ WholeNumber.digitLimit := fewDigits_of_lt_word (by decide)
  have hemail : "\"😀\"@example.org" ≠ "" := by decide
  have htokenId : "1f" ≠ "" := by decide
  have hnow : now.InEra := ⟨by decide, by decide⟩
  have hexpires : now.add? (issuer.ttl .access) = some expires := rfl
  have hlast : expires.InEra := ⟨by decide, by decide⟩
  obtain ⟨token, hissue, hwindow, -⟩ :=
    validate_issue hplain hid hdigits hemail htokenId hnow hexpires hlast
  refine ⟨token, hissue, ?_, ?_⟩
  · exact (hwindow { micros := 1700000900000000 }).1 ⟨by decide, by decide⟩
  · exact (hwindow { micros := 1700000901000000 }).2.1 (by decide)

end AccountSessions.Token
