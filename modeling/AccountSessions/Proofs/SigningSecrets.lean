import AccountSessions.Proofs.TokenRoundTrip

/-!
# Secrets that verify what they sign

A secret signs as the bytes that it is, and verifies with the keys that are read out of
it.  It accepts its own tokens just if one of these keys gives the same signature and
nothing before it is no key.  A secret that is no JSON has itself for its only key; a
secret in quotation marks loses them and refuses every token, and so does an empty list.
-/

namespace AccountSessions.Token

/-- The candidates come to a key that gives the signature, and those before it are keys. -/
inductive SignedAmong (signed signature : List UInt8) : List Json → Prop where
  | found {candidate : Json} {key : List UInt8} {more : List Json}
      (hkey : keyOf candidate = .ok key) (hsame : Hmac.sign key signed = signature) :
      SignedAmong signed signature (candidate :: more)
  | passed {candidate : Json} {key : List UInt8} {more : List Json}
      (hkey : keyOf candidate = .ok key) (hmore : SignedAmong signed signature more) :
      SignedAmong signed signature (candidate :: more)

theorem signedByOne_eq_true {signed signature : List UInt8} {keys : List Json} :
    signedByOne signed signature keys = .ok true ↔ SignedAmong signed signature keys := by
  induction keys with
  | nil =>
      constructor
      · intro h
        cases h
      · intro h
        cases h
  | cons candidate more ih =>
      rw [signedByOne]
      cases hkey : keyOf candidate with
      | error cause =>
          constructor
          · intro h
            cases h
          · intro h
            cases h with
            | found hfound => rw [hkey] at hfound; cases hfound
            | passed hpassed => rw [hkey] at hpassed; cases hpassed
      | ok key =>
          dsimp only
          by_cases hsame : Hmac.sign key signed = signature
          · rw [if_pos hsame]
            exact ⟨fun _ => .found hkey hsame, fun _ => rfl⟩
          · rw [if_neg hsame, ih]
            constructor
            · exact .passed hkey
            · intro h
              cases h with
              | found hfound hgives =>
                  rw [hkey] at hfound
                  injection hfound with hfound
                  rw [hfound] at hsame
                  exact absurd hgives hsame
              | passed _ hmore => exact hmore

theorem signedBy_eq_true {secret : String} {signed signature : List UInt8} :
    signedBy secret signed signature = .ok true ↔
      ∃ keys, candidates secret = .ok keys ∧ SignedAmong signed signature keys := by
  unfold signedBy
  cases candidates secret with
  | error cause => simp
  | ok keys => simp [signedByOne_eq_true]

namespace Issuer

/-- A token that some key signed is read as its payload, or it is refused for its
signature, or the keys cannot be read. -/
theorem verifiedPayload_signed
    (issuer : Issuer) (key : List UInt8) {payload : Json}
    (hlegible : Json.Legible Json.nestingLimit payload) (hobject : payload.isObject = true) :
    issuer.verifiedPayload (String.ofList (signedSegments key payload).text) =
      match signedBy issuer.secret (signedParts key payload).signed
          (signedParts key payload).signature with
      | .ok true => .ok payload
      | .ok false => .error (.rejected (.unverified "Signature verification failed."))
      | .error cause => .error (.broken cause) := by
  have halgorithm : (((signedParts key payload).header.member? "alg").getD .null).text? =
      some algorithm := rfl
  unfold verifiedPayload
  rw [openToken_signed]
  simp only [Except.mapError, ok_bind, halgorithm, ne_eq, not_true_eq_false, if_false]
  cases signedBy issuer.secret (signedParts key payload).signed
      (signedParts key payload).signature with
  | error cause => rfl
  | ok signed =>
      cases signed with
      | false => rfl
      | true => exact readPayload_write hlegible hobject

/-- Whether an issuer accepts what it has issued is told by the keys in its secret. -/
theorem validate_issue_iff_signedAmong
    {issuer : Issuer} {kind : Kind} {now expires : Moment} {userId : Int} {email tokenId : String}
    (hid : 0 ≤ userId) (hdigits : userId < 10 ^ WholeNumber.digitLimit) (hemail : email ≠ "")
    (htokenId : tokenId ≠ "") (hnow : now.InEra)
    (hexpires : now.add? (issuer.ttl kind) = some expires) (hlast : expires.InEra) :
    (KeyText.looksPublic (Text.Utf8.encode issuer.secret.toList) = true →
      issuer.issue kind now tokenId userId (some email) = .error .publicKeyForSigning) ∧
    (KeyText.looksPublic (Text.Utf8.encode issuer.secret.toList) = false →
      ∃ token opened, issuer.issue kind now tokenId userId (some email) = .ok token ∧
        openToken token = .ok opened ∧
        opened.signature = Hmac.sign (Text.Utf8.encode issuer.secret.toList) opened.signed ∧
        ∀ moment : Moment, now.second ≤ moment.second → moment.second ≤ expires.second →
          ((∃ keys, candidates issuer.secret = .ok keys ∧
              SignedAmong opened.signed opened.signature keys) →
            issuer.validate moment kind token =
              .ok { userId := userId
                    email := .plain email
                    tokenId := .plain tokenId
                    tokenType := .text kind.name
                    issuedAt := now.startOfSecond
                    notBefore := now.startOfSecond
                    expiresAt := expires.startOfSecond }) ∧
          ((¬ ∃ keys, candidates issuer.secret = .ok keys ∧
              SignedAmong opened.signed opened.signature keys) →
            issuer.validate moment kind token =
                .error (.rejected (.unverified "Signature verification failed.")) ∨
              ∃ cause, issuer.validate moment kind token = .error (.broken cause))) := by
  let grant : Grant := ⟨kind, userId, email, tokenId, now, expires⟩
  let bytes := Text.Utf8.encode issuer.secret.toList
  have hreadable : grant.Readable := ⟨hid, hdigits, hemail, htokenId⟩
  constructor
  · intro hpublic
    have hkey : signingKey issuer.secret = .error .publicKeyForSigning := by
      rw [signingKey, hpublic]
      rfl
    simp only [issue, hexpires, sign, hkey]
  · intro hsecret
    have hkey : signingKey issuer.secret = .ok bytes := by
      rw [signingKey, hsecret]
      rfl
    have hsign : sign issuer.secret grant.payload =
        .ok (String.ofList (signedSegments bytes grant.payload).text) :=
      sign_eq_ok.mpr ⟨bytes, hkey, rfl⟩
    refine ⟨_, signedParts bytes grant.payload, issue_eq_ok.mpr ⟨expires, hexpires, hsign⟩,
      openToken_signed bytes grant.payload, rfl, ?_⟩
    have hverified := issuer.verifiedPayload_signed bytes grant.legible_payload rfl
    intro moment hfrom huntil
    rw [← signedBy_eq_true]
    constructor
    · intro hsigned
      rw [hsigned] at hverified
      exact validate_in_era hverified hreadable hnow hlast hfrom huntil
    · intro hunsigned
      unfold validate
      rw [hverified]
      cases hresult : signedBy issuer.secret (signedParts bytes grant.payload).signed
          (signedParts bytes grant.payload).signature with
      | error cause => exact .inr ⟨cause, rfl⟩
      | ok signed =>
          cases signed with
          | false => exact .inl rfl
          | true => exact absurd hresult hunsigned

/-- An empty list of 33 characters signs and then refuses. -/
theorem validate_issue_empty_list :
    ∃ token,
      Issuer.issue ⟨"[                               ]", .ofSeconds 900, .ofSeconds 604800⟩ .access
        { micros := 1700000000000000 } "1f" 1 (some "alice@example.com") = .ok token ∧
      ∀ claims,
        Issuer.validate ⟨"[                               ]", .ofSeconds 900, .ofSeconds 604800⟩
          { micros := 1700000000000000 } .access token ≠ .ok claims := by
  let issuer : Issuer :=
    ⟨"[                               ]", .ofSeconds 900, .ofSeconds 604800⟩
  let now : Moment := { micros := 1700000000000000 }
  let expires : Moment := { micros := 1700000900000000 }
  have hid : (0 : Int) ≤ 1 := by decide
  have hdigits : (1 : Int) < 10 ^ WholeNumber.digitLimit := fewDigits_of_lt_word (by decide)
  have hemail : "alice@example.com" ≠ "" := by decide
  have htokenId : "1f" ≠ "" := by decide
  have hnow : now.InEra := ⟨by decide, by decide⟩
  have hexpires : now.add? (issuer.ttl .access) = some expires := rfl
  have hlast : expires.InEra := ⟨by decide, by decide⟩
  have hsecret : KeyText.looksPublic (Text.Utf8.encode issuer.secret.toList) = false := by
    decide +kernel
  have hkeys : candidates issuer.secret = .ok [] := by
    have hempty : (candidates issuer.secret).toOption.any List.isEmpty = true := by
      decide +kernel
    cases hfound : candidates issuer.secret with
    | ok keys =>
        rw [hfound] at hempty
        exact congrArg Except.ok (List.isEmpty_iff.mp hempty)
    | error cause =>
        rw [hfound] at hempty
        cases hempty
  obtain ⟨token, opened, hissue, -, -, hvalidate⟩ :=
    (validate_issue_iff_signedAmong hid hdigits hemail htokenId hnow hexpires hlast).2 hsecret
  refine ⟨token, hissue, ?_⟩
  have hnever : ¬ ∃ keys, candidates issuer.secret = .ok keys ∧
      SignedAmong opened.signed opened.signature keys := by
    rintro ⟨keys, hfound, hsigned⟩
    rw [hkeys] at hfound
    injection hfound with hfound
    rw [← hfound] at hsigned
    cases hsigned
  intro claims hvalid
  rcases (hvalidate now (by decide) (by decide)).2 hnever with hrejected | ⟨cause, hbroken⟩
  · rw [hrejected] at hvalid
    cases hvalid
  · rw [hbroken] at hvalid
    cases hvalid

end Issuer

end AccountSessions.Token
