import AccountSessions.Proofs.Breakdowns
import AccountSessions.Proofs.IssuedTokens

/-!
# Overflows

Some breakdowns mean that a number, a span or a date went beyond what can be represented.
Issuing a token overflows just if its life does not fit the calendar.  Examining a token
that was issued never does, whatever the secret is.
-/

namespace AccountSessions

/-! ## Overflows -/

/-- A number, a span or a date went beyond what can be represented. -/
def Breakdown.IsOverflow : Breakdown → Prop
  | columnOverflow => True
  | dateOutOfRange => True
  | badDuration _ => True
  | infiniteNumber => True
  | badCivilTime fault => fault = .wordOverflow ∨ fault = .wordUnderflow ∨ fault = .longOverflow
  | badMomentText fault => fault = .outside
  | _ => False

/-- The outcome is an overflow. -/
def Overflows {α : Type} : Except Failure α → Prop
  | .error (.broken cause) => cause.IsOverflow
  | _ => False

theorem overflows_map {α β : Type} (change : α → β) (outcome : Except Failure α) :
    Overflows (outcome.map change) ↔ Overflows outcome := by
  cases outcome with
  | ok value => exact Iff.rfl
  | error failure =>
      cases failure with
      | refused refusal => exact Iff.rfl
      | broken cause => exact Iff.rfl

/-! ## Tokens -/

namespace Token

/-- The secret can sign. -/
def Signs (secret : String) : Prop :=
  ∃ key, signingKey secret = .ok key

theorem cause_of_signingKey
    {secret : String} {cause : Breakdown} (hkey : signingKey secret = .error cause) :
    cause = .publicKeyForSigning := by
  unfold signingKey at hkey
  dsimp only at hkey
  split at hkey
  · exact (Except.error.inj hkey).symm
  · cases hkey

/-- How an issue ends, in the order of its checks. -/
inductive Issuer.Issues (issuer : Issuer) (kind : Kind) (now : Moment) :
    Except Breakdown String → Prop where
  | late (hlate : now.add? (issuer.ttl kind) = none) :
      Issues issuer kind now (.error .dateOutOfRange)
  | unsigned {expires : Moment} (hexpires : now.add? (issuer.ttl kind) = some expires)
      (hsigns : ¬ Signs issuer.secret) : Issues issuer kind now (.error .publicKeyForSigning)
  | issued {expires : Moment} {token : String}
      (hexpires : now.add? (issuer.ttl kind) = some expires)
      (hsigns : Signs issuer.secret) : Issues issuer kind now (.ok token)

theorem Issuer.issues
    (issuer : Issuer) (kind : Kind) (now : Moment) (tokenId : String) (userId : Int)
    (email : Option String) :
    issuer.Issues kind now (issuer.issue kind now tokenId userId email) := by
  unfold issue
  cases hexpires : now.add? (issuer.ttl kind) with
  | none => exact .late hexpires
  | some expires =>
      unfold sign
      dsimp only
      cases hkey : signingKey issuer.secret with
      | ok key => exact .issued hexpires ⟨key, hkey⟩
      | error cause =>
          obtain rfl := cause_of_signingKey hkey
          refine .unsigned hexpires ?_
          rintro ⟨key, hother⟩
          rw [hkey] at hother
          cases hother

theorem Issuer.Issues.overflows_iff
    {issuer : Issuer} {kind : Kind} {now : Moment} {outcome : Except Breakdown String}
    (hissues : issuer.Issues kind now outcome) :
    Overflows (outcome.mapError Failure.broken) ↔ now.add? (issuer.ttl kind) = none := by
  cases hissues with
  | late hlate => exact iff_of_true trivial hlate
  | unsigned hexpires => exact iff_of_false id fun hlate => nomatch hexpires.symm.trans hlate
  | issued hexpires => exact iff_of_false id fun hlate => nomatch hexpires.symm.trans hlate

/-! ### Validation -/

theorem not_isOverflow_of_keyOfString
    {text : JsonString} {cause : Breakdown} (hkey : keyOfString text = .error cause) :
    ¬ cause.IsOverflow := by
  cases text with
  | broken codes =>
      cases hkey
      exact id
  | plain text =>
      unfold keyOfString at hkey
      dsimp only at hkey
      split at hkey
      · cases hkey
        exact id
      · cases hkey

theorem not_isOverflow_of_keyOfDescription
    {description : Json} {cause : Breakdown} (hkey : keyOfDescription description = .error cause) :
    ¬ cause.IsOverflow := by
  unfold keyOfDescription at hkey
  dsimp only at hkey
  split at hkey
  · cases hkey
    exact id
  · split at hkey
    · split at hkey <;> cases hkey
      exact id
    · cases hkey
      exact id
    · cases hkey
      exact id

theorem not_isOverflow_of_keyOf
    {candidate : Json} {cause : Breakdown} (hkey : keyOf candidate = .error cause) :
    ¬ cause.IsOverflow := by
  cases candidate with
  | string text => exact not_isOverflow_of_keyOfString hkey
  | object members => exact not_isOverflow_of_keyOfDescription hkey
  | null | bool | int | real | list =>
      cases hkey
      exact id

theorem not_isOverflow_of_signedByOne
    {signed signature : List UInt8} {keys : List Json} {cause : Breakdown}
    (hsigned : signedByOne signed signature keys = .error cause) :
    ¬ cause.IsOverflow := by
  induction keys with
  | nil => cases hsigned
  | cons candidate more ih =>
      unfold signedByOne at hsigned
      cases hkey : keyOf candidate with
      | error found =>
          rw [hkey] at hsigned
          cases hsigned
          exact not_isOverflow_of_keyOf hkey
      | ok key =>
          rw [hkey] at hsigned
          dsimp only at hsigned
          split at hsigned
          · cases hsigned
          · exact ih hsigned

theorem not_isOverflow_of_candidates
    {secret : String} {cause : Breakdown} (hkeys : candidates secret = .error cause) :
    ¬ cause.IsOverflow := by
  have hmembers {value : Json} (h : members value = .error cause) : ¬ cause.IsOverflow := by
    cases value with
    | list | object | string => cases h
    | null | bool | int | real =>
        cases h
        exact id
  unfold candidates at hkeys
  split at hkeys
  · unfold candidatesOf at hkeys
    split at hkeys
    · split at hkeys
      · exact hmembers hkeys
      · cases hkeys
      · cases hkeys
    · cases hkeys
    · cases hkeys
  · cases hkeys

theorem not_isOverflow_of_signedBy
    {secret : String} {signed signature : List UInt8} {cause : Breakdown}
    (hsigned : signedBy secret signed signature = .error cause) :
    ¬ cause.IsOverflow := by
  unfold signedBy at hsigned
  cases hkeys : candidates secret with
  | error found =>
      rw [hkeys] at hsigned
      cases hsigned
      exact not_isOverflow_of_candidates hkeys
  | ok keys =>
      rw [hkeys] at hsigned
      exact not_isOverflow_of_signedByOne hsigned

theorem not_isOverflow_of_readPayload
    {bytes : List UInt8} {cause : Breakdown} (hread : readPayload bytes = .error (.broken cause)) :
    ¬ cause.IsOverflow := by
  unfold readPayload at hread
  split at hread
  · cases hread
  · split at hread
    · cases hread
      exact id
    · cases hread
    · split at hread <;> cases hread

theorem not_isOverflow_of_verifiedPayload
    {issuer : Issuer} {token : String} {cause : Breakdown}
    (hpayload : issuer.verifiedPayload token = .error (.broken cause)) :
    ¬ cause.IsOverflow := by
  unfold Issuer.verifiedPayload at hpayload
  simp only [bind_eq_error, unless_throw_eq_error, mapError_eq_ok, mapError_eq_error] at hpayload
  rcases hpayload with ⟨reason, -, hopen⟩ | ⟨opened, -, ⟨-, halgorithm⟩ |
    ⟨-, ⟨found, hsigned, hcause⟩ | ⟨signed, -, hread⟩⟩⟩
  · cases hopen
  · cases halgorithm
  · cases hcause
    exact not_isOverflow_of_signedBy hsigned
  · split at hread
    · exact not_isOverflow_of_readPayload hread
    · cases hread

/-- Whatever else befalls the examination of a token that was issued, nothing in it
overflows. -/
theorem Issuer.not_isOverflow_of_validate
    {issuer : Issuer} {token : String} {grant : Grant}
    (hsign : sign issuer.secret grant.payload = .ok token) {now : Moment} {kind : Kind}
    {cause : Breakdown} (hvalidate : issuer.validate now kind token = .error (.broken cause)) :
    ¬ cause.IsOverflow := by
  rcases validate_eq_broken.mp hvalidate with hpayload | ⟨payload, hpayload, hchecks⟩
  · exact not_isOverflow_of_verifiedPayload hpayload
  · obtain rfl := eq_of_verifiedPayload_sign grant.legible_payload rfl hsign hpayload
    rcases hchecks with hregistered | ⟨-, -, hclaims⟩
    · rw [Grant.checkRegistered_payload] at hregistered
      split at hregistered
      · cases hregistered
      · split at hregistered <;> cases hregistered
    · cases Claims.ofPayload_eq_broken.mp hclaims with
      | issued | notBefore | expires | manyDigits | otherDigits | typeless => exact id

end Token

end AccountSessions
