import AccountSessions.Proofs.TokenForm

/-!
# The checks of a payload

The row of checks that a payload passes on its way to the claims: the registered claims
are there and bound the current second, and the claims are read off with their shapes.
A claim that converts to a moment is a finite number, and the check of the times sees
this number without its fraction.
-/

namespace AccountSessions.Token

/-! ## Times -/

/-- The whole seconds of a finite number. -/
def wholeSeconds? : Json → Option Int
  | .int seconds => some seconds
  | .real value => value.truncate?
  | _ => none

theorem wholeClaim_of_wholeSeconds?
    {value : Json} {whole : Int} (hwhole : wholeSeconds? value = some whole) (label : String) :
    wholeClaim label value = .ok whole := by
  cases value with
  | int seconds =>
      injection hwhole with hwhole
      rw [hwhole]
      rfl
  | real value =>
      change value.truncate? = some whole at hwhole
      cases value with
      | finite negative mantissa exponent => rw [wholeClaim, hwhole]; simp
      | infinite negative => cases hwhole
      | notANumber => cases hwhole
  | null | bool | string | list | object => cases hwhole

theorem exists_wholeSeconds?_of_momentOf
    {value : Json} {moment : Moment} (hmoment : Claims.momentOf value = .ok moment) :
    ∃ whole, wholeSeconds? value = some whole := by
  cases value with
  | int seconds => exact ⟨seconds, rfl⟩
  | real value =>
      cases value with
      | finite negative mantissa exponent => exact ⟨_, rfl⟩
      | infinite negative => cases hmoment
      | notANumber => cases hmoment
  | null | bool | string | list | object => cases hmoment

theorem momentClaim_eq_ok {payload : Json} {name : String} {moment : Moment} :
    Claims.momentClaim payload name = .ok moment ↔
      ∃ value, payload.member? name = some value ∧ Claims.momentOf value = .ok moment := by
  unfold Claims.momentClaim
  cases payload.member? name with
  | none => simp
  | some value => simp

theorem checkTimes_eq_ok {now : Int} {payload : Json} :
    checkTimes now payload = .ok () ↔
      ∃ issued notBefore expires,
        wholeClaim "Issued At claim (iat)" ((payload.member? "iat").getD .null) = .ok issued ∧
        wholeClaim "Not Before claim (nbf)" ((payload.member? "nbf").getD .null) = .ok notBefore ∧
        wholeClaim "Expiration Time claim (exp)" ((payload.member? "exp").getD .null) =
          .ok expires ∧
        notBefore ≤ now ∧ now ≤ expires := by
  unfold checkTimes
  simp only [bind_eq_ok, unless_throw_eq_ok, Int.not_lt]
  constructor
  · rintro ⟨issued, hissued, notBefore, hbefore, hstarted, expires, hexpires, hlast⟩
    by_cases hover : expires < now
    · rw [if_pos hover] at hlast
      cases hlast
    · exact ⟨issued, notBefore, expires, hissued, hbefore, hexpires, hstarted,
        Int.not_lt.mp hover⟩
  · rintro ⟨issued, notBefore, expires, hissued, hbefore, hexpires, hstarted, hlast⟩
    refine ⟨issued, hissued, notBefore, hbefore, hstarted, expires, hexpires, ?_⟩
    rw [if_neg (Int.not_lt.mpr hlast)]
    rfl

theorem checkRegistered_eq_ok {now : Int} {payload : Json} :
    checkRegistered now payload = .ok () ↔
      missingClaim? payload = none ∧ checkTimes now payload = .ok () ∧
        otherFault? payload = none := by
  unfold checkRegistered
  cases hmissing : missingClaim? payload with
  | some name =>
      constructor
      · intro h
        cases h
      · rintro ⟨h, -, -⟩
        cases h
  | none =>
      simp only [bind_eq_ok]
      cases hother : otherFault? payload with
      | some reason =>
          constructor
          · rintro ⟨_, -, h⟩
            cases h
          · rintro ⟨-, -, h⟩
            cases h
      | none =>
          constructor
          · rintro ⟨_, htimes, -⟩
            exact ⟨trivial, htimes, rfl⟩
          · rintro ⟨-, htimes, -⟩
            exact ⟨(), htimes, rfl⟩

/-! ## Shapes -/

theorem require_eq_ok {α : Type} {found : Option α} {reason : Rejection} {value : α} :
    Claims.require found reason = .ok value ↔ found = some value := by
  cases found with
  | none => simp [Claims.require]
  | some found => simp [Claims.require]

theorem numberOf_eq_ok {s : String} {value : Int} :
    Claims.numberOf s = .ok value ↔ WholeNumber.read s.toList = .ok value := by
  unfold Claims.numberOf
  cases WholeNumber.read s.toList with
  | error fault => simp
  | ok value => simp

theorem ofPayload_eq_ok {payload : Json} {claims : Claims} :
    Claims.ofPayload payload = .ok claims ↔
      ∃ subject, Claims.subject? payload = some subject ∧
        WholeNumber.read subject.toList = .ok claims.userId ∧
        Claims.textClaim? payload "email" = some claims.email ∧
        Claims.textClaim? payload "jti" = some claims.tokenId ∧
        Claims.momentClaim payload "iat" = .ok claims.issuedAt ∧
        Claims.momentClaim payload "nbf" = .ok claims.notBefore ∧
        Claims.momentClaim payload "exp" = .ok claims.expiresAt ∧
        payload.member? "typ" = some claims.tokenType := by
  unfold Claims.ofPayload
  simp only [bind_eq_ok, require_eq_ok, numberOf_eq_ok]
  constructor
  · rintro ⟨subject, hsubject, email, hemail, tokenId, htokenId, issuedAt, hissued, notBefore, hbefore,
      expiresAt, hexpires, userId, hnumber, hkind⟩
    cases htype : payload.member? "typ" with
    | none =>
        rw [htype] at hkind
        cases hkind
    | some tokenType =>
        rw [htype] at hkind
        injection hkind with hclaims
        rw [← hclaims]
        exact ⟨subject, hsubject, hnumber, hemail, htokenId, hissued, hbefore, hexpires, rfl⟩
  · rintro ⟨subject, hsubject, hnumber, hemail, htokenId, hissued, hbefore, hexpires, htype⟩
    refine ⟨subject, hsubject, _, hemail, _, htokenId, _, hissued, _, hbefore, _, hexpires, _,
      hnumber, ?_⟩
    rw [htype]
    rfl

theorem subject?_eq_some {payload : Json} {subject : String} :
    Claims.subject? payload = some subject ↔
      payload.member? "sub" = some (.text subject) ∧ Claims.isDigits subject = true := by
  unfold Claims.subject?
  constructor
  · intro h
    split at h
    next s hmember =>
      split at h
      next hdigits =>
        injection h with h
        rw [← h]
        exact ⟨hmember, hdigits⟩
      next => cases h
    next => cases h
  · rintro ⟨hmember, hdigits⟩
    rw [hmember, Json.text]
    exact if_pos hdigits

theorem textClaim?_eq_some {payload : Json} {name : String} {s : JsonString} :
    Claims.textClaim? payload name = some s ↔
      payload.member? name = some (.string s) ∧ s.isEmpty = false := by
  unfold Claims.textClaim?
  constructor
  · intro h
    split at h
    next found hmember =>
      split at h
      next => cases h
      next hempty =>
        injection h with h
        rw [← h]
        exact ⟨hmember, by simpa using hempty⟩
    next => cases h
  · rintro ⟨hmember, hempty⟩
    rw [hmember]
    simp [hempty]

theorem text?_bind_eq_some {found : Option Json} {s : String} :
    found.bind Json.text? = some s ↔ found = some (.text s) := by
  constructor
  · intro h
    obtain ⟨value, rfl, htext⟩ := Option.bind_eq_some_iff.mp h
    cases value with
    | string value =>
        cases value with
        | plain text =>
            injection htext with htext
            rw [htext]
            rfl
        | broken codes => cases htext
    | null | bool | int | real | list | object => cases htext
  · intro h
    rw [h]
    rfl

theorem tokenType_of_ofPayload
    {payload : Json} {kind : Kind} {claims : Claims}
    (hkind : (payload.member? "typ").bind Json.text? = some kind.name)
    (hclaims : Claims.ofPayload payload = .ok claims) :
    claims.tokenType = .text kind.name := by
  obtain ⟨-, -, -, -, -, -, -, -, htype⟩ := ofPayload_eq_ok.mp hclaims
  rw [text?_bind_eq_some.mp hkind] at htype
  injection htype with htype
  exact htype.symm

end AccountSessions.Token
