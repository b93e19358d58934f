import AccountSessions.Proofs.PasswordRoundTrip
import AccountSessions.Proofs.ServiceCalls
import AccountSessions.Proofs.Submissions
import AccountSessions.Service.Assembly

/-!
# Accepted settings

Whatever the sources say, the settings that are read from them are within their bounds.
A service can be built of them unless a life of tokens is too long to be represented.
-/

namespace AccountSessions

namespace Validation

/-- The value lies within the bounds that there are. -/
def InBounds (above atLeast atMost : Option Int) (value : Int) : Prop :=
  (∀ bound ∈ above, bound < value) ∧ (∀ bound ∈ atLeast, bound ≤ value) ∧
    ∀ bound ∈ atMost, value ≤ bound

theorem within_eq_ok
    {above atLeast atMost : Option Int} {value : Except Flaw Int} {found : Int} :
    within above atLeast atMost value = .ok found ↔
      value = .ok found ∧ InBounds above atLeast atMost found := by
  cases value with
  | error flaw => simp [within, Bind.bind, Except.bind]
  | ok whole =>
      have hpure : (pure whole : Except Flaw Int) = .ok found ↔ whole = found :=
        ⟨Except.ok.inj, congrArg Except.ok⟩
      unfold within InBounds
      rw [ok_bind]
      cases above <;> cases atLeast <;> cases atMost <;>
        simp only [unless_throw_eq_ok, hpure, Except.ok.injEq, Option.mem_def,
          Option.some.injEq, forall_eq', reduceCtorEq, false_imp_iff, implies_true, and_true,
          true_and] <;>
        omega

end Validation

namespace Settings

open Validation

/-! ## Fields -/

/-- A field has its default or a value that passed its check. -/
theorem field_eq_ok
    {α : Type} {sources : Sources} {name : String} {default : α} {check : Json → Checked α}
    {checked : Checked α} (hfield : field sources name default check = .ok checked) :
    checked = .sound default ∨ ∃ value, checked = check value := by
  unfold field at hfield
  obtain ⟨value?, -, hchecked⟩ := bind_eq_ok.mp hfield
  obtain rfl := Except.ok.inj hchecked
  cases value? with
  | none => exact .inl rfl
  | some value => exact .inr ⟨value, rfl⟩

/-- A default within the bounds is as good as a value that was read. -/
theorem inBounds_of_field
    {sources : Sources} {name : String} {default : Int} {above atLeast atMost : Option Int}
    {checked : Checked Int} {value : Int}
    (hfield : field sources name default
      (.field name <| within above atLeast atMost <| readWhole ·) = .ok checked)
    (hsound : checked = .sound value) (hdefault : InBounds above atLeast atMost default) :
    InBounds above atLeast atMost value := by
  rcases field_eq_ok hfield with rfl | ⟨json, rfl⟩
  · injection hsound with hsound
    exact hsound ▸ hdefault
  · exact (within_eq_ok.mp (Checked.field_eq_sound.mp hsound)).2

/-- The bounds of the fields. -/
structure Bounded (settings : Settings) : Prop where
  accessTtl : 0 < settings.accessTtlSeconds
  refreshTtl : 0 < settings.refreshTtlSeconds
  minLength : 1 ≤ settings.passwordMinLength
  maxLength : settings.passwordMaxLength ≤ 72
  leastRounds : 4 ≤ settings.bcryptRounds
  greatestRounds : settings.bcryptRounds ≤ 31

theorem bounded_of_checkFields
    {sources : Sources} {settings : Settings}
    (hfields : checkFields sources = .ok (.sound settings)) :
    settings.Bounded := by
  unfold checkFields at hfields
  simp only [bind_eq_ok] at hfields
  obtain ⟨debug, -, secret, -, url, -, timeout, -, accessTtl, haccess, refreshTtl, hrefresh,
    minLength, hmin, maxLength, hmax, upper, -, lower, -, digit, -, symbol, -, rounds, hrounds,
    logEvents, -, origins, -, hsettings⟩ := hfields
  have hsound := Except.ok.inj hsettings
  simp only [Checked.seq_eq_sound, Checked.map_eq_sound] at hsound
  -- Each field is the last argument of what the fields before it were put into.
  obtain ⟨_, _, ⟨_, _, ⟨_, _, ⟨_, _, ⟨_, _, ⟨_, _, ⟨_, _, ⟨_, _, ⟨_, _, ⟨_, _, ⟨_, _, ⟨_, _, ⟨_, _,
    ⟨_, _, ⟨_, -, rfl⟩, -, rfl⟩, -, rfl⟩, -, rfl⟩, hsoundAccess, rfl⟩, hsoundRefresh, rfl⟩,
    hsoundMin, rfl⟩, hsoundMax, rfl⟩, -, rfl⟩, -, rfl⟩, -, rfl⟩, -, rfl⟩, hsoundRounds, rfl⟩,
    -, rfl⟩, -, rfl⟩ := hsound
  have hrounds := inBounds_of_field hrounds hsoundRounds (by simp [InBounds])
  exact
    { accessTtl := (inBounds_of_field haccess hsoundAccess (by simp [InBounds])).1 0 rfl
      refreshTtl := (inBounds_of_field hrefresh hsoundRefresh (by simp [InBounds])).1 0 rfl
      minLength := (inBounds_of_field hmin hsoundMin (by simp [InBounds])).2.1 1 rfl
      maxLength := (inBounds_of_field hmax hsoundMax (by simp [InBounds])).2.2 72 rfl
      leastRounds := hrounds.2.1 4 rfl
      greatestRounds := hrounds.2.2 31 rfl }

/-! ## The whole -/

theorem secretLength_le_of_chooseSecret
    {debug : Bool} {secret fresh chosen : String} {log : List Log.Line}
    (hchoice : chooseSecret debug secret fresh = .ok (chosen, log)) :
    secretLength ≤ chosen.length := by
  -- Whichever secret is taken, the check of its length comes last.
  have hchecked {text : String} {noted : List Log.Line}
      (hlong : (if text.length < secretLength then
          throw (contradiction shortSecret) >>= fun _ : PUnit => pure (text, noted)
        else pure (text, noted) : Except Fault (String × List Log.Line)) = .ok (chosen, log)) :
      secretLength ≤ chosen.length := by
    obtain ⟨hlength, hsame⟩ := unless_throw_eq_ok.mp hlong
    cases hsame
    exact Nat.le_of_not_lt hlength
  unfold chooseSecret at hchoice
  cases hempty : secret.isEmpty with
  | false =>
      rw [hempty] at hchoice
      exact hchecked hchoice
  | true =>
      rw [hempty] at hchoice
      cases debug with
      | true => exact hchecked hchoice
      | false => cases hchoice

/-- What holds of settings that were read, whatever the sources were. -/
structure Accepted (settings : Settings) : Prop extends Bounded settings where
  secret : secretLength ≤ settings.secretKey.length
  lengths : settings.passwordMinLength ≤ settings.passwordMaxLength

theorem accepted_of_read
    {sources : Sources} {fresh : String} {settings : Settings} {log : List Log.Line}
    (hread : read sources fresh = .ok (settings, log)) :
    settings.Accepted := by
  unfold read at hread
  cases hfields : checkFields sources with
  | error cause =>
      rw [hfields] at hread
      cases hread
  | ok checked =>
      rw [hfields] at hread
      cases checked with
      | flawed problems => cases hread
      | sound found =>
          obtain ⟨⟨secret, noted⟩, hsecret, hlengths⟩ := bind_eq_ok.mp hread
          obtain ⟨hordered, hsame⟩ := unless_throw_eq_ok.mp hlengths
          cases hsame
          have hbounded := bounded_of_checkFields hfields
          exact ⟨⟨hbounded.accessTtl, hbounded.refreshTtl, hbounded.minLength, hbounded.maxLength,
            hbounded.leastRounds, hbounded.greatestRounds⟩,
            secretLength_le_of_chooseSecret hsecret, Int.not_lt.mp hordered⟩

/-! ## Building the service -/

/-- The first number of seconds that is too large for a duration. -/
def lifeLimit : Int := 86400 * (Duration.dayLimit + 1)

/-- Both lives of tokens are durations. -/
def Measurable (settings : Settings) : Prop :=
  settings.accessTtlSeconds < lifeLimit ∧ settings.refreshTtlSeconds < lifeLimit

theorem days_ofSeconds (seconds : Int) : (Duration.ofSeconds seconds).days = seconds / 86400 := by
  have hday : (Duration.microsPerDay : Int) = 86400 * Duration.microsPerSecond := rfl
  unfold Duration.days Duration.ofSeconds
  rw [Int.fdiv_eq_ediv_of_nonneg _ (by decide), hday, Int.mul_ediv_mul_of_pos_left _ _ (by decide)]

theorem ofSecondsChecked_of_lt
    {seconds : Int} (hpositive : 0 < seconds) (hlimit : seconds < lifeLimit) :
    Duration.ofSecondsChecked seconds = .ok (.ofSeconds seconds) := by
  unfold lifeLimit Duration.dayLimit at hlimit
  unfold Duration.ofSecondsChecked Duration.wordLimit Duration.dayLimit
  dsimp only
  rw [days_ofSeconds, if_neg (by omega), if_neg (by omega)]

theorem exists_ofSecondsChecked_error {seconds : Int} (hlimit : lifeLimit ≤ seconds) :
    ∃ fault, Duration.ofSecondsChecked seconds = .error fault := by
  unfold lifeLimit Duration.dayLimit at hlimit
  unfold Duration.ofSecondsChecked Duration.dayLimit
  dsimp only
  rw [days_ofSeconds]
  split
  · exact ⟨_, rfl⟩
  · rw [if_pos (by omega)]
    exact ⟨_, rfl⟩

theorem exists_ofSecondsChecked_iff {seconds : Int} (hpositive : 0 < seconds) :
    (∃ span, Duration.ofSecondsChecked seconds = .ok span) ↔ seconds < lifeLimit := by
  by_cases hlimit : seconds < lifeLimit
  · exact iff_of_true ⟨_, ofSecondsChecked_of_lt hpositive hlimit⟩ hlimit
  · obtain ⟨fault, hfault⟩ := exists_ofSecondsChecked_error (Int.not_lt.mp hlimit)
    refine iff_of_false ?_ hlimit
    rintro ⟨span, hspan⟩
    rw [hfault] at hspan
    cases hspan

variable {settings : Settings} (haccepted : settings.Accepted)

include haccepted

theorem accessTtl_eq_ok (hlimit : settings.accessTtlSeconds < lifeLimit) :
    settings.accessTtl = .ok (.ofSeconds settings.accessTtlSeconds) := by
  rw [accessTtl, ofSecondsChecked_of_lt haccepted.accessTtl hlimit]
  rfl

theorem refreshTtl_eq_ok (hlimit : settings.refreshTtlSeconds < lifeLimit) :
    settings.refreshTtl = .ok (.ofSeconds settings.refreshTtlSeconds) := by
  rw [refreshTtl, ofSecondsChecked_of_lt haccepted.refreshTtl hlimit]
  rfl

/-- The service has what the settings say, and a hash of its own. -/
theorem exec_buildService (hmeasurable : settings.Measurable) (state : State) :
    ∃ dummy, exec settings.buildService state =
      (.ok
        { issuer := ⟨settings.secretKey, .ofSeconds settings.accessTtlSeconds,
            .ofSeconds settings.refreshTtlSeconds⟩
          hasher := ⟨settings.bcryptRounds, dummy⟩
          policy := settings.policy
          publisher := settings.publisher },
        { state with saltsDrawn := state.saltsDrawn + 1 }) := by
  have hnonempty : settings.secretKey ≠ "" := by
    intro hempty
    have hlength := haccepted.secret
    rw [hempty] at hlength
    exact absurd hlength (by decide)
  have hissuer (accessTtl refreshTtl : Duration) :
      Token.Issuer.make settings.secretKey accessTtl refreshTtl =
        .ok ⟨settings.secretKey, accessTtl, refreshTtl⟩ :=
    if_neg (by simpa using hnonempty)
  have hshort : (Text.Utf8.encode Password.Hasher.dummyPassword.toList).length ≤
      Password.Bcrypt.passwordLimit := by
    decide +kernel
  obtain ⟨dummy, hdummy⟩ := Password.exists_hash haccepted.leastRounds haccepted.greatestRounds
    hshort (Password.numberedSalt state.saltsDrawn)
  have hhasher : Password.Hasher.make settings.bcryptRounds
      (Password.numberedSalt state.saltsDrawn) = .ok ⟨settings.bcryptRounds, dummy⟩ := by
    rw [Password.Hasher.make, hdummy]
    rfl
  refine ⟨dummy, ?_⟩
  unfold buildService Service.build
  simp only [exec_bind, accessTtl_eq_ok haccepted hmeasurable.1,
    refreshTtl_eq_ok haccepted hmeasurable.2, Operation.exec_ofBreakdown_ok,
    Operation.exec_drawSalt, hissuer, hhasher, exec_pure]

theorem fails_buildService (hlong : ¬ settings.Measurable) (state : State) :
    ∃ fault, exec settings.buildService state = (.error (.broken (.badDuration fault)), state) := by
  unfold buildService
  by_cases haccess : settings.accessTtlSeconds < lifeLimit
  · have hrefresh : lifeLimit ≤ settings.refreshTtlSeconds := by
      unfold Measurable at hlong
      omega
    obtain ⟨fault, hfault⟩ := exists_ofSecondsChecked_error hrefresh
    refine ⟨fault, ?_⟩
    rw [accessTtl_eq_ok haccepted haccess, refreshTtl, hfault]
    rfl
  · obtain ⟨fault, hfault⟩ := exists_ofSecondsChecked_error (Int.not_lt.mp haccess)
    refine ⟨fault, ?_⟩
    rw [accessTtl, hfault]
    rfl

section Built

variable {start built : State} {service : Service}
  (hbuilt : exec settings.buildService start = (.ok service, built))

include hbuilt

theorem measurable_of_built : settings.Measurable := by
  by_contra hlong
  obtain ⟨fault, hfails⟩ := fails_buildService haccepted hlong start
  exact nomatch hfails.symm.trans hbuilt

/-- What was built has its parts from the settings, and a salt has been drawn for it. -/
theorem built_eq :
    (∃ dummy, service =
      { issuer := ⟨settings.secretKey, .ofSeconds settings.accessTtlSeconds,
          .ofSeconds settings.refreshTtlSeconds⟩
        hasher := ⟨settings.bcryptRounds, dummy⟩
        policy := settings.policy
        publisher := settings.publisher }) ∧
      built = { start with saltsDrawn := start.saltsDrawn + 1 } := by
  obtain ⟨dummy, hexec⟩ :=
    exec_buildService haccepted (measurable_of_built haccepted hbuilt) start
  obtain ⟨hservice, hstate⟩ := Prod.mk.inj (hbuilt.symm.trans hexec)
  exact ⟨⟨dummy, Except.ok.inj hservice⟩, hstate⟩

end Built

/-! ## Defaults -/

/-- The settings that are read when only a secret and the life of access tokens are given. -/
def withDefaults (accessTtlSeconds : Int) : Settings where
  debug := false
  secretKey := "0123456789abcdef0123456789abcdef"
  databaseUrl := defaultDatabaseUrl
  databaseTimeout := Binary64.ofRatio false 5 1
  accessTtlSeconds := accessTtlSeconds
  refreshTtlSeconds := 604800
  passwordMinLength := 8
  passwordMaxLength := 72
  requireUpper := true
  requireLower := true
  requireDigit := true
  requireSymbol := true
  bcryptRounds := 12
  logSessionEvents := false
  corsOrigins := defaultOrigins

end Settings

end AccountSessions
