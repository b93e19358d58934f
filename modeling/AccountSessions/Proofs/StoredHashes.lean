import AccountSessions.Proofs.Execution
import AccountSessions.Proofs.PasswordRoundTrip
import AccountSessions.Service.Basic
import Mathlib.Data.Option.Basic

/-!
# Passwords against stored texts

Any text may stand where a hash is stored.  It is read as a hash only if the version, the
cost and the salt that it names are well formed, and a password matches it only if the whole
text is the hash that is computed anew under them.  A password beyond the limit is never
hashed and matches nothing.  No text and no password make the check fail.
-/

namespace AccountSessions.Password

namespace Bcrypt

structure Setting.WellFormed (setting : Setting) : Prop where
  version : setting.version ∈ versions
  least : minCost ≤ setting.cost
  greatest : setting.cost ≤ maxCost
  salt : IsSalt setting.salt

theorem Setting.WellFormed.valid {setting : Setting} (hformed : setting.WellFormed) :
    setting.Valid :=
  hformed.salt.valid hformed.version hformed.least hformed.greatest

theorem cost?_eq_some {field : List UInt8} {cost : Nat} (hread : cost? field = some cost) :
    minCost ≤ cost ∧ cost ≤ maxCost := by
  simp only [cost?, Option.ite_none_left_eq_some, Option.ite_none_right_eq_some,
    Option.some.injEq] at hread
  obtain ⟨-, ⟨-, hleast, hgreatest⟩, rfl⟩ := hread
  exact ⟨hleast, hgreatest⟩

/-- Whatever is read as a setting is well formed. -/
theorem wellFormed_of_setting?
    {stored : List UInt8} {setting : Setting} (hread : setting? stored = some setting) :
    setting.WellFormed := by
  unfold setting? at hread
  split at hread
  next version cost rest hfields =>
    simp only [Option.bind_eq_bind, Option.bind_eq_some_iff, Option.guard_eq_some', Option.pure_def,
      Option.some.injEq] at hread
    obtain ⟨-, hversion, cost, hcost, salt, hsalt, rfl⟩ := hread
    obtain ⟨hleast, hgreatest⟩ := cost?_eq_some hcost
    exact ⟨List.contains_iff_mem.mp hversion, hleast, hgreatest,
      .of_saltBytes? (Option.isSome_of_eq_some hsalt)⟩
  next => cases hread

theorem matches?_eq_true_iff {password stored : List UInt8} :
    matches? password stored = some true ↔ password.length ≤ passwordLimit ∧
      ∃ setting, setting? stored = some setting ∧ asciiBytes (write setting password) = stored := by
  unfold matches?
  by_cases hlong : passwordLimit < password.length
  · rw [if_pos hlong]
    simp [Nat.not_le.mpr hlong]
  · rw [if_neg hlong, Option.map_eq_some_iff]
    simp [Nat.not_lt.mp hlong]

end Bcrypt

/-! ## Judgements -/

/-- The stored text is read as a hash under the setting. -/
def Names (stored : String) (setting : Bcrypt.Setting) : Prop :=
  Bcrypt.setting? (Text.Utf8.encode stored.toList) = some setting

/-- The hash under a valid setting is a text that names the setting. -/
theorem names_of_eq_write
    {stored : String} {setting : Bcrypt.Setting} (hvalid : setting.Valid)
    {password : List UInt8} (hstored : stored.toList = Bcrypt.write setting password) :
    Names stored setting := by
  rw [Names, hstored, hvalid.encode_write]
  exact hvalid.setting?_write password

/-- Exactly the texts that are the hash computed anew are accepted. -/
theorem verify_eq_true_iff {password stored : String} :
    verify password stored = true ↔ Text.Utf8.size password ≤ Bcrypt.passwordLimit ∧
      ∃ setting, Names stored setting ∧ setting.WellFormed ∧
        stored.toList = Bcrypt.write setting (Text.Utf8.encode password.toList) := by
  constructor
  · intro haccepts
    have hmatches : Bcrypt.matches? (Text.Utf8.encode password.toList)
        (Text.Utf8.encode stored.toList) = some true := by
      unfold verify judge at haccepts
      split at haccepts
      next => cases haccepts
      next =>
        split at haccepts
        next => cases haccepts
        next equal hmatches => rw [hmatches, show equal = true from haccepts]
    obtain ⟨hshort, setting, hnames, hwritten⟩ := Bcrypt.matches?_eq_true_iff.mp hmatches
    have hformed : setting.WellFormed := Bcrypt.wellFormed_of_setting? hnames
    rw [← hformed.valid.encode_write, Text.Utf8.encode_inj] at hwritten
    exact ⟨hshort, setting, hnames, hformed, hwritten.symm⟩
  · rintro ⟨hshort, setting, -, hformed, hstored⟩
    have hmatches := hformed.valid.matches?_write hshort
    rw [← hformed.valid.encode_write, ← hstored] at hmatches
    rw [verify, judge, isEmpty_of_eq_write hstored, hmatches]
    rfl

theorem hash_eq_passwordTooLong
    {rounds : Int} (hleast : (Bcrypt.minCost : Int) ≤ rounds) (hgreatest : rounds ≤ Bcrypt.maxCost)
    {password : String} (hlong : Bcrypt.passwordLimit < Text.Utf8.size password) (salt : String) :
    hash rounds salt password = .error .passwordTooLong := by
  unfold hash
  rw [if_neg (by omega)]
  exact if_pos hlong

end AccountSessions.Password

namespace AccountSessions

/-- What is written to the log when a text cannot be used as a hash of the password. -/
def Service.corruptHash : Log.Line :=
  ⟨.warning, .passwords, "Stored password hash is not a valid bcrypt hash"⟩

/-- A check of a password always ends with a verdict, and at most writes to the log. -/
theorem Service.exec_checkPassword (password stored : String) (state : State) :
    exec (checkPassword password stored) state =
      (.ok (Password.verify password stored),
        { state with
          log := state.log ++
            if Password.judge password stored = .unusable then [corruptHash] else [] }) := by
  unfold checkPassword
  by_cases hunusable : Password.judge password stored = .unusable
  · simp only [hunusable, if_true, Password.verify]
    rfl
  · simp only [hunusable, if_false, List.append_nil, Password.verify]
    rfl

/-- Passwords within the limit are accepted by their hashes, longer ones are neither hashed
nor accepted, and whatever is stored, the check ends with a verdict, which is favourable just
if the stored text is the hash of the password under the setting that it names. -/
theorem Password.hashes_verified (password : String) :
    (∀ (rounds : Int) (salt : String), 4 ≤ rounds → rounds ≤ 31 → Bcrypt.IsSalt salt.toList →
      (Text.Utf8.size password ≤ 72 →
        ∃ stored, hash rounds salt password = .ok stored ∧ verify password stored = true) ∧
      (72 < Text.Utf8.size password →
        hash rounds salt password = .error .passwordTooLong)) ∧
    (72 < Text.Utf8.size password → ∀ stored, verify password stored = false) ∧
    ∀ stored : String,
      (∀ state, ∃ lines, exec (Service.checkPassword password stored) state =
        (.ok (verify password stored), { state with log := state.log ++ lines })) ∧
      (verify password stored = true ↔ Text.Utf8.size password ≤ 72 ∧
        ∃ setting, Names stored setting ∧ setting.WellFormed ∧
          stored.toList = Bcrypt.write setting (Text.Utf8.encode password.toList)) := by
  refine ⟨?_, ?_, ?_⟩
  · intro rounds salt hleast hgreatest hsalt
    refine ⟨?_, fun hlong => hash_eq_passwordTooLong hleast hgreatest hlong salt⟩
    intro hshort
    obtain ⟨stored, hhash⟩ := exists_hash hleast hgreatest hshort salt
    exact ⟨stored, hhash, verify_of_salted_hash hsalt hhash⟩
  · intro hlong stored
    rw [← Bool.not_eq_true, verify_eq_true_iff]
    exact fun haccepted => Nat.not_le.mpr hlong haccepted.1
  · exact fun stored => ⟨fun state => ⟨_, Service.exec_checkPassword password stored state⟩,
      verify_eq_true_iff⟩

/-- A password of 72 bytes is accepted by its hash, and one of 73 bytes has none. -/
theorem Password.hashes_verified_at_limit :
    let salt := "abcdefghijklmnopqrstuu"
    let longest := String.ofList (List.replicate 72 'a')
    let longer := String.ofList (List.replicate 73 'a')
    (∃ stored, hash 4 salt longest = .ok stored ∧ verify longest stored = true) ∧
      hash 4 salt longer = .error .passwordTooLong ∧ verify longer longest = false := by
  intro salt longest longer
  have hletters : salt.toList.all (· ∈ Bcrypt.alphabet) := by decide
  have hsalt : Bcrypt.IsSalt salt.toList :=
    ⟨by decide, fun c hc => of_decide_eq_true (List.all_eq_true.mp hletters c hc),
      by simp [salt, Bcrypt.closingLetters]⟩
  obtain ⟨hround, -⟩ := hashes_verified longest
  obtain ⟨hlong, hfalse, -⟩ := hashes_verified longer
  exact ⟨(hround 4 salt (by decide) (by decide) hsalt).1 (by decide +kernel),
    (hlong 4 salt (by decide) (by decide) hsalt).2 (by decide +kernel),
    hfalse (by decide +kernel) longest⟩

end AccountSessions
