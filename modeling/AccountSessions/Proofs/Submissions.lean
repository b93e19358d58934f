import AccountSessions.Http.Submission
import AccountSessions.Proofs.TokenForm

/-!
# Bodies that pass their checks

When a submitted body is accepted, and with which values.  The fields of a form are
checked apart from each other, and a form is sound just if every field of it is.
-/

namespace AccountSessions

/-! ## Checks side by side -/

namespace Checked

theorem seq_eq_sound
    {α β : Type} {f : Checked (α → β)} {x : Checked α} {value : β} :
    f <*> x = .sound value ↔ ∃ change found, f = .sound change ∧ x = .sound found ∧
      change found = value := by
  change f.apply x = .sound value ↔ _
  cases f with
  | sound change =>
      cases x with
      | sound found => simp [apply]
      | flawed problems => simp [apply]
  | flawed problems =>
      cases x with
      | sound found => simp [apply]
      | flawed others => simp [apply]

theorem map_eq_sound
    {α β : Type} {change : α → β} {x : Checked α} {value : β} :
    change <$> x = .sound value ↔ ∃ found, x = .sound found ∧ change found = value := by
  change (Checked.sound change).apply x = .sound value ↔ _
  cases x with
  | sound found => simp [apply]
  | flawed problems => simp [apply]

theorem field_eq_sound {α : Type} {name : String} {value : Except Flaw α} {found : α} :
    field name value = .sound found ↔ value = .ok found := by
  cases value with
  | ok value => simp [field, ofFlaw]
  | error flaw => simp [field, ofFlaw]

end Checked

theorem Validation.readText_eq_ok {value : Json} {text : String} :
    readText value = .ok text ↔ value = .text text := by
  unfold readText
  split
  next => simp [Json.text]
  next => simp [Json.text]
  next hplain _ =>
    constructor
    · intro h
      cases h
    · rintro rfl
      exact absurd rfl (hplain text)

namespace Http

/-! ## Texts -/

namespace TextRule

/-- What is kept of a submitted text. -/
def kept (rule : TextRule) (text : String) : String :=
  if rule.trimmed then Text.trim text else text

theorem check_eq (rule : TextRule) (text : String) :
    rule.check text =
      if (rule.kept text).length < rule.least then .error (.tooShort rule.least)
      else if rule.greatest < (rule.kept text).length then .error (.tooLong rule.greatest)
      else if rule.shape.accepts (rule.kept text).toList then .ok (rule.kept text)
      else .error (.mismatch rule.shape.pattern) :=
  rfl

theorem check_eq_ok {rule : TextRule} {text found : String} :
    rule.check text = .ok found ↔ found = rule.kept text ∧ rule.least ≤ found.length ∧
      found.length ≤ rule.greatest ∧ rule.shape.accepts found.toList = true := by
  rw [check_eq]
  split
  next hshort =>
    constructor
    · intro h
      cases h
    · rintro ⟨rfl, hleast, -⟩
      omega
  next hleast =>
    split
    next hlong =>
      constructor
      · intro h
        cases h
      · rintro ⟨rfl, -, hgreatest, -⟩
        omega
    next hgreatest =>
      split
      next hshape =>
        constructor
        · intro h
          injection h with h
          rw [← h]
          exact ⟨rfl, Nat.le_of_not_lt hleast, Nat.le_of_not_lt hgreatest, hshape⟩
        · rintro ⟨rfl, -⟩
          rfl
      next hshape =>
        constructor
        · intro h
          cases h
        · rintro ⟨rfl, -, -, hmatches⟩
          exact absurd hmatches hshape

theorem require_eq_sound {rule : TextRule} {name : String} {body : Json} {found : String} :
    rule.require name body = .sound found ↔
      ∃ text, body.member? name = some (.text text) ∧ rule.check text = .ok found := by
  unfold require
  cases hmember : body.member? name with
  | none => simp
  | some value =>
      simp only [read, Checked.field_eq_sound, bind_eq_ok, Validation.readText_eq_ok,
        Option.some.injEq]

end TextRule

/-! ## Forms -/

theorem readFields_eq_sound
    {α : Type} {model : String} {fields : Json → Checked α} {body : Json} {form : α} :
    readFields model fields body = .sound form ↔
      body.isObject = true ∧ fields body = .sound form := by
  unfold readFields
  split
  next hobject => simp [hobject]
  next hother => simp [hother]

theorem Registration.read_eq_sound {body : Json} {form : Registration} :
    Registration.read body = .sound form ↔ body.isObject = true ∧
      (∃ text, body.member? "username" = some (.text text) ∧
        TextRule.username.check text = .ok form.username) ∧
      (∃ text, body.member? "email" = some (.text text) ∧
        TextRule.address.check text = .ok form.email) ∧
      (∃ text, body.member? "password" = some (.text text) ∧
        TextRule.password.check text = .ok form.password) ∧
      TextRule.displayName.readOr "name" "" body = .sound form.name := by
  simp only [Registration.read, readFields_eq_sound, Checked.seq_eq_sound, Checked.map_eq_sound,
    ← TextRule.require_eq_sound]
  constructor
  · rintro ⟨hobject, _, name, ⟨_, password, ⟨_, email, ⟨username, husername, rfl⟩, hemail, rfl⟩,
      hpassword, rfl⟩, hname, rfl⟩
    exact ⟨hobject, husername, hemail, hpassword, hname⟩
  · rintro ⟨hobject, husername, hemail, hpassword, hname⟩
    exact ⟨hobject, _, _, ⟨_, _, ⟨_, _, ⟨_, husername, rfl⟩, hemail, rfl⟩, hpassword, rfl⟩, hname,
      rfl⟩

theorem Registration.read_texts {username email password : String}
    (husername : TextRule.username.check username = .ok username)
    (hemail : TextRule.address.check email = .ok email)
    (hpassword : TextRule.password.check password = .ok password) :
    Registration.read (.record
      [("username", .text username), ("email", .text email), ("password", .text password)]) =
      .sound ⟨username, email, password, ""⟩ :=
  read_eq_sound.mpr
    ⟨rfl, ⟨_, rfl, husername⟩, ⟨_, rfl, hemail⟩, ⟨_, rfl, hpassword⟩, rfl⟩

theorem Credentials.read_eq_sound {body : Json} {form : Credentials} :
    Credentials.read body = .sound form ↔ body.isObject = true ∧
      (∃ text, body.member? "identifier" = some (.text text) ∧
        TextRule.identifier.check text = .ok form.identifier) ∧
      (∃ text, body.member? "password" = some (.text text) ∧
        TextRule.password.check text = .ok form.password) := by
  simp only [Credentials.read, readFields_eq_sound, Checked.seq_eq_sound, Checked.map_eq_sound,
    ← TextRule.require_eq_sound]
  constructor
  · rintro ⟨hobject, _, password, ⟨identifier, hidentifier, rfl⟩, hpassword, rfl⟩
    exact ⟨hobject, hidentifier, hpassword⟩
  · rintro ⟨hobject, hidentifier, hpassword⟩
    exact ⟨hobject, _, _, ⟨_, hidentifier, rfl⟩, hpassword, rfl⟩

theorem Credentials.read_texts {identifier password : String}
    (hidentifier : TextRule.identifier.check identifier = .ok identifier)
    (hpassword : TextRule.password.check password = .ok password) :
    Credentials.read (.record [("identifier", .text identifier), ("password", .text password)]) =
      .sound ⟨identifier, password⟩ :=
  read_eq_sound.mpr ⟨rfl, ⟨_, rfl, hidentifier⟩, ⟨_, rfl, hpassword⟩⟩

/-! ## Logging in as one has registered -/

theorem at_mem_of_isAddress {cs : List Char} (haddress : Shape.isAddress cs = true) : '@' ∈ cs := by
  simp only [Shape.isAddress, Bool.and_eq_true, beq_iff_eq] at haddress
  exact List.count_pos_iff.mp (by omega)

theorem at_not_mem_of_username {cs : List Char} (hname : Shape.username.accepts cs = true) :
    '@' ∉ cs := by
  simp only [Shape.accepts, Bool.and_eq_true, List.all_eq_true] at hname
  intro hmem
  have hat := hname.2 '@' hmem
  revert hat
  decide

theorem Registration.unmixed {body : Json} {form : Registration}
    (hread : Registration.read body = .sound form) :
    '@' ∉ form.username.toList ∧ '@' ∈ form.email.toList := by
  obtain ⟨-, ⟨_, -, husername⟩, ⟨_, -, hemail⟩, -⟩ := Registration.read_eq_sound.mp hread
  exact ⟨at_not_mem_of_username (TextRule.check_eq_ok.mp husername).2.2.2,
    at_mem_of_isAddress (TextRule.check_eq_ok.mp hemail).2.2.2⟩

end Http

end AccountSessions
