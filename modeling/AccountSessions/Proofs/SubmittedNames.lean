import AccountSessions.Proofs.Submissions
import AccountSessions.Proofs.TrimmedTexts
import Mathlib.Computability.Language

/-!
# Names in submitted bodies

The texts that may name a user and those that may be an address, spelled out apart from the
way they are checked.  A name or an address is measured and kept without the blanks at its
ends, whoever submits it, and what is kept passes the same check unchanged.
-/

namespace AccountSessions

/-! ## Blanks at the ends -/

namespace Text

/-- The second text is what is left of the first one without the blanks at its ends. -/
structure Strips (text kept : List Char) : Prop where
  ends : ∃ front back, text = front ++ kept ++ back ∧
    (∀ c ∈ front, isBlank c = true) ∧ ∀ c ∈ back, isBlank c = true
  first : ∀ c ∈ kept.head?, isBlank c = false
  last : ∀ c ∈ kept.getLast?, isBlank c = false

theorem strips_iff_trims {text kept : List Char} : Strips text kept ↔ Trims isBlank text kept :=
  ⟨fun ⟨ends, first, last⟩ => ⟨ends, first, last⟩, fun ⟨ends, first, last⟩ => ⟨ends, first, last⟩⟩

theorem strips_iff {text kept : String} :
    Strips text.toList kept.toList ↔ kept = trim text := by
  rw [strips_iff_trims, trims_iff, trim, ← String.toList_inj, String.toList_ofList]

theorem Strips.self {text kept : List Char} (hstrips : Strips text kept) : Strips kept kept :=
  ⟨⟨[], [], by simp, by simp, by simp⟩, hstrips.first, hstrips.last⟩

end Text

/-- The submitted string is a text, and this is what is left of it. -/
def JsonString.Leaves (submitted : JsonString) (kept : String) : Prop :=
  ∃ text, submitted = .plain text ∧ Text.Strips text.toList kept.toList

theorem JsonString.Leaves.unique
    {submitted : JsonString} {kept other : String} (hkept : submitted.Leaves kept)
    (hother : submitted.Leaves other) : kept = other := by
  obtain ⟨text, rfl, hkept⟩ := hkept
  obtain ⟨_, hsame, hother⟩ := hother
  injection hsame with hsame
  subst hsame
  exact (Text.strips_iff.mp hkept).trans (Text.strips_iff.mp hother).symm

/-! ## Problems of one field -/

namespace Checked

/-- The outcome holds no problem of the field. -/
def Clears {α : Type} (outcome : Checked α) (name : String) : Prop :=
  ∀ problem ∈ outcome.problems, problem.place ≠ [.field name]

variable {α β : Type}

theorem problems_seq {f : Checked (α → β)} {x : Checked α} :
    (f <*> x).problems = f.problems ++ x.problems := by
  change (f.apply x).problems = _
  cases f with
  | sound change => cases x <;> rfl
  | flawed problems => cases x <;> rfl

theorem problems_map {change : α → β} {x : Checked α} : (change <$> x).problems = x.problems := by
  change ((Checked.sound change).apply x).problems = _
  cases x <;> rfl

theorem clears_seq {f : Checked (α → β)} {x : Checked α} {name : String} :
    (f <*> x).Clears name ↔ f.Clears name ∧ x.Clears name := by
  simp only [Clears, problems_seq, List.mem_append, or_imp, forall_and]

theorem clears_map {change : α → β} {x : Checked α} {name : String} :
    (change <$> x).Clears name ↔ x.Clears name := by
  simp only [Clears, problems_map]

theorem clears_sound {value : α} {name : String} : (Checked.sound value).Clears name := by
  simp [Clears, problems]

theorem clears_flawed {flaw : Flaw} {name other : String} :
    (Checked.flawed [⟨flaw, [.field other]⟩] : Checked α).Clears name ↔ other ≠ name := by
  simp [Clears, problems]

theorem clears_field {value : Except Flaw α} {name other : String} :
    (field other value).Clears name ↔ (other = name → ∃ found, value = .ok found) := by
  cases value with
  | ok found => simp [field, ofFlaw, clears_sound]
  | error flaw => simp [field, ofFlaw, clears_flawed]

theorem exists_sound_of_clears_field {value : Except Flaw α} {name : String}
    (hclears : (field name value).Clears name) : ∃ found, field name value = .sound found := by
  obtain ⟨found, rfl⟩ := clears_field.mp hclears rfl
  exact ⟨found, rfl⟩

end Checked

namespace Http

namespace TextRule

variable {rule : TextRule} {name other : String} {body : Json}

theorem clears_require_other (hother : other ≠ name) : (rule.require other body).Clears name := by
  unfold require
  split
  next => exact Checked.clears_field.mpr fun hsame => absurd hsame hother
  next => exact Checked.clears_flawed.mpr hother

theorem clears_readOr_other {default : String} (hother : other ≠ name) :
    (rule.readOr other default body).Clears name := by
  unfold readOr
  split
  next => exact Checked.clears_field.mpr fun hsame => absurd hsame hother
  next => exact Checked.clears_sound

theorem exists_sound_of_clears_require (hclears : (rule.require name body).Clears name) :
    ∃ found, rule.require name body = .sound found := by
  unfold require at hclears ⊢
  split at hclears
  next => exact Checked.exists_sound_of_clears_field hclears
  next => exact absurd rfl (Checked.clears_flawed.mp hclears)

theorem exists_sound_of_clears_readOr
    {default : String} (hclears : (rule.readOr name default body).Clears name) :
    ∃ found, rule.readOr name default body = .sound found := by
  unfold readOr at hclears ⊢
  split at hclears
  next => exact Checked.exists_sound_of_clears_field hclears
  next => exact ⟨_, rfl⟩

end TextRule

/-! ## Names and addresses -/

/-- A letter or digit of the ASCII range, an underscore, a point or a hyphen. -/
def NameLetter (c : Char) : Prop :=
  ('A' ≤ c ∧ c ≤ 'Z') ∨ ('a' ≤ c ∧ c ≤ 'z') ∨ ('0' ≤ c ∧ c ≤ '9') ∨ c = '_' ∨ c = '.' ∨ c = '-'

structure IsUsername (cs : List Char) : Prop where
  least : 1 ≤ cs.length
  greatest : cs.length ≤ 64
  letters : ∀ c ∈ cs, NameLetter c

/-- A point that is neither the first nor the last character. -/
def HasInnerPoint (domain : List Char) : Prop :=
  ∃ before after, domain = before ++ '.' :: after ∧ before ≠ [] ∧ after ≠ []

structure IsAddress (cs : List Char) : Prop where
  least : 3 ≤ cs.length
  greatest : cs.length ≤ 255
  single : cs.count '@' = 1
  unbroken : ∀ c ∈ cs, Text.isBlank c = false
  parts : ∃ front domain, cs = front ++ '@' :: domain ∧ front ≠ [] ∧ HasInnerPoint domain

namespace Shape

theorem isNameCharacter_eq_true_iff {c : Char} : isNameCharacter c = true ↔ NameLetter c := by
  have hkinds : isNameCharacter c =
    (((c.isUpper || c.isLower) || c.isDigit) || c == '_' || c == '.' || c == '-') := rfl
  have hupper : c.isUpper = decide ('A' ≤ c ∧ c ≤ 'Z') := rfl
  have hlower : c.isLower = (decide ('a' ≤ c) && decide (c ≤ 'z')) := rfl
  have hdigit : c.isDigit = (decide ('0' ≤ c) && decide (c ≤ '9')) := rfl
  simp only [hkinds, hupper, hlower, hdigit, NameLetter, Bool.or_eq_true, Bool.and_eq_true,
    decide_eq_true_eq, beq_iff_eq, or_assoc]

theorem hasInnerPoint_eq_true_iff {domain : List Char} :
    hasInnerPoint domain = true ↔ HasInnerPoint domain := by
  rw [hasInnerPoint, List.contains_iff_mem]
  constructor
  · intro hpoint
    obtain ⟨first, rest, rfl⟩ : ∃ first rest, domain = first :: rest := by
      cases domain with
      | nil => simp at hpoint
      | cons first rest => exact ⟨first, rest, rfl⟩
    rw [List.drop_one, List.tail_cons] at hpoint
    have hnonempty : rest ≠ [] := by
      rintro rfl
      simp at hpoint
    obtain ⟨before, after, hsplit⟩ := List.append_of_mem hpoint
    refine ⟨first :: before, after ++ [rest.getLast hnonempty], ?_, by simp, by simp⟩
    conv_lhs => rw [← List.dropLast_append_getLast hnonempty, hsplit]
    simp
  · rintro ⟨before, after, rfl, hbefore, hafter⟩
    cases before with
    | nil => exact absurd rfl hbefore
    | cons first before =>
        simp [List.dropLast_append_of_ne_nil, List.dropLast_cons_of_ne_nil hafter]

theorem count_at_eq_one_iff {front domain : List Char} :
    (front ++ '@' :: domain).count '@' = 1 ↔ '@' ∉ front ∧ '@' ∉ domain := by
  rw [List.count_append, List.count_cons_self, ← List.count_eq_zero, ← List.count_eq_zero]
  omega

/-- The first sign parts the text as the only one does. -/
theorem takeWhile_at {front : List Char} (hfront : '@' ∉ front) (domain : List Char) :
    (front ++ '@' :: domain).takeWhile (· != '@') = front ∧
      (front ++ '@' :: domain).dropWhile (· != '@') = '@' :: domain := by
  have hother : ∀ c ∈ front, (c != '@') = true := fun c hc =>
    bne_iff_ne.mpr fun hsame => hfront (hsame ▸ hc)
  rw [List.takeWhile_append_of_pos hother, List.dropWhile_append_of_pos hother]
  simp

theorem isAddress_eq_true_iff {cs : List Char} :
    isAddress cs = true ↔ cs.count '@' = 1 ∧ (∀ c ∈ cs, Text.isBlank c = false) ∧
      ∃ front domain, cs = front ++ '@' :: domain ∧ front ≠ [] ∧ HasInnerPoint domain := by
  simp only [isAddress, Bool.and_eq_true, Bool.not_eq_true', beq_iff_eq, List.any_eq_false,
    List.isEmpty_eq_false_iff, Bool.not_eq_true, hasInnerPoint_eq_true_iff]
  constructor
  · rintro ⟨⟨⟨hfront, hsingle⟩, hunbroken⟩, hpoint⟩
    obtain ⟨front, domain, rfl⟩ :=
      List.append_of_mem (List.count_pos_iff.mp (by omega : 0 < cs.count '@'))
    obtain ⟨htake, hdrop⟩ := takeWhile_at (count_at_eq_one_iff.mp hsingle).1 domain
    rw [htake] at hfront
    rw [hdrop] at hpoint
    exact ⟨hsingle, hunbroken, front, domain, rfl, hfront, hpoint⟩
  · rintro ⟨hsingle, hunbroken, front, domain, rfl, hfront, hpoint⟩
    obtain ⟨htake, hdrop⟩ := takeWhile_at (count_at_eq_one_iff.mp hsingle).1 domain
    rw [htake, hdrop]
    exact ⟨⟨⟨hfront, hsingle⟩, hunbroken⟩, hpoint⟩

end Shape

namespace TextRule

/-- The text may stand in the field once the blanks at its ends are off. -/
structure Admits (rule : TextRule) (kept : String) : Prop where
  least : rule.least ≤ kept.length
  greatest : kept.length ≤ rule.greatest
  shape : rule.shape.accepts kept.toList = true

theorem admits_username_iff {kept : String} : username.Admits kept ↔ IsUsername kept.toList := by
  constructor
  · intro hadmits
    have hshape := hadmits.shape
    simp only [username, Shape.accepts, Bool.and_eq_true, List.all_eq_true,
      Shape.isNameCharacter_eq_true_iff] at hshape
    exact ⟨hadmits.least, hadmits.greatest, hshape.2⟩
  · intro hname
    refine ⟨hname.least, hname.greatest, ?_⟩
    simp only [username, Shape.accepts, Bool.and_eq_true, Bool.not_eq_true',
      List.isEmpty_eq_false_iff, List.all_eq_true, Shape.isNameCharacter_eq_true_iff]
    exact ⟨List.length_pos_iff.mp hname.least, hname.letters⟩

theorem admits_address_iff {kept : String} : address.Admits kept ↔ IsAddress kept.toList := by
  constructor
  · intro hadmits
    obtain ⟨hsingle, hunbroken, hparts⟩ := Shape.isAddress_eq_true_iff.mp hadmits.shape
    exact ⟨hadmits.least, hadmits.greatest, hsingle, hunbroken, hparts⟩
  · intro haddress
    exact ⟨haddress.least, haddress.greatest, Shape.isAddress_eq_true_iff.mpr
      ⟨haddress.single, haddress.unbroken, haddress.parts⟩⟩

theorem admits_identifier {kept : String} (hname : username.Admits kept ∨ address.Admits kept) :
    identifier.Admits kept := by
  rcases hname with hname | haddress
  · exact ⟨hname.least, hname.greatest.trans (by decide), rfl⟩
  · exact ⟨le_trans (by decide) haddress.least, haddress.greatest, rfl⟩

section Trimmed

variable {rule : TextRule} (htrimmed : rule.trimmed = true)

include htrimmed

theorem check_trimmed_eq_ok {text kept : String} :
    rule.check text = .ok kept ↔
      Text.Strips text.toList kept.toList ∧ rule.Admits kept := by
  rw [check_eq_ok, Text.strips_iff, TextRule.kept, if_pos htrimmed]
  refine and_congr_right fun _ => ?_
  constructor
  · rintro ⟨hleast, hgreatest, hshape⟩
    exact ⟨hleast, hgreatest, hshape⟩
  · intro hadmits
    exact ⟨hadmits.least, hadmits.greatest, hadmits.shape⟩

variable {name : String} {body : Json} {submitted : JsonString}
  (hmember : body.member? name = some (.string submitted))

include hmember

theorem require_trimmed_eq_sound {kept : String} :
    rule.require name body = .sound kept ↔ submitted.Leaves kept ∧ rule.Admits kept := by
  simp only [require_eq_sound, hmember, check_trimmed_eq_ok htrimmed, Json.text, Option.some.injEq,
    Json.string.injEq, JsonString.Leaves]
  constructor
  · rintro ⟨text, hplain, hstrips, hadmits⟩
    exact ⟨⟨text, hplain, hstrips⟩, hadmits⟩
  · rintro ⟨⟨text, hplain, hstrips⟩, hadmits⟩
    exact ⟨text, hplain, hstrips, hadmits⟩

theorem leaves_of_check {found : String}
    (hcheck : ∃ text, body.member? name = some (.text text) ∧ rule.check text = .ok found) :
    submitted.Leaves found :=
  ((require_trimmed_eq_sound htrimmed hmember).mp (require_eq_sound.mpr hcheck)).1

theorem clears_require_iff :
    (rule.require name body).Clears name ↔ ∃ kept, submitted.Leaves kept ∧ rule.Admits kept := by
  simp only [← require_trimmed_eq_sound htrimmed hmember]
  constructor
  · exact exists_sound_of_clears_require
  · rintro ⟨kept, hsound⟩
    rw [hsound]
    exact Checked.clears_sound

end Trimmed

/-- What a rule keeps of a text it keeps once more. -/
theorem check_check {rule : TextRule} {text kept : String} (hcheck : rule.check text = .ok kept) :
    rule.check kept = .ok kept := by
  obtain ⟨hkept, hleast, hgreatest, hshape⟩ := check_eq_ok.mp hcheck
  refine check_eq_ok.mpr ⟨?_, hleast, hgreatest, hshape⟩
  by_cases htrimmed : rule.trimmed = true
  · rw [TextRule.kept, if_pos htrimmed] at hkept ⊢
    exact Text.strips_iff.mp (Text.strips_iff.mpr hkept).self
  · rw [TextRule.kept, if_neg htrimmed]

/-- What is read of an optional field passes the check if the default does. -/
theorem check_of_readOr
    {rule : TextRule} {name default found : String} {body : Json}
    (hdefault : rule.check default = .ok default)
    (hread : rule.readOr name default body = .sound found) :
    rule.check found = .ok found := by
  unfold readOr at hread
  split at hread
  next =>
    simp only [read, Checked.field_eq_sound, bind_eq_ok] at hread
    obtain ⟨text, -, hcheck⟩ := hread
    exact check_check hcheck
  next =>
    injection hread with hsame
    rwa [← hsame]

end TextRule

/-! ## The patterns -/

namespace Shape

def oneOrMore (kind : Char → Prop) : Language Char :=
  {cs | cs ≠ [] ∧ ∀ c ∈ cs, kind c}

/-- What an address is made of apart from its sign. -/
def Unmarked (c : Char) : Prop :=
  c ≠ '@' ∧ Text.isBlank c = false

/-- The texts that match the pattern from their first character to their last. -/
def language : Shape → Language Char
  | any => ⊤
  | username => oneOrMore NameLetter
  | address =>
    oneOrMore Unmarked * ({['@']} : Language Char) * oneOrMore Unmarked *
      ({['.']} : Language Char) * oneOrMore Unmarked

theorem mem_oneOrMore {kind : Char → Prop} {cs : List Char} :
    cs ∈ oneOrMore kind ↔ cs ≠ [] ∧ ∀ c ∈ cs, kind c :=
  Iff.rfl

theorem mem_address_language {cs : List Char} :
    cs ∈ address.language ↔ ∃ front ∈ oneOrMore Unmarked, ∃ before ∈ oneOrMore Unmarked,
      ∃ after ∈ oneOrMore Unmarked, cs = front ++ '@' :: (before ++ '.' :: after) := by
  simp only [language, Language.mem_mul]
  constructor
  · rintro ⟨_, ⟨_, ⟨_, ⟨front, hfront, _, rfl, rfl⟩, before, hbefore, rfl⟩, _, rfl, rfl⟩,
      after, hafter, rfl⟩
    exact ⟨front, hfront, before, hbefore, after, hafter, by simp⟩
  · rintro ⟨front, hfront, before, hbefore, after, hafter, rfl⟩
    exact ⟨_, ⟨_, ⟨_, ⟨front, hfront, _, rfl, rfl⟩, before, hbefore, rfl⟩, _, rfl, rfl⟩,
      after, hafter, by simp⟩

/-- The check of a shape accepts just the texts that match its pattern. -/
theorem accepts_iff_mem_language {shape : Shape} {cs : List Char} :
    shape.accepts cs = true ↔ cs ∈ shape.language := by
  cases shape with
  | any => exact iff_of_true rfl trivial
  | username =>
      simp only [accepts, language, mem_oneOrMore, Bool.and_eq_true, Bool.not_eq_true',
        List.isEmpty_eq_false_iff, List.all_eq_true, isNameCharacter_eq_true_iff]
  | address =>
      rw [accepts, isAddress_eq_true_iff, mem_address_language]
      constructor
      · rintro ⟨hsingle, hunbroken, front, domain, rfl, hfront, before, after, rfl, hbefore, hafter⟩
        obtain ⟨hleft, hright⟩ := count_at_eq_one_iff.mp hsingle
        simp only [List.mem_append, List.mem_cons, not_or] at hunbroken hright
        refine ⟨front, ⟨hfront, ?_⟩, before, ⟨hbefore, ?_⟩, after, ⟨hafter, ?_⟩, rfl⟩
        · exact fun c hc => ⟨ne_of_mem_of_not_mem hc hleft, hunbroken c (.inl hc)⟩
        · exact fun c hc =>
            ⟨ne_of_mem_of_not_mem hc hright.1, hunbroken c (.inr (.inr (.inl hc)))⟩
        · exact fun c hc =>
            ⟨ne_of_mem_of_not_mem hc hright.2.2, hunbroken c (.inr (.inr (.inr (.inr hc))))⟩
      · rintro ⟨front, hfront, before, hbefore, after, hafter, rfl⟩
        refine ⟨count_at_eq_one_iff.mpr ⟨?_, ?_⟩, ?_, front, _, rfl, hfront.1, before, after, rfl,
          hbefore.1, hafter.1⟩
        · exact fun hc => (hfront.2 _ hc).1 rfl
        · intro hc
          rcases List.mem_append.mp hc with hc | hc
          · exact (hbefore.2 _ hc).1 rfl
          · exact (hafter.2 _ (List.mem_of_ne_of_mem (by decide) hc)).1 rfl
        · intro c hc
          simp only [List.mem_append, List.mem_cons] at hc
          rcases hc with hc | rfl | hc | rfl | hc
          · exact (hfront.2 c hc).2
          · rfl
          · exact (hbefore.2 c hc).2
          · rfl
          · exact (hafter.2 c hc).2

end Shape

/-! ## Forms -/

namespace Registration

def toJson (form : Registration) : Json :=
  .record
    [("username", .text form.username), ("email", .text form.email),
      ("password", .text form.password), ("name", .text form.name)]

variable {body : Json} (hobject : body.isObject = true)

include hobject

theorem clears_read_iff {name : String} :
    (Registration.read body).Clears name ↔
      (TextRule.username.require "username" body).Clears name ∧
        (TextRule.address.require "email" body).Clears name ∧
        (TextRule.password.require "password" body).Clears name ∧
        (TextRule.displayName.readOr "name" "" body).Clears name := by
  simp only [Registration.read, readFields, if_pos hobject, Checked.clears_seq, Checked.clears_map,
    and_assoc]

theorem exists_sound_iff :
    (∃ form, Registration.read body = .sound form) ↔
      ∀ name ∈ ["username", "email", "password", "name"],
        (Registration.read body).Clears name := by
  constructor
  · rintro ⟨form, hread⟩ name -
    rw [hread]
    exact Checked.clears_sound
  · intro hclears
    simp only [List.forall_mem_cons, clears_read_iff hobject] at hclears
    obtain ⟨⟨husername, -⟩, ⟨-, hemail, -⟩, ⟨-, -, hpassword, -⟩, ⟨-, -, -, hname⟩, -⟩ := hclears
    obtain ⟨username, husername⟩ := TextRule.exists_sound_of_clears_require husername
    obtain ⟨email, hemail⟩ := TextRule.exists_sound_of_clears_require hemail
    obtain ⟨password, hpassword⟩ := TextRule.exists_sound_of_clears_require hpassword
    obtain ⟨name, hname⟩ := TextRule.exists_sound_of_clears_readOr hname
    exact ⟨⟨username, email, password, name⟩, read_eq_sound.mpr
      ⟨hobject, TextRule.require_eq_sound.mp husername, TextRule.require_eq_sound.mp hemail,
        TextRule.require_eq_sound.mp hpassword, hname⟩⟩

variable {submitted : JsonString}

theorem clears_username_iff
    (hmember : body.member? "username" = some (.string submitted)) :
    (Registration.read body).Clears "username" ↔
      ∃ kept, submitted.Leaves kept ∧ IsUsername kept.toList := by
  rw [clears_read_iff hobject, TextRule.clears_require_iff rfl hmember]
  simp only [TextRule.admits_username_iff]
  exact and_iff_left ⟨TextRule.clears_require_other (by decide),
    TextRule.clears_require_other (by decide), TextRule.clears_readOr_other (by decide)⟩

theorem clears_email_iff
    (hmember : body.member? "email" = some (.string submitted)) :
    (Registration.read body).Clears "email" ↔
      ∃ kept, submitted.Leaves kept ∧ IsAddress kept.toList := by
  rw [clears_read_iff hobject, TextRule.clears_require_iff rfl hmember]
  simp only [TextRule.admits_address_iff]
  rw [and_iff_right (TextRule.clears_require_other (by decide))]
  exact and_iff_left ⟨TextRule.clears_require_other (by decide),
    TextRule.clears_readOr_other (by decide)⟩

omit hobject

theorem read_toJson {form : Registration} (hread : Registration.read body = .sound form) :
    Registration.read form.toJson = .sound form := by
  obtain ⟨-, ⟨_, -, husername⟩, ⟨_, -, hemail⟩, ⟨_, -, hpassword⟩, hname⟩ :=
    read_eq_sound.mp hread
  refine read_eq_sound.mpr ⟨rfl, ⟨_, rfl, TextRule.check_check husername⟩,
    ⟨_, rfl, TextRule.check_check hemail⟩, ⟨_, rfl, TextRule.check_check hpassword⟩, ?_⟩
  have hdefault : TextRule.displayName.check "" = .ok "" := by
    rw [TextRule.check_trimmed_eq_ok rfl]
    exact ⟨⟨⟨[], [], by simp⟩, by simp, by simp⟩, Nat.zero_le _, Nat.zero_le _, rfl⟩
  have hmember : form.toJson.member? "name" = some (.text form.name) := rfl
  rw [TextRule.readOr, hmember]
  simp only [TextRule.read, Checked.field_eq_sound, bind_eq_ok, Validation.readText_eq_ok]
  exact ⟨_, rfl, TextRule.check_of_readOr hdefault hname⟩

end Registration

namespace Credentials

variable {body : Json} (hobject : body.isObject = true)

include hobject

theorem clears_identifier_iff {submitted : JsonString}
    (hmember : body.member? "identifier" = some (.string submitted)) :
    (Credentials.read body).Clears "identifier" ↔
      ∃ kept, submitted.Leaves kept ∧ TextRule.identifier.Admits kept := by
  rw [← TextRule.clears_require_iff rfl hmember]
  simp only [Credentials.read, readFields, if_pos hobject, Checked.clears_seq, Checked.clears_map]
  exact and_iff_left (TextRule.clears_require_other (by decide))

theorem exists_sound_iff :
    (∃ form, Credentials.read body = .sound form) ↔
      ∀ name ∈ ["identifier", "password"], (Credentials.read body).Clears name := by
  constructor
  · rintro ⟨form, hread⟩ name -
    rw [hread]
    exact Checked.clears_sound
  · intro hclears
    simp only [List.forall_mem_cons, Credentials.read, readFields, if_pos hobject,
      Checked.clears_seq, Checked.clears_map] at hclears
    obtain ⟨⟨hidentifier, -⟩, ⟨-, hpassword⟩, -⟩ := hclears
    obtain ⟨identifier, hidentifier⟩ := TextRule.exists_sound_of_clears_require hidentifier
    obtain ⟨password, hpassword⟩ := TextRule.exists_sound_of_clears_require hpassword
    exact ⟨⟨identifier, password⟩, read_eq_sound.mpr
      ⟨hobject, TextRule.require_eq_sound.mp hidentifier, TextRule.require_eq_sound.mp hpassword⟩⟩

end Credentials

/-- A registration takes a string as a name or as an address just if what is left of it has
the form of one, and keeps what is left, which it takes again unchanged.  A login takes the
same string and keeps the same of it. -/
theorem names_admitted (submitted : JsonString) :
    (∀ body, body.isObject = true →
      ((∃ form, Registration.read body = .sound form) ↔
        ∀ name ∈ ["username", "email", "password", "name"],
          (Registration.read body).Clears name) ∧
      (body.member? "username" = some (.string submitted) →
        ((Registration.read body).Clears "username" ↔
          ∃ kept, submitted.Leaves kept ∧ IsUsername kept.toList) ∧
        ∀ form, Registration.read body = .sound form → submitted.Leaves form.username) ∧
      (body.member? "email" = some (.string submitted) →
        ((Registration.read body).Clears "email" ↔
          ∃ kept, submitted.Leaves kept ∧ IsAddress kept.toList) ∧
        ∀ form, Registration.read body = .sound form → submitted.Leaves form.email) ∧
      ∀ form, Registration.read body = .sound form →
        Registration.read form.toJson = .sound form) ∧
    ∀ kept, submitted.Leaves kept → IsUsername kept.toList ∨ IsAddress kept.toList →
      ∀ body, body.isObject = true → body.member? "identifier" = some (.string submitted) →
        ((∃ form, Credentials.read body = .sound form) ↔
          (Credentials.read body).Clears "password") ∧
        (Credentials.read body).Clears "identifier" ∧
        ∀ form, Credentials.read body = .sound form → form.identifier = kept := by
  refine ⟨?_, ?_⟩
  · intro body hobject
    refine ⟨Registration.exists_sound_iff hobject, ?_, ?_, fun _ => Registration.read_toJson⟩
    · intro hmember
      refine ⟨Registration.clears_username_iff hobject hmember, ?_⟩
      intro form hread
      obtain ⟨-, husername, -⟩ := Registration.read_eq_sound.mp hread
      exact TextRule.leaves_of_check rfl hmember husername
    · intro hmember
      refine ⟨Registration.clears_email_iff hobject hmember, ?_⟩
      intro form hread
      obtain ⟨-, -, hemail, -⟩ := Registration.read_eq_sound.mp hread
      exact TextRule.leaves_of_check rfl hmember hemail
  · intro kept hkept hform body hobject hmember
    have hadmits : TextRule.identifier.Admits kept := by
      refine TextRule.admits_identifier ?_
      rwa [TextRule.admits_username_iff, TextRule.admits_address_iff]
    have hclears : (Credentials.read body).Clears "identifier" :=
      (Credentials.clears_identifier_iff hobject hmember).mpr ⟨kept, hkept, hadmits⟩
    refine ⟨?_, hclears, ?_⟩
    · rw [Credentials.exists_sound_iff hobject]
      simp [hclears]
    · intro form hread
      obtain ⟨-, hidentifier, -⟩ := Credentials.read_eq_sound.mp hread
      exact (TextRule.leaves_of_check rfl hmember hidentifier).unique hkept

/-- An address between blanks is registered without them, and a login with it finds the
same text. -/
theorem names_admitted_between_blanks :
    let submitted := JsonString.plain " a@b.c\n"
    let body := Json.record [("username", .text "alice"), ("email", .string submitted),
      ("password", .text "Passw0rd!")]
    let login := Json.record [("identifier", .string submitted), ("password", .text "Passw0rd!")]
    (Registration.read body).Clears "email" ∧ (Credentials.read login).Clears "identifier" ∧
      ∀ form, Credentials.read login = .sound form → form.identifier = "a@b.c" := by
  intro submitted body login
  have hkept : submitted.Leaves "a@b.c" :=
    ⟨_, rfl, ⟨[' '], ['\n'], rfl, by simp [Text.isBlank], by simp [Text.isBlank]⟩,
      by simp [Text.isBlank], by simp [Text.isBlank]⟩
  have haddress : IsAddress "a@b.c".toList :=
    ⟨by decide, by decide, by decide, by simp [Text.isBlank], ['a'], ['b', '.', 'c'], rfl,
      by simp, ['b'], ['c'], rfl, by simp, by simp⟩
  obtain ⟨hregistration, hlogin⟩ := names_admitted submitted
  obtain ⟨-, -, hemail, -⟩ := hregistration body rfl
  obtain ⟨-, hclears, hsame⟩ := hlogin "a@b.c" hkept (.inr haddress) login rfl rfl
  exact ⟨(hemail rfl).1.mpr ⟨_, hkept, haddress⟩, hclears, hsame⟩

/-- Code points that have the form of an address are refused where half of a surrogate pair
stands among them, which makes them no text. -/
theorem names_admitted_only_texts :
    let codes := [0x61, 0x40, 0x62, 0x2E, 0xD800]
    let body := Json.record [("username", .text ""),
      ("email", .string (JsonString.ofCodes codes)), ("password", .text "Passw0rd!")]
    codes.length = 5 ∧ codes.count '@'.toNat = 1 ∧
      (∀ c, Text.isBlank c = true → c.toNat ∉ codes) ∧
      codes = [0x61] ++ '@'.toNat :: ([0x62] ++ '.'.toNat :: [0xD800]) ∧
      ¬ (Registration.read body).Clears "email" := by
  intro codes body
  have hunbroken : ∀ c, Text.isBlank c = true → c.toNat ∉ codes := by
    intro c hblank hmem
    simp only [codes, List.mem_cons, List.not_mem_nil, or_false] at hmem
    rcases hmem with h | h | h | h | h <;> simp [Text.isBlank, h] at hblank
  refine ⟨by decide, by decide, hunbroken, by decide, ?_⟩
  intro hclears
  obtain ⟨_, ⟨_, hplain, -⟩, -⟩ := (Registration.clears_email_iff rfl rfl).mp hclears
  cases hplain

end Http

end AccountSessions
