import AccountSessions.Password.Policy
import Mathlib.Data.List.Perm.Basic

/-!
# Verdicts of the password policy

Every rule is either kept or broken by a password, and the policy reports the first rule in
order that is broken.  Whether a rule is broken is decided by the number of characters, the
number of bytes and the classes that occur, so nothing else about a password matters, least
of all the order of its characters.  A policy that asks for fewer classes accepts whatever
the stricter one accepts.
-/

namespace AccountSessions.Password

/-! ## Rules -/

/-- The rules in the order in which they are tried. -/
def Rule.order : List Rule := [.length, .uppercase, .lowercase, .digit, .symbol]

/-- The class of characters of which the rule asks for one. -/
def Rule.admits : Rule → Char → Bool
  | length => fun _ => false
  | uppercase => Text.isUppercase
  | lowercase => Text.isLowercase
  | digit => Text.isNumeral
  | symbol => Text.isSymbol

namespace Policy

/-- Whether the policy asks for a character of the class of the rule. -/
def demands (policy : Policy) : Rule → Bool
  | .length => false
  | .uppercase => policy.requireUpper
  | .lowercase => policy.requireLower
  | .digit => policy.requireDigit
  | .symbol => policy.requireSymbol

def Breaks (policy : Policy) (cs : List Char) : Rule → Prop
  | .length => (cs.length : Int) < policy.minLength ∨ policy.maxLength < (Text.Utf8.encode cs).length
  | rule => policy.demands rule = true ∧ ∀ c ∈ cs, rule.admits c = false

instance (policy : Policy) (cs : List Char) (rule : Rule) : Decidable (policy.Breaks cs rule) :=
  match rule with
  | .length => inferInstanceAs (Decidable (_ ∨ _))
  | .uppercase => inferInstanceAs (Decidable (_ ∧ _))
  | .lowercase => inferInstanceAs (Decidable (_ ∧ _))
  | .digit => inferInstanceAs (Decidable (_ ∧ _))
  | .symbol => inferInstanceAs (Decidable (_ ∧ _))

/-- What is said about the broken rule. -/
def wording (policy : Policy) (cs : List Char) : Rule → String
  | .length =>
    if (cs.length : Int) < policy.minLength then
      "Password must be at least " ++ toString policy.minLength ++ " characters long."
    else "Password must be at most " ++ toString policy.maxLength ++ " bytes long."
  | .uppercase => "Password must contain at least one uppercase letter."
  | .lowercase => "Password must contain at least one lowercase letter."
  | .digit => "Password must contain at least one number."
  | .symbol => "Password must contain at least one special character."

theorem breaks_iff_of_class (policy : Policy) (cs : List Char) {rule : Rule} (hclass : rule ≠ .length) :
    policy.Breaks cs rule ↔ (policy.demands rule && !cs.any rule.admits) = true := by
  cases rule with
  | length => exact absurd rfl hclass
  | uppercase | lowercase | digit | symbol => simp [Breaks]

/-- The verdict on a password that breaks the rule. -/
def verdict (policy : Policy) (cs : List Char) (rule : Rule) : Violation :=
  ⟨rule, policy.wording cs rule⟩

theorem find?_verdict_cons (policy : Policy) (cs : List Char) (rule : Rule) (later : List Rule) :
    ((rule :: later).find? (policy.Breaks cs ·)).map (policy.verdict cs) =
      if policy.Breaks cs rule then some (policy.verdict cs rule)
      else (later.find? (policy.Breaks cs ·)).map (policy.verdict cs) := by
  by_cases hbreaks : policy.Breaks cs rule
  · simp [hbreaks]
  · simp [hbreaks]

/-- The two bounds of the length are two tests for one rule. -/
theorem length_tests (policy : Policy) (cs : List Char) (otherwise : Option Violation) :
    (if policy.Breaks cs .length then some (policy.verdict cs .length) else otherwise) =
      if (cs.length : Int) < policy.minLength then
        some ⟨.length, "Password must be at least " ++ toString policy.minLength ++
          " characters long."⟩
      else if policy.maxLength < (Text.Utf8.encode cs).length then
        some ⟨.length, "Password must be at most " ++ toString policy.maxLength ++ " bytes long."⟩
      else otherwise := by
  by_cases hshort : (cs.length : Int) < policy.minLength
  · simp [Breaks, verdict, wording, hshort]
  · simp [Breaks, verdict, wording, hshort]

/-- The check looks for the first rule that is broken. -/
theorem check_eq_find? (policy : Policy) (password : String) :
    policy.check password =
      (Rule.order.find? (policy.Breaks password.toList ·)).map (policy.verdict password.toList) := by
  simp only [Rule.order, find?_verdict_cons, length_tests, List.find?_nil, Option.map_none,
    breaks_iff_of_class _ _ (show Rule.uppercase ≠ .length from nofun),
    breaks_iff_of_class _ _ (show Rule.lowercase ≠ .length from nofun),
    breaks_iff_of_class _ _ (show Rule.digit ≠ .length from nofun),
    breaks_iff_of_class _ _ (show Rule.symbol ≠ .length from nofun)]
  rfl

/-! ## Passwords without a fault -/

/-- The password is long and short enough and has a character of every class asked for. -/
structure Accepts (policy : Policy) (cs : List Char) : Prop where
  least : policy.minLength ≤ cs.length
  greatest : (Text.Utf8.encode cs).length ≤ policy.maxLength
  upper : policy.requireUpper = true → ∃ c ∈ cs, Text.isUppercase c = true
  lower : policy.requireLower = true → ∃ c ∈ cs, Text.isLowercase c = true
  digit : policy.requireDigit = true → ∃ c ∈ cs, Text.isNumeral c = true
  symbol : policy.requireSymbol = true → ∃ c ∈ cs, Text.isSymbol c = true

theorem accepts_iff (policy : Policy) (cs : List Char) :
    policy.Accepts cs ↔ ∀ rule, ¬ policy.Breaks cs rule := by
  constructor
  · intro haccepts rule hbreaks
    cases rule with
    | length =>
        rcases hbreaks with hshort | hlong
        · exact Int.not_lt.mpr haccepts.least hshort
        · exact Int.not_lt.mpr haccepts.greatest hlong
    | uppercase =>
        obtain ⟨c, hmem, hclass⟩ := haccepts.upper hbreaks.1
        exact nomatch hclass.symm.trans (hbreaks.2 c hmem)
    | lowercase =>
        obtain ⟨c, hmem, hclass⟩ := haccepts.lower hbreaks.1
        exact nomatch hclass.symm.trans (hbreaks.2 c hmem)
    | digit =>
        obtain ⟨c, hmem, hclass⟩ := haccepts.digit hbreaks.1
        exact nomatch hclass.symm.trans (hbreaks.2 c hmem)
    | symbol =>
        obtain ⟨c, hmem, hclass⟩ := haccepts.symbol hbreaks.1
        exact nomatch hclass.symm.trans (hbreaks.2 c hmem)
  · intro hkept
    have hlength := not_or.mp (hkept .length)
    have hclass (rule : Rule) (hother : rule ≠ .length) (hdemands : policy.demands rule = true) :
        ∃ c ∈ cs, rule.admits c = true := by
      have hnone := hkept rule
      rw [breaks_iff_of_class _ _ hother, hdemands] at hnone
      simpa using hnone
    exact ⟨Int.not_lt.mp hlength.1, Int.not_lt.mp hlength.2, hclass .uppercase nofun,
      hclass .lowercase nofun, hclass .digit nofun, hclass .symbol nofun⟩

theorem check_eq_none_iff (policy : Policy) (password : String) :
    policy.check password = none ↔ policy.Accepts password.toList := by
  rw [check_eq_find?, Option.map_eq_none_iff, List.find?_eq_none, accepts_iff]
  constructor
  · intro hkept rule hbreaks
    have hmem : rule ∈ Rule.order := by cases rule <;> decide
    exact hkept rule hmem (decide_eq_true hbreaks)
  · intro hkept rule _ hbreaks
    exact hkept rule (of_decide_eq_true hbreaks)

/-! ## The rule that is reported -/

/-- The rule is broken, and all rules before it are kept. -/
def BreaksFirst (policy : Policy) (cs : List Char) (rule : Rule) : Prop :=
  policy.Breaks cs rule ∧
    ∃ earlier later, Rule.order = earlier ++ rule :: later ∧
      ∀ kept ∈ earlier, ¬ policy.Breaks cs kept

theorem check_eq_some_iff (policy : Policy) (password : String) (violation : Violation) :
    policy.check password = some violation ↔
      policy.BreaksFirst password.toList violation.rule ∧
        violation.message = policy.wording password.toList violation.rule := by
  rw [check_eq_find?, Option.map_eq_some_iff]
  simp only [List.find?_eq_some_iff_append, decide_eq_true_eq, Bool.not_eq_true',
    decide_eq_false_iff_not]
  constructor
  · rintro ⟨rule, hfirst, rfl⟩
    exact ⟨hfirst, rfl⟩
  · rintro ⟨hfirst, hmessage⟩
    exact ⟨violation.rule, hfirst, by rw [verdict, ← hmessage]⟩

/-! ## What a verdict depends on -/

/-- The texts have as many characters and bytes and hold characters of the same classes. -/
structure Alike (cs other : List Char) : Prop where
  count : other.length = cs.length
  bytes : (Text.Utf8.encode other).length = (Text.Utf8.encode cs).length
  classes : ∀ rule : Rule, (∃ c ∈ other, rule.admits c = true) ↔ ∃ c ∈ cs, rule.admits c = true

theorem Alike.of_perm {cs other : List Char} (hperm : other.Perm cs) : Alike cs other where
  count := hperm.length_eq
  bytes := (hperm.flatMap_right Text.Utf8.encodeChar).length_eq
  classes rule := by simp only [hperm.mem_iff]

theorem Alike.breaks_iff
    {cs other : List Char} (halike : Alike cs other) (policy : Policy) (rule : Rule) :
    policy.Breaks other rule ↔ policy.Breaks cs rule := by
  by_cases hlength : rule = .length
  · subst hlength
    simp only [Breaks, halike.count, halike.bytes]
  · have hclasses : other.any rule.admits = cs.any rule.admits := by
      rw [Bool.eq_iff_iff, List.any_eq_true, List.any_eq_true]
      exact halike.classes rule
    rw [breaks_iff_of_class _ _ hlength, breaks_iff_of_class _ _ hlength, hclasses]

theorem Alike.check_eq
    {password other : String} (halike : Alike password.toList other.toList) (policy : Policy) :
    policy.check other = policy.check password := by
  have hwording : policy.wording other.toList = policy.wording password.toList := by
    funext rule
    simp only [wording, halike.count]
  have hverdict : policy.verdict other.toList = policy.verdict password.toList := by
    funext rule
    rw [verdict, verdict, hwording]
  simp only [check_eq_find?, halike.breaks_iff, hverdict]

/-! ## Policies that ask for less -/

/-- The policy that does not ask for the class of the rule. -/
def without (policy : Policy) : Rule → Policy
  | .length => policy
  | .uppercase => { policy with requireUpper := false }
  | .lowercase => { policy with requireLower := false }
  | .digit => { policy with requireDigit := false }
  | .symbol => { policy with requireSymbol := false }

theorem Accepts.without
    {policy : Policy} {cs : List Char} (haccepts : policy.Accepts cs) (rule : Rule) :
    (policy.without rule).Accepts cs := by
  cases rule with
  | length => exact haccepts
  | uppercase => exact { haccepts with upper := nofun }
  | lowercase => exact { haccepts with lower := nofun }
  | digit => exact { haccepts with digit := nofun }
  | symbol => exact { haccepts with symbol := nofun }

/-- A password passes just if it is accepted on all counts, and otherwise the first broken
rule is reported.  The verdict depends on the counts and the classes alone, so the order of
the characters does not matter, and a rule that is switched off costs no password its
acceptance. -/
theorem first_violation_reported (policy : Policy) (password : String) :
    (policy.check password = none ↔ policy.Accepts password.toList) ∧
      (∀ violation, policy.check password = some violation ↔
        policy.BreaksFirst password.toList violation.rule ∧
          violation.message = policy.wording password.toList violation.rule) ∧
      (∀ other : String, Alike password.toList other.toList →
        policy.check other = policy.check password) ∧
      (∀ other : String, other.toList.Perm password.toList →
        policy.check other = policy.check password) ∧
      ∀ rule, policy.check password = none → (policy.without rule).check password = none := by
  refine ⟨policy.check_eq_none_iff password, policy.check_eq_some_iff password,
    fun other halike => halike.check_eq policy,
    fun other hperm => (Alike.of_perm hperm).check_eq policy, ?_⟩
  intro rule hpasses
  rw [check_eq_none_iff] at hpasses ⊢
  exact hpasses.without rule

/-- Three small letters break four rules, and the length is what is reported. -/
example : (Policy.check {} "abc").map (·.rule) = some .length := by decide

end Policy

end AccountSessions.Password
