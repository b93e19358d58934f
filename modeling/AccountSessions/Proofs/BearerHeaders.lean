import AccountSessions.Http.Bearer
import AccountSessions.Proofs.TokenText

/-!
# Headers with a token

A header carries a token behind the word `Bearer` and a blank, with nothing but word breaks
around it.  What such a header carries is found in it, and nothing is found in any other.
Issued tokens hold no word break, so they come out of a header as they were put in.
-/

namespace AccountSessions.Http

/-- The header carries the token, which begins and ends with characters of its own. -/
structure Carries (value token : String) : Prop where
  form : ∃ front back : String, value = "Bearer " ++ front ++ token ++ back ∧
    (∀ c ∈ front.toList, Text.isWordBreak c = true) ∧
    ∀ c ∈ back.toList, Text.isWordBreak c = true
  nonempty : token ≠ ""
  first : ∀ c ∈ token.toList.head?, Text.isWordBreak c = false
  last : ∀ c ∈ token.toList.getLast?, Text.isWordBreak c = false

theorem bearerToken?_append (rest : String) :
    bearerToken? ("Bearer " ++ rest) =
      if Text.trimEnds Text.isWordBreak rest.toList = [] then none
      else some (String.ofList (Text.trimEnds Text.isWordBreak rest.toList)) := by
  have hscheme : ("Bearer " ++ rest).toList.takeWhile (· != ' ') = bearerScheme := by
    rw [String.toList_append]
    rfl
  have hrest : ("Bearer " ++ rest).toList.dropWhile (· != ' ') = ' ' :: rest.toList := by
    rw [String.toList_append]
    rfl
  have hblank : Text.trimEnds Text.isWordBreak (' ' :: rest.toList) =
      Text.trimEnds Text.isWordBreak rest.toList := rfl
  rw [bearerToken?, bearerCredentials?, hscheme, hrest, hblank]
  by_cases hempty : Text.trimEnds Text.isWordBreak rest.toList = []
  · rw [if_pos hempty, if_neg (by simp [hempty])]
    rfl
  · rw [if_neg hempty, if_pos ⟨rfl, hempty⟩, Option.map_some]

theorem exists_rest_of_bearerToken?
    {value token : String} (hfound : bearerToken? value = some token) :
    ∃ rest, value = "Bearer " ++ rest := by
  unfold bearerToken? bearerCredentials? at hfound
  dsimp only at hfound
  split at hfound
  next hform =>
    obtain ⟨hscheme, hnonempty⟩ := hform
    have hhead := Text.head?_dropWhile (· != ' ') value.toList
    cases hrest : value.toList.dropWhile (· != ' ') with
    | nil => exact absurd (by rw [hrest]; rfl) hnonempty
    | cons c rest =>
        rw [hrest] at hhead
        obtain rfl : c = ' ' := by simpa using hhead c rfl
        have hvalue : value.toList = bearerScheme ++ ' ' :: rest := by
          rw [← hscheme, ← hrest, List.takeWhile_append_dropWhile]
        refine ⟨String.ofList rest, String.toList_inj.mp ?_⟩
        rw [hvalue]
        simp only [String.toList_append, String.toList_ofList]
        rfl
  next => cases hfound

theorem carries_append_iff {rest token : String} :
    Carries ("Bearer " ++ rest) token ↔
      token ≠ "" ∧ Text.Trims Text.isWordBreak rest.toList token.toList := by
  constructor
  · rintro ⟨⟨front, back, hvalue, hfront, hback⟩, hnonempty, hfirst, hlast⟩
    refine ⟨hnonempty, ⟨front.toList, back.toList, ?_, hfront, hback⟩, hfirst, hlast⟩
    have hchars := congrArg String.toList hvalue
    simpa only [String.toList_append, List.append_assoc, List.append_cancel_left_eq] using hchars
  · rintro ⟨hnonempty, ⟨front, back, hrest, hfront, hback⟩, hfirst, hlast⟩
    refine ⟨⟨String.ofList front, String.ofList back, ?_, ?_, ?_⟩, hnonempty, hfirst, hlast⟩
    · apply String.toList_inj.mp
      simp only [String.toList_append, String.toList_ofList, hrest, List.append_assoc]
    · rwa [String.toList_ofList]
    · rwa [String.toList_ofList]

/-- A header yields a token just if it carries it. -/
theorem bearerToken?_eq_some_iff {value token : String} :
    bearerToken? value = some token ↔ Carries value token := by
  have hbehind {rest : String} :
      bearerToken? ("Bearer " ++ rest) = some token ↔ Carries ("Bearer " ++ rest) token := by
    rw [bearerToken?_append, carries_append_iff, Text.trims_iff]
    constructor
    · intro hfound
      split at hfound
      next => cases hfound
      next hnonempty =>
        injection hfound with hfound
        rw [← hfound, String.toList_ofList]
        exact ⟨fun hempty => hnonempty (String.ofList_eq_empty_iff.mp hempty), rfl⟩
    · rintro ⟨hnonempty, hkept⟩
      rw [← hkept, if_neg (String.toList_eq_nil_iff.not.mpr hnonempty), String.ofList_toList]
  constructor
  · intro hfound
    obtain ⟨rest, rfl⟩ := exists_rest_of_bearerToken? hfound
    exact hbehind.mp hfound
  · intro hcarries
    obtain ⟨front, back, hvalue, -, -⟩ := hcarries.form
    have hrest : value = "Bearer " ++ (front ++ token ++ back) := by
      rw [hvalue, String.append_assoc, String.append_assoc, String.append_assoc]
    rw [hrest] at hcarries ⊢
    exact hbehind.mpr hcarries

theorem carries_of_spelled
    {token : String} (hspelled : Token.Spelled token) {front back : String}
    (hfront : ∀ c ∈ front.toList, Text.isWordBreak c = true)
    (hback : ∀ c ∈ back.toList, Text.isWordBreak c = true) :
    Carries ("Bearer " ++ front ++ token ++ back) token where
  form := ⟨front, back, rfl, hfront, hback⟩
  nonempty := hspelled.nonempty
  first := fun c hc => hspelled.not_isWordBreak c (List.mem_of_mem_head? hc)
  last := fun c hc => hspelled.not_isWordBreak c (List.mem_of_mem_getLast? hc)

/-- Every issued token is spelled in letters and two points, and a header yields it with
whatever word breaks around it.  A header yields just the token that it carries. -/
theorem token_carried_intact :
    (∀ (issuer : Token.Issuer) (kind : Token.Kind) (now : Moment) (tokenId : String)
      (userId : Int) (email : Option String) (token : String),
      issuer.issue kind now tokenId userId email = .ok token →
      Token.Spelled token ∧
        ∀ front back : String, (∀ c ∈ front.toList, Text.isWordBreak c = true) →
          (∀ c ∈ back.toList, Text.isWordBreak c = true) →
          bearerToken? ("Bearer " ++ front ++ token ++ back) = some token) ∧
    (∀ value token, bearerToken? value = some token ↔ Carries value token) ∧
    ∀ value, bearerToken? value = none ↔ ∀ token, ¬ Carries value token := by
  refine ⟨?_, fun _ _ => bearerToken?_eq_some_iff, ?_⟩
  · intro issuer kind now tokenId userId email token hissue
    have hspelled := Token.Issuer.spelled_of_issue hissue
    exact ⟨hspelled, fun front back hfront hback =>
      bearerToken?_eq_some_iff.mpr (carries_of_spelled hspelled hfront hback)⟩
  · intro value
    simp only [← bearerToken?_eq_some_iff, Option.eq_none_iff_forall_ne_some, ne_eq]

/-- An access token between a tabulator and a line feed. -/
theorem token_carried_intact_between_breaks :
    let issuer : Token.Issuer := ⟨"keep it", .ofSeconds 900, .ofSeconds 604800⟩
    ∃ token, issuer.issue .access .epoch "id" 1 (some "a@b.org") = .ok token ∧
      Token.Spelled token ∧
      bearerToken? ("Bearer " ++ "\t" ++ token ++ "\n") = some token ∧
      Carries ("Bearer " ++ "\t" ++ token ++ "\n") token := by
  intro issuer
  have hplain : Token.isPlainSecret issuer.secret = true := by decide +kernel
  obtain ⟨token, hsign⟩ := Token.exists_sign_of_plain hplain
    (Token.Grant.payload ⟨.access, 1, "a@b.org", "id", .epoch, { micros := 900000000 }⟩)
  have hissue : issuer.issue .access .epoch "id" 1 (some "a@b.org") = .ok token :=
    Token.Issuer.issue_eq_ok.mpr ⟨_, rfl, hsign⟩
  obtain ⟨hissued, hcarried, -⟩ := token_carried_intact
  obtain ⟨hspelled, hyields⟩ := hissued _ _ _ _ _ _ _ hissue
  have hfound := hyields "\t" "\n" (List.all_eq_true.mp rfl) (List.all_eq_true.mp rfl)
  exact ⟨token, hissue, hspelled, hfound, (hcarried _ _).mp hfound⟩

end AccountSessions.Http
