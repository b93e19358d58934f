import AccountSessions.Text.Blank
import Mathlib.Data.List.TakeWhile

/-!
# Trimmed texts

What is left of a text when the characters at its ends that fail a test are cut off.  It
is the one part of the text that begins and ends with characters that stay and is
surrounded by characters that go.
-/

namespace AccountSessions.Text

/-- The second text is what is left of the first one without the dropped characters at its
ends. -/
structure Trims (drop : Char → Bool) (text kept : List Char) : Prop where
  ends : ∃ front back, text = front ++ kept ++ back ∧
    (∀ c ∈ front, drop c = true) ∧ ∀ c ∈ back, drop c = true
  first : ∀ c ∈ kept.head?, drop c = false
  last : ∀ c ∈ kept.getLast?, drop c = false

variable {drop : Char → Bool}

theorem dropWhile_eq_self {cs : List Char} (hfirst : ∀ c ∈ cs.head?, drop c = false) :
    cs.dropWhile drop = cs := by
  cases cs with
  | nil => rfl
  | cons c rest => rw [List.dropWhile_cons_of_neg (by simp [hfirst c rfl])]

theorem head?_dropWhile (drop : Char → Bool) (cs : List Char) :
    ∀ c ∈ (cs.dropWhile drop).head?, drop c = false := by
  intro c hc
  have hnot := List.head?_dropWhile_not drop cs
  rw [hc] at hnot
  exact hnot

theorem trims_trimEnds (drop : Char → Bool) (text : List Char) :
    Trims drop text (trimEnds drop text) := by
  let middle := text.dropWhile drop
  let back := (middle.reverse.takeWhile drop).reverse
  have hmiddle : trimEnds drop text ++ back = middle := by
    rw [trimEnds, ← List.reverse_append, List.takeWhile_append_dropWhile, List.reverse_reverse]
  refine ⟨⟨text.takeWhile drop, back, ?_, ?_, ?_⟩, ?_, ?_⟩
  · rw [List.append_assoc, hmiddle, List.takeWhile_append_dropWhile]
  · exact fun c hc => List.mem_takeWhile_imp hc
  · exact fun c hc => List.mem_takeWhile_imp (List.mem_reverse.mp hc)
  · intro c hc
    apply head?_dropWhile drop text
    change middle.head? = some c
    rw [← hmiddle, List.head?_append, Option.mem_def.mp hc]
    rfl
  · intro c hc
    rw [trimEnds, List.getLast?_reverse] at hc
    exact head?_dropWhile drop _ c hc

theorem Trims.eq_trimEnds {text kept : List Char} (htrims : Trims drop text kept) :
    kept = trimEnds drop text := by
  obtain ⟨⟨front, back, rfl, hfront, hback⟩, hfirst, hlast⟩ := htrims
  rw [trimEnds, List.append_assoc, List.dropWhile_append_of_pos hfront]
  -- If nothing is left, what is dropped behind it goes with what is in front.
  cases kept with
  | nil =>
      have hnone : back.dropWhile drop = [] := List.dropWhile_eq_nil_iff.mpr hback
      rw [List.nil_append, hnone]
      rfl
  | cons c rest =>
      have hstart : (c :: rest ++ back).dropWhile drop = c :: rest ++ back :=
        dropWhile_eq_self (by simpa using hfirst)
      rw [hstart, List.reverse_append,
        List.dropWhile_append_of_pos fun c hc => hback c (List.mem_reverse.mp hc),
        dropWhile_eq_self (by simpa only [List.head?_reverse] using hlast), List.reverse_reverse]

theorem trims_iff {text kept : List Char} :
    Trims drop text kept ↔ kept = trimEnds drop text := by
  constructor
  · exact Trims.eq_trimEnds
  · rintro rfl
    exact trims_trimEnds drop text

theorem trims_self {cs : List Char} (hkept : ∀ c ∈ cs, drop c = false) : Trims drop cs cs where
  ends := ⟨[], [], by simp, by simp, by simp⟩
  first := fun c hc => hkept c (List.mem_of_mem_head? hc)
  last := fun c hc => hkept c (List.mem_of_mem_getLast? hc)

end AccountSessions.Text
