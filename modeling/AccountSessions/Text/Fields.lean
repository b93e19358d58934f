/-!
# Fields

The parts of a row between the occurrences of a separator.  There is one field more
than there are separators, and fields may be empty.
-/

namespace AccountSessions.Text

def fields [DecidableEq α] (separator : α) : List α → List (List α)
  | [] => [[]]
  | item :: rest =>
    match fields separator rest with
    | [] => [[item]]
    | field :: more => if item = separator then [] :: field :: more else (item :: field) :: more

theorem fields_ne_nil [DecidableEq α] (separator : α) (row : List α) :
    fields separator row ≠ [] := by
  cases row with
  | nil => simp [fields]
  | cons item rest =>
    simp only [fields]
    split
    · simp
    · split <;> simp

theorem fields_of_not_mem [DecidableEq α] {separator : α} {row : List α}
    (h : separator ∉ row) : fields separator row = [row] := by
  induction row with
  | nil => rfl
  | cons item rest ih =>
    simp only [List.mem_cons, not_or] at h
    simp [fields, ih h.2, Ne.symm h.1]

theorem fields_append_cons [DecidableEq α] {separator : α} {field : List α}
    (h : separator ∉ field) (rest : List α) :
    fields separator (field ++ separator :: rest) = field :: fields separator rest := by
  induction field with
  | nil =>
    simp only [List.nil_append, fields]
    split
    · exact absurd ‹_› (fields_ne_nil separator rest)
    · simp [*]
  | cons item more ih =>
    simp only [List.mem_cons, not_or] at h
    simp [fields, ih h.2, Ne.symm h.1]

def parts (separator : Char) (text : String) : List String :=
  (fields separator text.toList).map String.ofList

end AccountSessions.Text
