/-!
# Separated texts

How a text falls into pieces at every occurrence of a character. The pieces, joined by the
character again, are the text, and no piece holds it.
-/

namespace HeaderBindings.Text

/-- The pieces of a text between the occurrences of a character; there is always at least one. -/
def separatedBy (separator : Char) : List Char → List (List Char)
  | [] => [[]]
  | c :: rest =>
      if c = separator then [] :: separatedBy separator rest
      else
        match separatedBy separator rest with
        | [] => [[c]]
        | piece :: more => (c :: piece) :: more

theorem separatedBy_ne_nil (separator : Char) (text : List Char) :
    separatedBy separator text ≠ [] := by
  cases text with
  | nil => simp [separatedBy]
  | cons c rest =>
    simp only [separatedBy]
    split
    · simp
    · split <;> simp

theorem intercalate_separatedBy (separator : Char) (text : List Char) :
    [separator].intercalate (separatedBy separator text) = text := by
  induction text with
  | nil => rfl
  | cons c rest ih =>
    simp only [separatedBy]
    rcases pieces : separatedBy separator rest with _ | ⟨piece, more⟩
    · exact absurd pieces (separatedBy_ne_nil separator rest)
    · rw [pieces] at ih
      split
      · rename_i same
        subst same
        rw [← ih]
        rfl
      · rw [← ih]
        cases more <;> rfl

theorem not_mem_of_mem_separatedBy {separator : Char} {text piece : List Char}
    (h : piece ∈ separatedBy separator text) : separator ∉ piece := by
  induction text generalizing piece with
  | nil => simp_all [separatedBy]
  | cons c rest ih =>
    simp only [separatedBy] at h
    split at h
    · rcases List.mem_cons.1 h with rfl | h
      · simp
      · exact ih h
    · rename_i other
      split at h
      · rw [List.mem_singleton.1 h]
        simpa [eq_comm] using other
      · rename_i first more found
        rcases List.mem_cons.1 h with rfl | h
        · have := ih (found ▸ List.mem_cons_self : first ∈ separatedBy separator rest)
          simp [this, Ne.symm other]
        · exact ih (found ▸ List.mem_cons_of_mem first h)

end HeaderBindings.Text
