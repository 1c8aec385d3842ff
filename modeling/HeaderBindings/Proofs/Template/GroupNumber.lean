import HeaderBindings.Proofs.Text.Characters
import HeaderBindings.Proofs.Text.Lines
import HeaderBindings.Template.GroupNumber

/-!
# Reading the number of a group

A text made of digits only is read as the number that its digits write, unless there are too many.
What else a number may be written with are blanks, signs and underscores; no backslash is among
them.
-/

namespace HeaderBindings.Template

open Text Pattern

variable {c : Char} {text numeral : List Char} {n : Nat}

theorem writtenNumber?_eq (text : List Char) :
    writtenNumber? text = (groupedNumber? (signed (trimMargins text)).2).filter
      fun n => !(signed (trimMargins text)).1 || n == 0 := rfl

/-! ## Digits only -/

theorem trimMargins_eq_self (solid : ∀ c ∈ text, isMargin c = false) : trimMargins text = text := by
  have start : text.dropWhile isMargin = text := by
    cases text with
    | nil => rfl
    | cons c rest => rw [List.dropWhile_cons_of_neg (by simp [solid c])]
  have finish : text.rdropWhile isMargin = text := by
    rcases List.eq_nil_or_concat' text with rfl | ⟨front, c, rfl⟩
    · rfl
    · exact List.rdropWhile_concat_neg isMargin front c (by simp [solid c])
  rw [trimMargins, start]
  exact finish

theorem signed_of_isDigit (digit : isDigit c = true) : signed (c :: text) = (false, c :: text) := by
  unfold signed
  split
  next same => cases same; cases digit
  next same => cases same; cases digit
  next => rfl

theorem groupedNumber?_of_not_mem (noUnderscore : '_' ∉ numeral) (nonempty : numeral ≠ []) :
    groupedNumber? numeral =
      if numeral.length > Failure.maxNumeralLength then none else decimalNumber? numeral := by
  rw [groupedNumber?, separatedBy_of_not_mem noUnderscore]
  simp [nonempty.symm]

/-- Digits are read as the number that they write, unless there are too many. -/
theorem writtenNumber?_of_digits (nonempty : text ≠ []) (digits : ∀ c ∈ text, isDigit c = true) :
    writtenNumber? text =
      if text.length > Failure.maxNumeralLength then none else decimalNumber? text := by
  have solid : ∀ c ∈ text, isMargin c = false := by
    intro c inside
    simp [isMargin, not_isBlank_of_isDigit (digits c inside)]
  have noUnderscore : '_' ∉ text := fun inside => by cases digits '_' inside
  have unsigned : signed text = (false, text) := by
    obtain ⟨c, rest, rfl⟩ := List.exists_cons_of_ne_nil nonempty
    exact signed_of_isDigit (digits c List.mem_cons_self)
  rw [writtenNumber?_eq, trimMargins_eq_self solid, unsigned,
    ← groupedNumber?_of_not_mem noUnderscore nonempty]
  cases groupedNumber? text <;> rfl

theorem writtenNumber?_of_ascii (nonempty : text ≠ []) (ascii : ∀ c ∈ text, isAsciiDigit c = true)
    (short : text.length ≤ Failure.maxNumeralLength) :
    writtenNumber? text = some (numberIn 10 text) := by
  have digits : ∀ c ∈ text, isDigit c = true :=
    fun c inside => isDigit_of_isAsciiDigit (ascii c inside)
  rw [writtenNumber?_of_digits nonempty digits, if_neg (Nat.not_lt.mpr short),
    decimalNumber?_of_ascii ascii]

/-! ## Characters of a number -/

theorem exists_trimMargins_eq (text : List Char) :
    ∃ before after, text = before ++ trimMargins text ++ after ∧
      (∀ c ∈ before, isMargin c = true) ∧ ∀ c ∈ after, isMargin c = true :=
  exists_dropEnds_eq isMargin text

theorem mem_signed_or (inside : c ∈ text) : c = '-' ∨ c = '+' ∨ c ∈ (signed text).2 := by
  unfold signed
  split
  next => exact (List.mem_cons.mp inside).imp_right .inr
  next => exact .inr (List.mem_cons.mp inside)
  next => exact .inr (.inr inside)

theorem mem_flatten_separatedBy_or {separator : Char} (inside : c ∈ text) :
    c = separator ∨ c ∈ (separatedBy separator text).flatten := by
  induction text with
  | nil => cases inside
  | cons d rest ih =>
    rw [separatedBy]
    by_cases same : d = separator
    · rw [if_pos same]
      rcases List.mem_cons.mp inside with rfl | inside
      · exact .inl same
      · simpa using ih inside
    · rw [if_neg same]
      rcases List.mem_cons.mp inside with rfl | inside
      · right
        split <;> simp
      · apply (ih inside).imp_right
        intro inside
        split <;> simp_all

theorem isDecimal_of_mem_groups (isNumber : groupedNumber? numeral = some n)
    (inside : c ∈ numeral) : c = '_' ∨ isDecimal c = true := by
  rw [groupedNumber?] at isNumber
  have decimal : (decimalNumber? (separatedBy '_' numeral).flatten).isSome = true := by
    split at isNumber <;> simp_all
  rw [isSome_decimalNumber?, List.all_eq_true] at decimal
  exact (mem_flatten_separatedBy_or inside).imp_right (decimal c)

/-- No backslash is part of a number. -/
theorem backslash_not_mem_of_writtenNumber? (isNumber : writtenNumber? text = some n) :
    '\\' ∉ text := by
  obtain ⟨before, after, isText, blankBefore, blankAfter⟩ := exists_trimMargins_eq text
  rw [writtenNumber?_eq, Option.filter_eq_some_iff] at isNumber
  rw [isText]
  simp only [List.mem_append, not_or]
  refine ⟨⟨fun inside => ?_, fun inside => ?_⟩, fun inside => ?_⟩
  · cases blankBefore _ inside
  · rcases mem_signed_or inside with isMinus | isPlus | inside
    · cases isMinus
    · cases isPlus
    · rcases isDecimal_of_mem_groups isNumber.1 inside with isUnderscore | decimal
      · cases isUnderscore
      · cases decimal
  · cases blankAfter _ inside

end HeaderBindings.Template
