import HeaderBindings.Text.Line
import HeaderBindings.Proofs.Text.Trimming

/-!
# Lines of a text

How the lines of a text follow from its parts. Lines hold no line break, joined lines break where
they were joined, and blank texts at the ends of a text add only blank lines there and blanks to
its first and last line.
-/

namespace HeaderBindings.Text

variable {c : Char} {text line part : List Char}

/-- No character of a text ends a line. -/
def IsUnbroken (text : List Char) : Prop :=
  ∀ c ∈ text, isLineBreak c = false

/-- A text is decided by its own characters, not by all that there are. -/
instance : DecidablePred IsUnbroken :=
  fun text => List.decidableBAll (isLineBreak · = false) text

@[simp]
theorem isUnbroken_nil : IsUnbroken [] :=
  fun _ inside => (List.not_mem_nil inside).elim

@[simp]
theorem isUnbroken_cons : IsUnbroken (c :: text) ↔ isLineBreak c = false ∧ IsUnbroken text :=
  List.forall_mem_cons

@[simp]
theorem isUnbroken_append : IsUnbroken (part ++ text) ↔ IsUnbroken part ∧ IsUnbroken text :=
  List.forall_mem_append

theorem isBlank_of_isLineBreak (isBreak : isLineBreak c = true) : isBlank c = true := by
  simp only [isLineBreak, isBlank, Bool.or_eq_true, Bool.and_eq_true, decide_eq_true_eq,
    beq_iff_eq] at isBreak ⊢
  omega

theorem isLineBreak_of_not_isBlank (solid : isBlank c = false) : isLineBreak c = false := by
  by_contra isBreak
  rw [isBlank_of_isLineBreak (by simpa using isBreak)] at solid
  cases solid

theorem IsSolid.isUnbroken (solid : IsSolid part) : IsUnbroken part :=
  fun c inside => isLineBreak_of_not_isBlank (solid.2 c inside)

theorem ne_lineFeed_of_not_isBlank (solid : isBlank c = false) : c ≠ '\n' := by
  rintro rfl
  cases solid

@[simp]
theorem lines_nil : lines [] = [] := rfl

theorem lines_carriageReturn_lineFeed (text : List Char) :
    lines ('\r' :: '\n' :: text) = [] :: lines text := by
  rw [lines]

/-- A break ends a line, unless it is a carriage return that a line feed completes. -/
theorem lines_cons_of_break (isBreak : isLineBreak c = true)
    (single : ∀ rest, c = '\r' → text ≠ '\n' :: rest) : lines (c :: text) = [] :: lines text := by
  rw [lines]
  · rw [if_pos isBreak]
  · exact fun rest isReturn => single rest isReturn

/-- Any other character is the first one of the first line. -/
theorem lines_cons_of_not_break (letter : isLineBreak c = false) :
    lines (c :: text) = (c :: (lines text).headD []) :: (lines text).tail := by
  rw [lines]
  · rw [if_neg (by simp [letter])]
    cases lines text <;> rfl
  · rintro rest rfl
    cases letter

theorem lines_ne_nil (nonempty : text ≠ []) : lines text ≠ [] := by
  fun_cases lines text with
  | case1 => exact absurd rfl nonempty
  | case2 | case3 | case4 | case5 => simp_all

theorem headD_lines_cons_tail (nonempty : text ≠ []) :
    (lines text).headD [] :: (lines text).tail = lines text := by
  obtain ⟨first, rest, isLines⟩ := List.exists_cons_of_ne_nil (lines_ne_nil nonempty)
  rw [isLines]
  rfl

theorem lines_unbroken_append (unbroken : IsUnbroken part) (nonempty : part ≠ []) :
    lines (part ++ text) = (part ++ (lines text).headD []) :: (lines text).tail := by
  induction part with
  | nil => exact absurd rfl nonempty
  | cons c part ih =>
    have letter := unbroken c List.mem_cons_self
    rw [List.cons_append, lines_cons_of_not_break letter]
    cases part with
    | nil => rfl
    | cons d part =>
      rw [ih (fun e inside => unbroken e (List.mem_cons_of_mem _ inside)) (by simp)]
      rfl

theorem lines_unbroken (unbroken : IsUnbroken line) (nonempty : line ≠ []) :
    lines line = [line] := by
  have single : lines (line ++ []) = (line ++ (lines []).headD []) :: (lines []).tail :=
    lines_unbroken_append unbroken nonempty
  simpa using single

theorem lines_append_lineFeed (unbroken : IsUnbroken line) :
    lines (line ++ '\n' :: text) = line :: lines text := by
  have feed : lines ('\n' :: text) = [] :: lines text :=
    lines_cons_of_break rfl fun rest isReturn => by cases isReturn
  by_cases empty : line = []
  · rw [empty, List.nil_append, feed]
  · rw [lines_unbroken_append unbroken empty, feed]
    simp

/-- What every line keeps if it holds of no text with a break in it. -/
theorem lines_induction {motive : List Char → Prop} (empty : motive [])
    (feed : ∀ text, motive text → motive ('\r' :: '\n' :: text))
    (ofBreak : ∀ c text, isLineBreak c = true → (∀ rest, c = '\r' → text ≠ '\n' :: rest) →
      motive text → motive (c :: text))
    (letter : ∀ c text, isLineBreak c = false → motive text → motive (c :: text))
    (text : List Char) : motive text := by
  fun_induction lines text with
  | case1 => exact empty
  | case2 text ih => exact feed text ih
  | case3 c text other isBreak ih => exact ofBreak c text isBreak other ih
  | case4 c text other isLetter isNil ih | case5 c text other isLetter line more isLines ih =>
    exact letter c text (by simpa using isLetter) ih

/-- A property of all lines of a text, by the way the lines are built up. -/
theorem mem_lines (inside : line ∈ lines text) : IsUnbroken line ∧ line ⊆ text := by
  induction text using lines_induction generalizing line with
  | empty => cases inside
  | feed text ih =>
    rw [lines_carriageReturn_lineFeed] at inside
    rcases List.mem_cons.mp inside with rfl | inside
    · exact ⟨by simp, by simp⟩
    · exact ⟨(ih inside).1, fun c isPart => by simp [(ih inside).2 isPart]⟩
  | ofBreak c text isBreak single ih =>
    rw [lines_cons_of_break isBreak single] at inside
    rcases List.mem_cons.mp inside with rfl | inside
    · exact ⟨by simp, by simp⟩
    · exact ⟨(ih inside).1, fun c isPart => by simp [(ih inside).2 isPart]⟩
  | letter c text isLetter ih =>
    rw [lines_cons_of_not_break isLetter] at inside
    rcases List.mem_cons.mp inside with rfl | inside
    · cases isLines : lines text with
      | nil => simp [isLetter]
      | cons first more =>
        obtain ⟨unbroken, within⟩ := ih (isLines ▸ List.mem_cons_self)
        refine ⟨?_, List.cons_subset_cons c within⟩
        simpa [isLetter] using unbroken
    · have known := ih (List.mem_of_mem_tail inside)
      exact ⟨known.1, fun c isPart => by simp [known.2 isPart]⟩

theorem isBlankText_of_mem_lines (blank : isBlankText text = true) (inside : line ∈ lines text) :
    isBlankText line = true :=
  isBlankText_iff.mpr fun c isPart =>
    isBlankText_iff.mp blank c ((mem_lines inside).2 isPart)

/-! ## Joined lines -/

@[simp]
theorem joinLines_nil : joinLines [] = [] := rfl

@[simp]
theorem joinLines_singleton (line : List Char) : joinLines [line] = line :=
  List.intercalate_singleton

theorem joinLines_cons_cons (line next : List Char) (rest : List (List Char)) :
    joinLines (line :: next :: rest) = line ++ '\n' :: joinLines (next :: rest) := by
  simp [joinLines, List.intercalate_cons_cons]

/-- Joined lines are read back, except for an empty one at the end, which no break ends. -/
theorem lines_joinLines {pieces : List (List Char)} (unbroken : ∀ line ∈ pieces, IsUnbroken line) :
    lines (joinLines pieces) = if pieces.getLast? = some [] then pieces.dropLast else pieces := by
  induction pieces with
  | nil => rfl
  | cons line rest ih =>
    cases rest with
    | nil =>
      by_cases empty : line = []
      · simp [empty]
      · simp [empty, lines_unbroken (unbroken line List.mem_cons_self) empty]
    | cons next rest =>
      rw [joinLines_cons_cons, lines_append_lineFeed (unbroken line List.mem_cons_self),
        ih fun piece inside => unbroken piece (List.mem_cons_of_mem _ inside)]
      simp only [List.getLast?_cons_cons]
      split <;> rfl

theorem separatedBy_append_cons {separator : Char} {piece rest : List Char}
    (free : separator ∉ piece) :
    separatedBy separator (piece ++ separator :: rest) = piece :: separatedBy separator rest := by
  induction piece with
  | nil => simp [separatedBy]
  | cons c piece ih =>
    have other : c ≠ separator := fun same => free (by simp [same])
    rw [List.cons_append, separatedBy, if_neg other, ih fun inside => free (by simp [inside])]

theorem separatedBy_of_not_mem {separator : Char} {piece : List Char} (free : separator ∉ piece) :
    separatedBy separator piece = [piece] := by
  induction piece with
  | nil => rfl
  | cons c piece ih =>
    have other : c ≠ separator := fun same => free (by simp [same])
    rw [separatedBy, if_neg other, ih fun inside => free (by simp [inside])]

/-- Joined pieces are told apart again if none of them holds a line feed. -/
theorem segments_joinLines {pieces : List (List Char)} (nonempty : pieces ≠ [])
    (free : ∀ piece ∈ pieces, '\n' ∉ piece) : segments (joinLines pieces) = pieces := by
  induction pieces with
  | nil => exact absurd rfl nonempty
  | cons piece rest ih =>
    have first := free piece List.mem_cons_self
    cases rest with
    | nil => simpa [segments] using separatedBy_of_not_mem first
    | cons next rest =>
      rw [joinLines_cons_cons, segments, separatedBy_append_cons first]
      congr 1
      exact ih (by simp) fun piece inside => free piece (List.mem_cons_of_mem _ inside)

theorem IsUnbroken.lineFeed_not_mem (unbroken : IsUnbroken line) : '\n' ∉ line :=
  fun inside => by cases unbroken _ inside

/-! ## Parts of a line -/

theorem not_prefix_cons_of_break (unbroken : IsUnbroken part) (nonempty : part ≠ [])
    (isBreak : isLineBreak c = true) : ¬ part <+: c :: text := by
  cases part with
  | nil => exact absurd rfl nonempty
  | cons d part =>
    rw [List.cons_prefix_cons]
    rintro ⟨rfl, -⟩
    simp [unbroken d List.mem_cons_self] at isBreak

theorem prefix_headD_lines (unbroken : IsUnbroken part) :
    part <+: (lines text).headD [] ↔ part <+: text := by
  by_cases empty : part = []
  · simp [empty]
  induction text using lines_induction generalizing part with
  | empty => simp
  | feed text ih =>
    rw [lines_carriageReturn_lineFeed]
    have noReturn : ¬ part <+: '\r' :: '\n' :: text := not_prefix_cons_of_break unbroken empty rfl
    simp [empty, noReturn]
  | ofBreak d text isBreak single ih =>
    rw [lines_cons_of_break isBreak single]
    simp [empty, not_prefix_cons_of_break unbroken empty isBreak]
  | letter d text isLetter ih =>
    rw [lines_cons_of_not_break isLetter]
    cases part with
    | nil => simp
    | cons c part =>
      simp only [List.headD_cons, List.cons_prefix_cons]
      by_cases last : part = []
      · simp [last]
      · rw [ih (fun e inside => unbroken e (List.mem_cons_of_mem _ inside)) last]

/-- A part without breaks stands in a text just if it stands in one of its lines. -/
theorem exists_line_infix_iff (unbroken : IsUnbroken part) (nonempty : part ≠ []) :
    (∃ line ∈ lines text, part <:+: line) ↔ part <:+: text := by
  have notEmpty : ¬ part <:+: [] := by simpa using nonempty
  induction text using lines_induction with
  | empty => simp [notEmpty]
  | feed text ih =>
    have noReturn (rest : List Char) : ¬ part <+: '\r' :: rest :=
      not_prefix_cons_of_break unbroken nonempty rfl
    have noFeed (rest : List Char) : ¬ part <+: '\n' :: rest :=
      not_prefix_cons_of_break unbroken nonempty rfl
    rw [lines_carriageReturn_lineFeed, List.infix_cons_iff, List.infix_cons_iff]
    simp [notEmpty, noReturn, noFeed, ih]
  | ofBreak c text isBreak single ih =>
    have noBreak : ¬ part <+: c :: text := not_prefix_cons_of_break unbroken nonempty isBreak
    rw [lines_cons_of_break isBreak single, List.infix_cons_iff]
    simp [notEmpty, noBreak, ih]
  | letter c text isLetter ih =>
    have ofFirst : part <+: (lines (c :: text)).headD [] ↔ part <+: c :: text :=
      prefix_headD_lines unbroken
    rw [lines_cons_of_not_break isLetter] at ofFirst ⊢
    rw [List.infix_cons_iff, ← ofFirst]
    refine Iff.trans ?_ (or_congr_right ih)
    cases lines text with
    | nil => simp [List.infix_cons_iff, notEmpty]
    | cons first more => simp [List.infix_cons_iff, or_assoc]

/-! ## Blank ends -/

/-- A character that is not blank does not complete a carriage return. -/
theorem append_ne_lineFeed {d : Char} (single : ∀ rest, d = '\r' → text ≠ '\n' :: rest)
    (solid : isBlank c = false) (after : List Char) :
    ∀ rest, d = '\r' → text ++ c :: after ≠ '\n' :: rest := by
  intro rest isReturn same
  cases text with
  | nil => exact ne_lineFeed_of_not_isBlank solid (by simpa using congrArg List.head? same)
  | cons e text =>
    rw [List.cons_append, List.cons.injEq] at same
    exact single text isReturn (by rw [same.1])

/-- Blanks in front of a text that begins with another character make blank lines and blanks at the
    start of its first line. -/
theorem lines_blank_append {before : List Char} (blank : isBlankText before = true)
    (solid : isBlank c = false) :
    ∃ above margin, (∀ line ∈ above, isBlankText line = true) ∧ isBlankText margin = true ∧
      lines (before ++ c :: text) =
        above ++ (margin ++ (lines (c :: text)).headD []) :: (lines (c :: text)).tail := by
  induction before using lines_induction with
  | empty => exact ⟨[], [], by simp, rfl, (headD_lines_cons_tail (by simp)).symm⟩
  | feed before ih =>
    obtain ⟨above, margin, blankAbove, blankMargin, isLines⟩ := ih (by simp_all [isBlankText])
    refine ⟨[] :: above, margin, by simpa using blankAbove, blankMargin, ?_⟩
    rw [List.cons_append, List.cons_append, lines_carriageReturn_lineFeed, isLines]
    rfl
  | ofBreak d before isBreak single ih =>
    obtain ⟨above, margin, blankAbove, blankMargin, isLines⟩ := ih (by simp_all [isBlankText])
    refine ⟨[] :: above, margin, by simpa using blankAbove, blankMargin, ?_⟩
    rw [List.cons_append, lines_cons_of_break isBreak (append_ne_lineFeed single solid text),
      isLines]
    rfl
  | letter d before isLetter ih =>
    obtain ⟨head, rest⟩ : isBlank d = true ∧ isBlankText before = true := by
      simpa [isBlankText] using blank
    obtain ⟨above, margin, blankAbove, blankMargin, isLines⟩ := ih rest
    rw [List.cons_append, lines_cons_of_not_break isLetter, isLines]
    cases above with
    | nil => exact ⟨[], d :: margin, by simp, by simpa [isBlankText, head] using blankMargin, rfl⟩
    | cons first above =>
      obtain ⟨blankFirst, blankAbove⟩ := List.forall_mem_cons.mp blankAbove
      refine ⟨(d :: first) :: above, margin, List.forall_mem_cons.mpr ⟨?_, blankAbove⟩,
        blankMargin, rfl⟩
      simpa [isBlankText, head] using blankFirst

/-- Blanks after a text that ends with another character make blanks at the end of its last line and
    blank lines. -/
theorem lines_append_blank {after : List Char} (blank : isBlankText after = true)
    (solid : isBlank c = false) :
    ∃ above last margin below, isBlankText margin = true ∧
      (∀ line ∈ below, isBlankText line = true) ∧ lines (text ++ [c]) = above ++ [last] ∧
      lines (text ++ c :: after) = above ++ (last ++ margin) :: below := by
  have letter := isLineBreak_of_not_isBlank solid
  induction text using lines_induction with
  | empty =>
    refine ⟨[], [c], (lines after).headD [], (lines after).tail, ?_, ?_, ?_, ?_⟩
    · by_cases empty : after = []
      · rw [empty]
        rfl
      · apply isBlankText_of_mem_lines blank
        rw [← headD_lines_cons_tail empty]
        exact List.mem_cons_self
    · exact fun line inside => isBlankText_of_mem_lines blank (List.mem_of_mem_tail inside)
    · exact lines_cons_of_not_break letter
    · exact lines_cons_of_not_break letter
  | feed text ih =>
    obtain ⟨above, last, margin, below, blankMargin, blankBelow, isLines, isLonger⟩ := ih
    refine ⟨[] :: above, last, margin, below, blankMargin, blankBelow, ?_, ?_⟩
    · simp [lines_carriageReturn_lineFeed, isLines]
    · simp [lines_carriageReturn_lineFeed, isLonger]
  | ofBreak d text isBreak single ih =>
    obtain ⟨above, last, margin, below, blankMargin, blankBelow, isLines, isLonger⟩ := ih
    have singleStill := append_ne_lineFeed single solid
    refine ⟨[] :: above, last, margin, below, blankMargin, blankBelow, ?_, ?_⟩
    · rw [List.cons_append, lines_cons_of_break isBreak (singleStill []), isLines, List.cons_append]
    · rw [List.cons_append, lines_cons_of_break isBreak (singleStill after), isLonger,
        List.cons_append]
  | letter d text isLetter ih =>
    obtain ⟨above, last, margin, below, blankMargin, blankBelow, isLines, isLonger⟩ := ih
    rw [List.cons_append, List.cons_append, lines_cons_of_not_break isLetter, isLines,
      lines_cons_of_not_break isLetter, isLonger]
    cases above with
    | nil => exact ⟨[], d :: last, margin, below, blankMargin, blankBelow, rfl, rfl⟩
    | cons first above =>
      exact ⟨(d :: first) :: above, last, margin, below, blankMargin, blankBelow, rfl, rfl⟩

end HeaderBindings.Text
