import HeaderBindings.Proofs.Comment.SourceLines
import Mathlib.Data.List.Forall2

/-!
# The normal form of a comment

An unrolled comment is empty or a list of lines that begins and ends with text. The lines after the
first one have moved left together, as far as the one among them with the least indentation allows.
-/

namespace HeaderBindings.Comment

open Text

variable {line : List Char} {body rest : List (List Char)} {cut : Nat}

/-! ## What dropping blank ends leaves -/

theorem exists_dropBlankEnds_eq (body : List (List Char)) :
    ∃ above below, body = above ++ dropBlankEnds body ++ below ∧
      (∀ line ∈ above, isBlankText line = true) ∧ ∀ line ∈ below, isBlankText line = true :=
  exists_dropEnds_eq isBlankText body

theorem dropBlankEnds_first_solid {first : List Char} (kept : dropBlankEnds body = first :: rest) :
    isBlankText first = false := by
  have isPrefix : dropBlankEnds body <+: body.dropWhile isBlankText :=
    List.rdropWhile_prefix isBlankText (body.dropWhile isBlankText)
  obtain ⟨below, isRest⟩ := isPrefix
  have head := List.head?_dropWhile_not isBlankText body
  rw [← isRest, kept] at head
  simpa using head

theorem dropBlankEnds_last_solid {first : List Char} (kept : dropBlankEnds body = first :: rest) :
    isBlankText (rest.getLastD first) = false := by
  have nonempty : (body.dropWhile isBlankText).rdropWhile isBlankText ≠ [] := by
    rw [show (body.dropWhile isBlankText).rdropWhile isBlankText = first :: rest from kept]
    simp
  have last := List.rdropWhile_last_not isBlankText _ nonempty
  have isLast : ((body.dropWhile isBlankText).rdropWhile isBlankText).getLast nonempty =
      rest.getLastD first := by
    rw [List.getLastD_eq_getLast?, List.getLast_eq_iff_getLast?_eq_some,
      show (body.dropWhile isBlankText).rdropWhile isBlankText = first :: rest from kept,
      List.getLast?_cons]
  rw [isLast] at last
  exact Bool.eq_false_iff.mpr last

/-! ## The common cut -/

/-- What a line of the source becomes when lines move left by a number of characters: a blank line
    becomes empty, and any other one loses that many blanks. -/
inductive Outdents (cut : Nat) : List Char → List Char → Prop
  | blank {source : List Char} (blank : isBlankText source = true) : Outdents cut source []
  | text {margin line : List Char} (length : margin.length = cut)
      (blank : isBlankText margin = true) (solid : isBlankText line = false) :
      Outdents cut (margin ++ line) line

theorem indentation_mem_widths (inside : line ∈ body) (solid : isBlankText line = false) :
    indentation line ∈ (body.filter fun line => !isBlankText line).map indentation :=
  List.mem_map_of_mem (List.mem_filter.mpr ⟨inside, by simp only [solid, Bool.not_false]⟩)

theorem sharedIndentation_le (inside : line ∈ body) (solid : isBlankText line = false) :
    sharedIndentation body ≤ indentation line :=
  List.min?_getD_le_of_mem (indentation_mem_widths inside solid)

/-- Unless all lines are blank, one of them has the shared indentation. -/
theorem exists_indentation_eq (inside : line ∈ body) (solid : isBlankText line = false) :
    ∃ least ∈ body, isBlankText least = false ∧ indentation least = sharedIndentation body := by
  have isWidth := indentation_mem_widths inside solid
  unfold sharedIndentation
  cases isLeast : ((body.filter fun line => !isBlankText line).map indentation).min? with
  | none => simp [List.min?_eq_none_iff.mp isLeast] at isWidth
  | some width =>
    obtain ⟨least, found, isIndentation⟩ := List.mem_map.mp (List.min?_mem isLeast)
    obtain ⟨inside, solid⟩ := List.mem_filter.mp found
    exact ⟨least, inside, by simpa using solid, isIndentation⟩

theorem isBlankText_take (within : cut ≤ indentation line) :
    isBlankText (line.take cut) = true := by
  have isPrefix : line.take cut <+: line.takeWhile isBlank :=
    List.prefix_of_prefix_length_le (List.take_prefix _ _) (List.takeWhile_prefix _) (by
      have := List.length_take_le cut line
      unfold indentation at within
      omega)
  exact isBlankText_iff.mpr fun c inside =>
    List.all_eq_true.mp List.all_takeWhile c (isPrefix.subset inside)

/-- A line that is not blank is still not blank when it has lost blanks. -/
theorem isBlankText_drop (within : cut ≤ indentation line) (solid : isBlankText line = false) :
    isBlankText (line.drop cut) = false := by
  rw [← List.take_append_drop cut line, isBlankText_append, isBlankText_take within,
    Bool.true_and] at solid
  exact solid

theorem indentation_le_length (line : List Char) : indentation line ≤ line.length :=
  (List.takeWhile_prefix isBlank).length_le

theorem drop_indentation (line : List Char) : line.drop (indentation line) = trimStart line := by
  have parts : line.takeWhile isBlank ++ trimStart line = line := List.takeWhile_append_dropWhile
  have dropped := congrArg (List.drop (indentation line)) parts
  exact dropped.symm.trans List.drop_left

theorem indentation_trimStart (line : List Char) : indentation (trimStart line) = 0 := by
  have head := List.head?_dropWhile_not isBlank line
  unfold indentation trimStart
  cases start : line.dropWhile isBlank with
  | nil => rfl
  | cons c rest =>
    rw [start] at head
    rw [List.takeWhile_cons_of_neg (by simpa using head)]
    rfl

theorem outdents_dedent (within : isBlankText line = false → cut ≤ indentation line) :
    Outdents cut line (dedent cut line) := by
  unfold dedent
  split
  next blank => exact .blank blank
  next solid =>
    have solid := Bool.eq_false_iff.mpr solid
    have outdented : Outdents cut (line.take cut ++ line.drop cut) (line.drop cut) :=
      .text (List.length_take_of_le ((within solid).trans (indentation_le_length line)))
        (isBlankText_take (within solid)) (isBlankText_drop (within solid) solid)
    rwa [List.take_append_drop] at outdented

theorem outdents_reflow (rest : List (List Char)) :
    List.Forall₂ (Outdents (sharedIndentation rest)) rest
      (rest.map (dedent (sharedIndentation rest))) := by
  rw [List.forall₂_map_right_iff, List.forall₂_same]
  exact fun line inside => outdents_dedent (sharedIndentation_le inside)

/-! ## Reflowed lines -/

/-- The lines of an unrolled comment: a first line, and those that continue it. -/
structure IsReflowed (first : List Char) (rest : List (List Char)) : Prop where
  unbroken : ∀ line ∈ first :: rest, IsUnbroken line
  first_solid : isBlankText first = false
  last_solid : isBlankText (rest.getLastD first) = false
  first_trimmed : trim first = first
  rest_trimmed : ∀ line ∈ rest, trimEnd line = line
  blank_empty : ∀ line ∈ rest, isBlankText line = true → line = []
  /-- The least indentation of the continuing lines is none. -/
  flush : (∃ line ∈ rest, isBlankText line = false) →
    ∃ line ∈ rest, isBlankText line = false ∧ indentation line = 0

theorem Outdents.suffix {source : List Char} (outdents : Outdents cut source line) :
    line <:+ source := by
  cases outdents with
  | blank => exact List.nil_suffix
  | text => exact List.suffix_append _ _

theorem Outdents.trimEnd_eq {source : List Char} (outdents : Outdents cut source line)
    (trimmed : trimEnd source = source) : trimEnd line = line := by
  cases outdents with
  | blank => rfl
  | text length blank solid =>
    rw [trimEnd_append, if_neg (Bool.eq_false_iff.mp solid)] at trimmed
    exact List.append_cancel_left trimmed

theorem Outdents.eq_nil_of_blank {source : List Char} (outdents : Outdents cut source line)
    (blankLine : isBlankText line = true) : line = [] := by
  cases outdents with
  | blank => rfl
  | text length blank solid => simp [solid] at blankLine

theorem Outdents.blank_iff {source : List Char} (outdents : Outdents cut source line) :
    isBlankText line = isBlankText source := by
  cases outdents with
  | blank blank => rw [blank]; rfl
  | text length blank solid => rw [isBlankText_append, blank, Bool.true_and]

theorem isBlankText_getLastD {first : List Char} {move : List Char → List Char}
    (kept : ∀ line ∈ rest, isBlankText (move line) = isBlankText line) :
    isBlankText ((rest.map move).getLastD (trim first)) = isBlankText (rest.getLastD first) := by
  rcases List.eq_nil_or_concat' rest with rfl | ⟨front, line, rfl⟩
  · exact isBlankText_trim first
  · rw [List.map_append, List.map_singleton, List.getLastD_concat, List.getLastD_concat]
    exact kept line (by simp)

theorem isReflowed_reflow {first : List Char} (kept : dropBlankEnds body = first :: rest)
    (unbroken : ∀ line ∈ body, IsUnbroken line) (trimmed : ∀ line ∈ body, trimEnd line = line) :
    IsReflowed (trim first) (rest.map (dedent (sharedIndentation rest))) := by
  obtain ⟨above, below, isBody, -, -⟩ := exists_dropBlankEnds_eq body
  have inside : ∀ line ∈ first :: rest, line ∈ body := by
    rw [isBody, kept]
    simp +contextual
  have outdents : ∀ line ∈ rest, Outdents (sharedIndentation rest) line
      (dedent (sharedIndentation rest) line) :=
    fun line inside => outdents_dedent (sharedIndentation_le inside)
  have ofRest {motive : List Char → Prop}
      (ofSource : ∀ source ∈ rest, motive (dedent (sharedIndentation rest) source)) :
      ∀ line ∈ rest.map (dedent (sharedIndentation rest)), motive line :=
    List.forall_mem_map.mpr ofSource
  refine
    { unbroken := ?unbroken, first_solid := ?first_solid, last_solid := ?last_solid,
      first_trimmed := trim_idem first, rest_trimmed := ?rest_trimmed,
      blank_empty := ?blank_empty, flush := ?flush }
  case unbroken =>
    refine List.forall_mem_cons.mpr ⟨?_, ofRest fun source isSource => ?_⟩
    · exact isUnbroken_of_subset (unbroken first (inside first (by simp))) (trim_isInfix first).subset
    · exact isUnbroken_of_subset (unbroken source (inside source (by simp [isSource])))
        (outdents source isSource).suffix.subset
  case first_solid =>
    rw [isBlankText_trim]
    exact dropBlankEnds_first_solid kept
  case last_solid =>
    rw [isBlankText_getLastD fun source isSource => (outdents source isSource).blank_iff]
    exact dropBlankEnds_last_solid kept
  case rest_trimmed =>
    exact ofRest fun source isSource =>
      (outdents source isSource).trimEnd_eq (trimmed source (inside source (by simp [isSource])))
  case blank_empty =>
    exact ofRest fun source isSource => (outdents source isSource).eq_nil_of_blank
  case flush =>
    rintro ⟨line, isLine, solid⟩
    obtain ⟨source, isSource, rfl⟩ := List.mem_map.mp isLine
    rw [(outdents source isSource).blank_iff] at solid
    obtain ⟨least, isLeast, solidLeast, width⟩ := exists_indentation_eq isSource solid
    refine ⟨_, List.mem_map_of_mem isLeast, (outdents least isLeast).blank_iff ▸ solidLeast, ?_⟩
    rw [dedent, if_neg (Bool.eq_false_iff.mp solidLeast), ← width, drop_indentation,
      indentation_trimStart]

theorem isUnbroken_of_mem_sourceLines {source : List Char} (inside : line ∈ sourceLines source) :
    IsUnbroken line := by
  obtain ⟨original, isLine, rfl⟩ := List.mem_map.mp inside
  exact isUnbroken_of_subset (mem_lines isLine).1 (Wrapper.clean_isInfix _ original).subset

theorem trimEnd_of_mem_sourceLines {source : List Char} (inside : line ∈ sourceLines source) :
    trimEnd line = line := by
  obtain ⟨original, isLine, rfl⟩ := List.mem_map.mp inside
  exact Wrapper.clean_trimEnd _ original

theorem isReflowed_of_kept {source first : List Char}
    (kept : dropBlankEnds (sourceLines source) = first :: rest) :
    IsReflowed (trim first) (rest.map (dedent (sharedIndentation rest))) :=
  isReflowed_reflow kept (fun _ => isUnbroken_of_mem_sourceLines)
    (fun _ => trimEnd_of_mem_sourceLines)

theorem IsReflowed.segments_eq {first : List Char} (reflowed : IsReflowed first rest) :
    segments (joinLines (first :: rest)) = first :: rest :=
  segments_joinLines (by simp) fun line inside => (reflowed.unbroken line inside).lineFeed_not_mem

/-! ## Unrolled comments -/

/-- The lines of a comment that unrolling keeps: none if all of them are blank, and otherwise those
    between the blank ones at both ends. -/
theorem unroll_cases (source : String) :
    (unroll source = "" ∧ ∀ line ∈ sourceLines source.toList, isBlankText line = true) ∨
    ∃ above summary details below,
      sourceLines source.toList = above ++ summary :: details ++ below ∧
      (∀ line ∈ above ++ below, isBlankText line = true) ∧
      IsReflowed (trim summary) (details.map (dedent (sharedIndentation details))) ∧
      unroll source = String.ofList (joinLines
        (trim summary :: details.map (dedent (sharedIndentation details)))) := by
  obtain ⟨above, below, isSource, blankAbove, blankBelow⟩ :=
    exists_dropBlankEnds_eq (sourceLines source.toList)
  have blankEnds : ∀ line ∈ above ++ below, isBlankText line = true :=
    List.forall_mem_append.mpr ⟨blankAbove, blankBelow⟩
  rw [unroll, unrollChars_eq, settle]
  cases kept : dropBlankEnds (sourceLines source.toList) with
  | nil =>
    left
    rw [isSource, kept, List.append_nil]
    exact ⟨rfl, blankEnds⟩
  | cons summary details =>
    right
    rw [kept] at isSource
    exact ⟨above, summary, details, below, isSource, blankEnds, isReflowed_of_kept kept, rfl⟩

/-- A comment without text is empty. Any other one is a list of lines in normal form. Its lines
    are the source lines between blank ones: the first one trimmed, and the others with one number
    of blanks less. -/
theorem unroll_normalForm (source : String) :
    (unroll source = "" ∧ ∀ line ∈ sourceLines source.toList, isBlankText line = true) ∨
    ∃ first rest, unroll source = String.ofList (joinLines (first :: rest)) ∧
      IsReflowed first rest ∧
      ∃ above summary details below cut,
        sourceLines source.toList = above ++ summary :: details ++ below ∧
        (∀ line ∈ above ++ below, isBlankText line = true) ∧
        first = trim summary ∧ List.Forall₂ (Outdents cut) details rest := by
  apply (unroll_cases source).imp_right
  rintro ⟨above, summary, details, below, isSource, blankEnds, reflowed, isText⟩
  have moved := outdents_reflow details
  exact ⟨_, _, isText, reflowed, above, summary, details, below, _, isSource, blankEnds, rfl, moved⟩

end HeaderBindings.Comment
