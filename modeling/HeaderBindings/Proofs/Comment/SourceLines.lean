import HeaderBindings.Comment
import HeaderBindings.Proofs.Text.Lines

/-!
# Source lines of a comment

A comment is unrolled in passes: its text is trimmed, broken into lines, joined and broken again.
Its *source lines* are the lines of the text between its markers as they stand in the source, each
without its own marker and its trailing blanks. Unrolling is reflowing the source lines: none of the
passes in between changes what is left of them.
-/

namespace HeaderBindings.Comment

open Text

variable {c : Char} {line text : List Char} {wrapper : Wrapper}

/-! ## Markers of a line -/

/-- The rest of a line comment without the sign of a documentation comment. -/
def dropDocSign : List Char → List Char
  | '/' :: rest => rest
  | '!' :: rest => rest
  | rest => rest

def dropSpace : List Char → List Char
  | ' ' :: rest => rest
  | rest => rest

/-- What follows the marker of a line that begins with one. -/
def Wrapper.afterMarker? : Wrapper → List Char → Option (List Char)
  | .line, '/' :: '/' :: rest => some (dropDocSign rest)
  | .block, '*' :: rest => some (dropSpace rest)
  | _, _ => none

/-- A line of a comment without its marker; a line that has none is left as it is. -/
def Wrapper.unmark (wrapper : Wrapper) (line : List Char) : List Char :=
  (wrapper.afterMarker? (trimStart line)).getD line

/-- A line of a comment without its marker and its trailing blanks. -/
def Wrapper.clean (wrapper : Wrapper) (line : List Char) : List Char :=
  trimEnd (wrapper.unmark line)

theorem dropLineMarker_eq (line : List Char) : dropLineMarker line = Wrapper.line.unmark line := by
  unfold dropLineMarker Wrapper.unmark
  split <;> simp_all [Wrapper.afterMarker?, dropDocSign]

theorem dropStar_eq (line : List Char) : dropStar line = Wrapper.block.unmark line := by
  unfold dropStar Wrapper.unmark
  split <;> simp_all [Wrapper.afterMarker?, dropSpace]

theorem dropDocSign_trimEnd (text : List Char) :
    dropDocSign (trimEnd text) = trimEnd (dropDocSign text) := by
  fun_cases dropDocSign text with
  | case1 rest => rw [trimEnd_cons_of_not_blank rfl, dropDocSign]
  | case2 rest => rw [trimEnd_cons_of_not_blank rfl, dropDocSign]
  | case3 text noSlash noMark =>
    cases text with
    | nil => rfl
    | cons c rest =>
      rw [trimEnd_cons]
      split <;> simp_all [dropDocSign]

theorem dropSpace_trimEnd (text : List Char) :
    dropSpace (trimEnd text) = trimEnd (dropSpace text) := by
  fun_cases dropSpace text with
  | case1 rest =>
    rw [trimEnd_cons]
    split
    next blank =>
      have blankRest : isBlankText rest = true := by simp_all [isBlankText]
      rw [trimEnd_eq_nil_iff.mpr blankRest, dropSpace]
      simp
    next => rw [dropSpace]
  | case2 text noSpace =>
    cases text with
    | nil => rfl
    | cons c rest =>
      rw [trimEnd_cons]
      split <;> simp_all [dropSpace]

/-- The marker of a line does not depend on its trailing blanks. -/
theorem Wrapper.afterMarker?_trimEnd (wrapper : Wrapper) (text : List Char) :
    wrapper.afterMarker? (trimEnd text) = (wrapper.afterMarker? text).map trimEnd := by
  fun_cases Wrapper.afterMarker? wrapper text with
  | case1 rest =>
    rw [trimEnd_cons_of_not_blank rfl, trimEnd_cons_of_not_blank rfl]
    simp [Wrapper.afterMarker?, dropDocSign_trimEnd]
  | case2 rest =>
    rw [trimEnd_cons_of_not_blank rfl]
    simp [Wrapper.afterMarker?, dropSpace_trimEnd]
  | case3 _ _ noSlashes noStar =>
    rw [Option.map_none, Wrapper.afterMarker?]
    · rintro rest rfl isStart
      obtain ⟨after, isText⟩ := trimEnd_isPrefix text
      rw [isStart] at isText
      exact noSlashes (rest ++ after) rfl isText.symm
    · rintro rest rfl isStart
      obtain ⟨after, isText⟩ := trimEnd_isPrefix text
      rw [isStart] at isText
      exact noStar (rest ++ after) rfl isText.symm

theorem Wrapper.unmark_of_blank (wrapper : Wrapper) (blank : isBlankText line = true) :
    wrapper.unmark line = line := by
  have noMarker : wrapper.afterMarker? [] = none := by cases wrapper <;> rfl
  rw [unmark, trimStart_eq_nil_iff.mpr blank, noMarker, Option.getD_none]

theorem Wrapper.unmark_trimEnd (wrapper : Wrapper) (line : List Char) :
    wrapper.unmark (trimEnd line) = trimEnd (wrapper.unmark line) := by
  rw [unmark, trimStart_trimEnd, wrapper.afterMarker?_trimEnd, unmark]
  cases wrapper.afterMarker? (trimStart line) <;> rfl

theorem Wrapper.clean_of_blank (wrapper : Wrapper) (blank : isBlankText line = true) :
    isBlankText (wrapper.clean line) = true := by
  rw [clean, wrapper.unmark_of_blank blank, trimEnd_eq_nil_iff.mpr blank]
  rfl

/-- Blanks after a line do not count. -/
theorem Wrapper.clean_append_of_blank (wrapper : Wrapper) {margin : List Char}
    (blank : isBlankText margin = true) : wrapper.clean (line ++ margin) = wrapper.clean line := by
  rw [clean, ← unmark_trimEnd, trimEnd_append_of_blank blank, unmark_trimEnd, clean]

/-- Blanks in front of a line count only as long as the line is not trimmed. -/
theorem Wrapper.trim_clean_append (wrapper : Wrapper) {margin : List Char}
    (blank : isBlankText margin = true) :
    trim (wrapper.clean (margin ++ line)) = trim (wrapper.clean line) := by
  rw [clean, clean, trim_trimEnd, trim_trimEnd, unmark, unmark, trimStart_append_of_blank blank]
  cases wrapper.afterMarker? (trimStart line) with
  | none => exact trim_append_of_blank blank
  | some rest => rfl

theorem Wrapper.clean_trimEnd (wrapper : Wrapper) (line : List Char) :
    trimEnd (wrapper.clean line) = wrapper.clean line :=
  trimEnd_idem _

theorem Wrapper.clean_bare (line : List Char) : Wrapper.bare.clean line = trimEnd line := rfl

theorem Wrapper.clean_eq_unmark (wrapper : Wrapper) (line : List Char) :
    wrapper.clean line = wrapper.unmark (trimEnd line) :=
  (wrapper.unmark_trimEnd line).symm

/-! ## Reflowing lines between blank ones -/

theorem reflow_cons (first : List Char) (rest : List (List Char)) :
    reflow (first :: rest) = trim first :: rest.map (dedent (sharedIndentation rest)) := rfl

theorem dropBlankEnds_of_blank {body : List (List Char)}
    (blank : ∀ line ∈ body, isBlankText line = true) : dropBlankEnds body = [] := by
  rw [dropBlankEnds, List.dropWhile_eq_nil_iff.mpr blank]
  rfl

theorem dropBlankEnds_blank_append {above body : List (List Char)}
    (blank : ∀ line ∈ above, isBlankText line = true) :
    dropBlankEnds (above ++ body) = dropBlankEnds body := by
  rw [dropBlankEnds, List.dropWhile_append_of_pos blank, dropBlankEnds]

theorem dropBlankEnds_append_blank {body below : List (List Char)}
    (blank : ∀ line ∈ below, isBlankText line = true) :
    dropBlankEnds (body ++ below) = dropBlankEnds body := by
  unfold dropBlankEnds
  rw [List.dropWhile_append]
  split
  next empty =>
    rw [List.dropWhile_eq_nil_iff.mpr blank, List.isEmpty_iff.mp empty]
  next =>
    rw [List.reverse_append, List.dropWhile_append_of_pos]
    simpa using blank

theorem dropBlankEnds_cons_of_not_blank {first : List Char} {rest : List (List Char)}
    (solid : isBlankText first = false) :
    dropBlankEnds (first :: rest) = first :: rest.rdropWhile isBlankText := by
  unfold dropBlankEnds
  rw [List.dropWhile_cons_of_neg (by simp [solid]), List.reverse_cons, List.dropWhile_append]
  split
  next empty =>
    have blank : rest.rdropWhile isBlankText = [] := by
      simpa [List.rdropWhile] using List.isEmpty_iff.mp empty
    rw [blank]
    simp [solid]
  next => simp [List.rdropWhile]

/-- The lines that are left when blank ones at both ends are gone, and what they become. -/
def settle (body : List (List Char)) : List (List Char) :=
  reflow (dropBlankEnds body)

/-- Of the first line only its trimmed form counts. -/
theorem settle_cons_congr {first first' : List Char} (rest : List (List Char))
    (same : trim first = trim first') : settle (first :: rest) = settle (first' :: rest) := by
  have blank : isBlankText first = isBlankText first' := by
    rw [← isBlankText_trim, same, isBlankText_trim]
  unfold settle
  cases solid : isBlankText first with
  | true =>
    have above : ∀ first, isBlankText first = true → dropBlankEnds (first :: rest) =
        dropBlankEnds rest := fun first blank =>
      dropBlankEnds_blank_append (show ∀ line ∈ [first], isBlankText line = true by simpa using blank)
    rw [above first solid, above first' (blank ▸ solid)]
  | false =>
    rw [dropBlankEnds_cons_of_not_blank solid, dropBlankEnds_cons_of_not_blank (blank ▸ solid),
      reflow_cons, reflow_cons, same]

theorem settle_blank_append {above : List (List Char)} (body : List (List Char))
    (blank : ∀ line ∈ above, isBlankText line = true) : settle (above ++ body) = settle body := by
  rw [settle, dropBlankEnds_blank_append blank, settle]

theorem settle_append_blank (body : List (List Char)) {below : List (List Char)}
    (blank : ∀ line ∈ below, isBlankText line = true) : settle (body ++ below) = settle body := by
  rw [settle, dropBlankEnds_append_blank blank, settle]

variable (wrapper : Wrapper)

theorem clean_blank_lines {body : List (List Char)}
    (blank : ∀ line ∈ body, isBlankText line = true) :
    ∀ line ∈ body.map wrapper.clean, isBlankText line = true := by
  rw [List.forall_mem_map]
  exact fun line inside => wrapper.clean_of_blank (blank line inside)

theorem settle_lines_blank_append {before : List Char} (blank : isBlankText before = true)
    (solid : isBlank c = false) :
    settle ((lines (before ++ c :: text)).map wrapper.clean) =
      settle ((lines (c :: text)).map wrapper.clean) := by
  obtain ⟨above, margin, blankAbove, blankMargin, isLines⟩ :=
    lines_blank_append blank solid
  rw [isLines, List.map_append, settle_blank_append _ (clean_blank_lines wrapper blankAbove),
    List.map_cons, settle_cons_congr _ (wrapper.trim_clean_append blankMargin), ← List.map_cons,
    headD_lines_cons_tail (by simp)]

theorem settle_lines_append_blank {after : List Char} (blank : isBlankText after = true)
    (solid : isBlank c = false) :
    settle ((lines (text ++ c :: after)).map wrapper.clean) =
      settle ((lines (text ++ [c])).map wrapper.clean) := by
  obtain ⟨above, last, margin, below, blankMargin, blankBelow, isLines, isLonger⟩ :=
    lines_append_blank blank solid
  have parts : (above ++ (last ++ margin) :: below).map wrapper.clean =
      (above ++ [last]).map wrapper.clean ++ below.map wrapper.clean := by
    simp [wrapper.clean_append_of_blank blankMargin]
  rw [isLonger, isLines, parts, settle_append_blank _ (clean_blank_lines wrapper blankBelow)]

/-- Trimming a text before it is broken into lines makes no difference. -/
theorem settle_lines_trim (text : List Char) :
    settle ((lines (trim text)).map wrapper.clean) = settle ((lines text).map wrapper.clean) := by
  cases solid : isBlankText text with
  | true =>
    have blankLines : ∀ line ∈ lines text, isBlankText line = true :=
      fun line => isBlankText_of_mem_lines solid
    have blank := clean_blank_lines wrapper blankLines
    rw [trim_eq_nil_iff.mpr solid, settle, settle, dropBlankEnds_of_blank blank]
    rfl
  | false =>
    obtain ⟨before, core, after, rfl, isCore, blankBefore, blankAfter,
      ⟨c, rest, isFirst, solidFirst⟩, front, d, isLast, solidLast⟩ := exists_trim_eq solid
    symm
    calc settle ((lines (before ++ core ++ after)).map wrapper.clean)
        = settle ((lines (core ++ after)).map wrapper.clean) := by
          rw [isFirst, List.append_assoc, List.cons_append,
            settle_lines_blank_append wrapper blankBefore solidFirst]
      _ = settle ((lines core).map wrapper.clean) := by
          rw [isLast, List.append_assoc, List.singleton_append,
            settle_lines_append_blank wrapper blankAfter solidLast]
      _ = settle ((lines (trim (before ++ core ++ after))).map wrapper.clean) := by rw [isCore]

/-! ## Block comments -/

/-- A text between the markers of a block comment. -/
def blocked (body : List Char) : List Char :=
  '/' :: '*' :: body ++ ['*', '/']

/-- The body of a block comment without the sign of a documentation comment. -/
def dropBlockSign : List Char → List Char
  | '*' :: rest => rest
  | '!' :: rest => rest
  | body => body

theorem trim_blocked (body : List Char) : trim (blocked body) = blocked body := by
  have ends : blocked body = '/' :: ('*' :: body ++ ['*']) ++ ['/'] := by simp [blocked]
  rw [ends, trim_eq_self rfl rfl]

theorem wrapperOf_blocked (body : List Char) : wrapperOf (blocked body) = .block := by
  have closed : ['*', '/'].isSuffixOf (blocked body) = true :=
    List.isSuffixOf_iff_suffix.mpr (List.suffix_append _ _)
  have opened : ['/', '*'].isPrefixOf (blocked body) = true := rfl
  have notLine : ['/', '/'].isPrefixOf (blocked body) = false := rfl
  have long : (blocked body).length > 3 := by simp [blocked]
  simp [wrapperOf, closed, opened, notLine, long]

theorem blockBody_blocked (body : List Char) : blockBody (blocked body) = dropBlockSign body := by
  have inside : ((blocked body).drop 2).dropLast.dropLast = body := by
    rw [blocked, List.cons_append, List.cons_append, List.drop_succ_cons, List.drop_succ_cons,
      List.drop_zero, show body ++ ['*', '/'] = body ++ ['*'] ++ ['/'] by simp,
      List.dropLast_concat, List.dropLast_concat]
  unfold blockBody
  rw [inside]
  rfl

/-! ## Source lines -/

/-- The text of a comment between its outer markers. -/
def innerText (source : List Char) : List Char :=
  match wrapperOf (trim source) with
  | .block => blockBody (trim source)
  | .line | .bare => source

/-- The lines of a comment in the source, each without its marker and its trailing blanks. -/
def sourceLines (source : List Char) : List (List Char) :=
  (lines (innerText source)).map (wrapperOf (trim source)).clean

theorem sourceLines_of_blocked {source body : List Char} (isBlock : trim source = blocked body) :
    sourceLines source = (lines (dropBlockSign body)).map Wrapper.block.clean := by
  rw [sourceLines, innerText, isBlock, wrapperOf_blocked]
  simp only [blockBody_blocked]

theorem isUnbroken_of_subset {line part : List Char} (unbroken : IsUnbroken line)
    (within : part ⊆ line) : IsUnbroken part :=
  fun c inside => unbroken c (within inside)

theorem dropDocSign_suffix (text : List Char) : dropDocSign text <:+ text := by
  fun_cases dropDocSign text <;> simp

theorem dropSpace_suffix (text : List Char) : dropSpace text <:+ text := by
  fun_cases dropSpace text <;> simp

theorem Wrapper.afterMarker?_suffix {wrapper : Wrapper} {text rest : List Char}
    (found : wrapper.afterMarker? text = some rest) : rest <:+ text := by
  fun_cases Wrapper.afterMarker? wrapper text with
  | case1 rest' =>
    cases found
    exact (dropDocSign_suffix rest').trans (List.suffix_append ['/', '/'] rest')
  | case2 rest' =>
    cases found
    exact (dropSpace_suffix rest').trans (List.suffix_cons '*' rest')
  | case3 => simp_all [Wrapper.afterMarker?]

/-- Nothing is put into a line when its marker is taken off. -/
theorem Wrapper.unmark_suffix (wrapper : Wrapper) (line : List Char) :
    wrapper.unmark line <:+ line := by
  unfold unmark
  cases found : wrapper.afterMarker? (trimStart line) with
  | none => exact List.suffix_rfl
  | some rest => exact (afterMarker?_suffix found).trans (List.dropWhile_suffix isBlank)

theorem Wrapper.clean_isInfix (wrapper : Wrapper) (line : List Char) : wrapper.clean line <:+: line :=
  (trimEnd_isPrefix _).isInfix.trans (wrapper.unmark_suffix line).isInfix

/-- Joining lines without breaks and breaking them again makes no difference. -/
theorem settle_lines_joinLines {pieces : List (List Char)}
    (unbroken : ∀ line ∈ pieces, IsUnbroken line) :
    settle ((lines (joinLines pieces)).map wrapper.clean) = settle (pieces.map wrapper.clean) := by
  rw [lines_joinLines unbroken]
  split
  next emptyLast =>
    have parts : pieces = pieces.dropLast ++ [[]] :=
      (List.dropLast_append_getLast? _ emptyLast).symm
    have blank := clean_blank_lines wrapper (show ∀ line ∈ [[]], isBlankText line = true by simp)
    conv_rhs => rw [parts, List.map_append, settle_append_blank _ blank]
  next => rfl

theorem settle_bodyLines (source : List Char) :
    settle (bodyLines (trim source)) = settle (sourceLines source) := by
  unfold bodyLines sourceLines innerText
  cases wrapperOf (trim source) with
  | bare =>
    change settle ((lines (trim (trim source))).map Wrapper.bare.clean) = _
    rw [trim_idem, settle_lines_trim]
  | block =>
    have passes : (cleanLines (blockBody (trim source))).map dropStar =
        (lines (trim (blockBody (trim source)))).map Wrapper.block.clean := by
      rw [cleanLines, List.map_map]
      apply List.map_congr_left
      intro line _
      rw [Function.comp_apply, dropStar_eq, Wrapper.clean_eq_unmark]
    simp only
    rw [passes, settle_lines_trim]
  | line =>
    have unbroken : ∀ line ∈ (lines (trim source)).map dropLineMarker, IsUnbroken line := by
      rw [List.forall_mem_map]
      intro line inside
      rw [dropLineMarker_eq]
      exact isUnbroken_of_subset (mem_lines inside).1 (Wrapper.line.unmark_suffix line).subset
    have marks : ((lines (trim source)).map dropLineMarker).map Wrapper.bare.clean =
        (lines (trim source)).map Wrapper.line.clean := by
      rw [List.map_map]
      apply List.map_congr_left
      intro line _
      rw [Function.comp_apply, dropLineMarker_eq, Wrapper.clean_bare, Wrapper.clean]
    change settle ((lines (trim (joinLines _))).map Wrapper.bare.clean) = _
    rw [settle_lines_trim, settle_lines_joinLines _ unbroken, marks, settle_lines_trim]

/-- The text of a comment is its source lines reflowed. -/
theorem unrollChars_eq (source : List Char) :
    unrollChars source = joinLines (settle (sourceLines source)) := by
  rw [unrollChars, ← settle_bodyLines, settle]

end HeaderBindings.Comment
