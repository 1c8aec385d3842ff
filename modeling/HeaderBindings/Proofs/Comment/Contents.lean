import HeaderBindings.Proofs.Comment.NormalForm

/-!
# What an unrolled comment keeps

Unrolling takes markers and blanks out of a comment and nothing else. The characters that are not
blank stand in the unrolled comment in the order of the source, except for those of its markers: the
outer ones, and one at the start of each line.
-/

namespace HeaderBindings

namespace Text

variable {c : Char} {text line part : List Char}

/-- The characters of a text that are not blank. -/
def solidChars (text : List Char) : List Char :=
  text.filter fun c => !isBlank c

@[simp]
theorem solidChars_nil : solidChars [] = [] := rfl

@[simp]
theorem solidChars_append (part text : List Char) :
    solidChars (part ++ text) = solidChars part ++ solidChars text :=
  List.filter_append _ _

theorem solidChars_cons_of_blank (blank : isBlank c = true) :
    solidChars (c :: text) = solidChars text :=
  List.filter_cons_of_neg (by simp [blank])

theorem solidChars_cons_of_not_blank (solid : isBlank c = false) :
    solidChars (c :: text) = c :: solidChars text :=
  List.filter_cons_of_pos (by simp [solid])

theorem solidChars_of_blank (blank : isBlankText text = true) : solidChars text = [] := by
  rw [solidChars, List.filter_eq_nil_iff]
  intro c inside
  simp [isBlankText_iff.mp blank c inside]

@[simp]
theorem solidChars_trimStart (text : List Char) :
    solidChars (trimStart text) = solidChars text := by
  have parts : text.takeWhile isBlank ++ trimStart text = text := List.takeWhile_append_dropWhile
  conv_rhs => rw [← parts, solidChars_append, solidChars_of_blank List.all_takeWhile]
  rfl

@[simp]
theorem solidChars_trimEnd (text : List Char) :
    solidChars (trimEnd text) = solidChars text := by
  have parts : trimEnd text ++ text.rtakeWhile isBlank = text :=
    List.rdropWhile_append_rtakeWhile
  have blank : isBlankText (text.rtakeWhile isBlank) = true :=
    isBlankText_iff.mpr fun _ => List.mem_rtakeWhile_imp
  conv_rhs => rw [← parts, solidChars_append, solidChars_of_blank blank, List.append_nil]

@[simp]
theorem solidChars_trim (text : List Char) : solidChars (trim text) = solidChars text := by
  rw [trim, solidChars_trimEnd, solidChars_trimStart]

/-- What ends a line is blank, so the lines of a text hold all its other characters. -/
theorem flatMap_solidChars_lines (text : List Char) :
    (lines text).flatMap solidChars = solidChars text := by
  induction text using lines_induction with
  | empty => rfl
  | feed text ih =>
    rw [lines_carriageReturn_lineFeed, solidChars_cons_of_blank rfl, solidChars_cons_of_blank rfl]
    exact ih
  | ofBreak c text isBreak single ih =>
    rw [lines_cons_of_break isBreak single,
      solidChars_cons_of_blank (isBlank_of_isLineBreak isBreak)]
    exact ih
  | letter c text isLetter ih =>
    have ofRest : solidChars ((lines text).headD []) ++ (lines text).tail.flatMap solidChars =
        solidChars text := by
      rw [← ih]
      cases lines text <;> rfl
    rw [lines_cons_of_not_break isLetter, List.flatMap_cons, ← List.singleton_append,
      solidChars_append, List.append_assoc, ofRest, ← solidChars_append, List.singleton_append]

theorem solidChars_joinLines (pieces : List (List Char)) :
    solidChars (joinLines pieces) = pieces.flatMap solidChars := by
  induction pieces with
  | nil => rfl
  | cons piece rest ih =>
    cases rest with
    | nil => simp
    | cons next rest =>
      rw [joinLines_cons_cons, solidChars_append, solidChars_cons_of_blank rfl, ih]
      rfl

theorem flatMap_solidChars_of_blank {body : List (List Char)}
    (blank : ∀ line ∈ body, isBlankText line = true) : body.flatMap solidChars = [] :=
  List.flatMap_eq_nil_iff.mpr fun line inside => solidChars_of_blank (blank line inside)

end Text

namespace Comment

open Text

variable {cut : Nat} {line source : List Char}

/-! ## Reflowing -/

theorem Outdents.solidChars_eq (outdents : Outdents cut source line) :
    solidChars line = solidChars source := by
  cases outdents with
  | blank blank => rw [solidChars_of_blank blank, solidChars_nil]
  | text length blank => rw [solidChars_append, solidChars_of_blank blank, List.nil_append]

theorem flatMap_solidChars_reflow (body : List (List Char)) :
    (reflow body).flatMap solidChars = body.flatMap solidChars := by
  cases body with
  | nil => rfl
  | cons first rest =>
    have moved : ∀ line ∈ rest,
        solidChars (dedent (sharedIndentation rest) line) = solidChars line :=
      fun line inside => (outdents_dedent (sharedIndentation_le inside)).solidChars_eq
    rw [reflow_cons, List.flatMap_cons, solidChars_trim, List.flatMap_map, List.flatMap_cons,
      List.flatMap_congr moved]

theorem flatMap_solidChars_settle (body : List (List Char)) :
    (settle body).flatMap solidChars = body.flatMap solidChars := by
  obtain ⟨above, below, isBody, blankAbove, blankBelow⟩ := exists_dropBlankEnds_eq body
  calc (settle body).flatMap solidChars
      = (dropBlankEnds body).flatMap solidChars := flatMap_solidChars_reflow _
    _ = (above ++ dropBlankEnds body ++ below).flatMap solidChars := by
      simp [flatMap_solidChars_of_blank blankAbove, flatMap_solidChars_of_blank blankBelow]
    _ = body.flatMap solidChars := by rw [← isBody]

/-- An unrolled comment holds what its source lines hold. -/
theorem solidChars_unrollChars (source : List Char) :
    solidChars (unrollChars source) = (sourceLines source).flatMap solidChars := by
  rw [unrollChars_eq, solidChars_joinLines, flatMap_solidChars_settle]

/-! ## Markers -/

/-- The markers that a line of a line comment begins with, the longer ones first. -/
def lineMarkers : List (List Char) :=
  [['/', '/', '/'], ['/', '/', '!'], ['/', '/']]

/-- What a line of a line comment holds behind its marker; a line without a marker counts whole. -/
def lineContents (line : List Char) : List Char :=
  match lineMarkers.find? fun marker => marker.isPrefixOf (trimStart line) with
  | some marker => solidChars ((trimStart line).drop marker.length)
  | none => solidChars line

/-- What a line of a block comment holds behind its star; a line without a star counts whole. -/
def starredContents (line : List Char) : List Char :=
  match solidChars line with
  | '*' :: rest => rest
  | contents => contents

theorem find?_lineMarkers_eq_none {text : List Char}
    (unmarked : ∀ rest, text ≠ '/' :: '/' :: rest) :
    (lineMarkers.find? fun marker => marker.isPrefixOf text) = none := by
  rw [List.find?_eq_none]
  intro marker isMarker
  rw [List.isPrefixOf_iff_prefix]
  rintro ⟨rest, rfl⟩
  simp only [lineMarkers, List.mem_cons, List.not_mem_nil, or_false] at isMarker
  rcases isMarker with rfl | rfl | rfl
  · exact unmarked ('/' :: rest) rfl
  · exact unmarked ('!' :: rest) rfl
  · exact unmarked rest rfl

theorem solidChars_dropLineMarker (line : List Char) :
    solidChars (dropLineMarker line) = lineContents line := by
  unfold dropLineMarker lineContents
  split
  next rest isStart => simp [lineMarkers, isStart]
  next rest isStart => simp [lineMarkers, isStart]
  next rest noSlash noSign isStart =>
    have noLonger : ∀ c ∈ rest.head?, '/' ≠ c ∧ '!' ≠ c := by
      cases rest <;> simp_all [eq_comm]
    cases rest <;> simp_all [lineMarkers, List.isPrefixOf]
  next _ _ noSlashes => rw [find?_lineMarkers_eq_none noSlashes]

theorem solidChars_dropStar (line : List Char) :
    solidChars (dropStar line) = starredContents line := by
  unfold dropStar starredContents
  cases start : trimStart line with
  | nil => rw [solidChars_of_blank (trimStart_eq_nil_iff.mp start)]
  | cons c rest =>
    have contents : solidChars line = c :: solidChars rest := by
      rw [← solidChars_trimStart, start,
        solidChars_cons_of_not_blank (not_isBlank_of_trimStart start)]
    rw [contents]
    split
    next more isStart =>
      cases isStart
      exact (solidChars_cons_of_blank rfl).symm
    next more noSpace isStart =>
      cases isStart
      rfl
    next noStar noSpace =>
      have other : c ≠ '*' := by
        rintro rfl
        exact noSpace rest rfl
      simp [contents, other]

/-! ## Unrolled comments -/

/-- What a cleaned line of a comment holds, by the markers of the comment. -/
def Wrapper.contents : Wrapper → List Char → List Char
  | .line => lineContents
  | .block => starredContents
  | .bare => solidChars

theorem solidChars_clean (wrapper : Wrapper) (line : List Char) :
    solidChars (wrapper.clean line) = wrapper.contents line := by
  rw [Wrapper.clean, solidChars_trimEnd]
  cases wrapper with
  | line => rw [← dropLineMarker_eq, solidChars_dropLineMarker, Wrapper.contents]
  | block => rw [← dropStar_eq, solidChars_dropStar, Wrapper.contents]
  | bare => rfl

/-- Trimming a text before it is broken into lines changes nothing of what its lines hold. -/
theorem flatMap_contents_lines_trim (wrapper : Wrapper) (text : List Char) :
    (lines (trim text)).flatMap wrapper.contents = (lines text).flatMap wrapper.contents := by
  have held (text : List Char) : (settle ((lines text).map wrapper.clean)).flatMap solidChars =
      (lines text).flatMap wrapper.contents := by
    rw [flatMap_solidChars_settle, List.flatMap_map]
    simp only [solidChars_clean]
  rw [← held, ← held, settle_lines_trim]

theorem solidChars_unrollChars_eq (source : List Char) :
    solidChars (unrollChars source) =
      (lines (innerText source)).flatMap (wrapperOf (trim source)).contents := by
  rw [solidChars_unrollChars, sourceLines, List.flatMap_map]
  simp only [solidChars_clean]

theorem wrapperOf_of_slashes {text : List Char} (isLine : ['/', '/'] <+: text) :
    wrapperOf text = .line := by
  rw [wrapperOf, if_pos (List.isPrefixOf_iff_prefix.mpr isLine)]

/-- A text that is neither a line comment nor a block comment has no markers. -/
theorem wrapperOf_of_bare {text : List Char} (notLine : ¬ ['/', '/'] <+: text)
    (notBlock : ∀ body, text ≠ blocked body) : wrapperOf text = .bare := by
  unfold wrapperOf
  rw [if_neg (by simpa using notLine), if_neg]
  simp only [Bool.and_eq_true, List.isPrefixOf_iff_prefix, List.isSuffixOf_iff_suffix,
    decide_eq_true_eq]
  rintro ⟨⟨⟨rest, rfl⟩, isSuffix⟩, long⟩
  have closed : ['*', '/'] <:+ rest := by
    apply List.suffix_of_suffix_length_le isSuffix (List.suffix_append _ _)
    simp only [List.length_append, List.length_cons, List.length_nil] at long ⊢
    omega
  obtain ⟨body, rfl⟩ := closed
  exact notBlock body (by simp [blocked])

/-- Every character that is not blank and belongs to no marker is kept, and in the order of the
    source. -/
theorem unroll_keeps (source : String) :
    (['/', '/'] <+: trim source.toList →
      solidChars (unroll source).toList = (lines (trim source.toList)).flatMap lineContents) ∧
    (∀ body, trim source.toList = blocked body →
      solidChars (unroll source).toList = (lines (dropBlockSign body)).flatMap starredContents) ∧
    (¬ ['/', '/'] <+: trim source.toList → (∀ body, trim source.toList ≠ blocked body) →
      solidChars (unroll source).toList = solidChars (trim source.toList)) := by
  rw [unroll, String.toList_ofList, solidChars_unrollChars_eq, innerText]
  refine ⟨fun isLine => ?line, fun body isBlock => ?block, fun notLine notBlock => ?bare⟩
  case line =>
    rw [wrapperOf_of_slashes isLine]
    exact (flatMap_contents_lines_trim .line source.toList).symm
  case block =>
    rw [isBlock, wrapperOf_blocked]
    simp only [blockBody_blocked, Wrapper.contents]
  case bare =>
    rw [wrapperOf_of_bare notLine notBlock, solidChars_trim]
    exact flatMap_solidChars_lines source.toList

theorem unroll_keeps_letters :
    (['/', '/'] <+: trim " /// a //b\n  c".toList ∧
      solidChars (unroll " /// a //b\n  c").toList = "a//bc".toList) ∧
    (trim "/** *a\n * *b */".toList = blocked "* *a\n * *b ".toList ∧
      solidChars (unroll "/** *a\n * *b */").toList = "a*b".toList) ∧
    ((∀ body, trim "/*/ a".toList ≠ blocked body) ∧
      solidChars (unroll "/*/ a").toList = "/*/a".toList) := by
  have isLine : ['/', '/'] <+: trim " /// a //b\n  c".toList := by decide
  have isBlock : trim "/** *a\n * *b */".toList = blocked "* *a\n * *b ".toList := by decide
  have notBlock : ∀ body, trim "/*/ a".toList ≠ blocked body := by
    intro body same
    have wrapped := wrapperOf_blocked body
    rw [← same] at wrapped
    exact absurd wrapped (by decide)
  refine ⟨⟨isLine, ?_⟩, ⟨isBlock, ?_⟩, notBlock, ?_⟩
  · rw [(unroll_keeps _).1 isLine]
    decide
  · rw [(unroll_keeps _).2.1 _ isBlock]
    decide
  · rw [(unroll_keeps _).2.2 (by decide) notBlock]
    decide

end Comment

end HeaderBindings
