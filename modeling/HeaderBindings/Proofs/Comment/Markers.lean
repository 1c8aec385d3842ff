import HeaderBindings.Proofs.Comment.Rendering

/-!
# Markers inside comments

A block comment ends at its first closing marker, and block comments nest. What is written for a
comment is one comment just if none of its source lines holds a marker of block comments, because
such a marker is written as it stands. For a comment that was written as a block this is so just if
its body holds no other opening marker, and for a run of line comments if none of them holds either
marker.
-/

namespace HeaderBindings

open Text

namespace Comment

open Chunk

variable {level : Int} {cut : Nat} {first inside line margin part source : List Char}
  {details rest : List (List Char)}

/-- Whether a marker of block comments stands in a text. -/
def HoldsMarker (text : List Char) : Prop :=
  ['/', '*'] <:+: text ∨ ['*', '/'] <:+: text

/-- A text is an indentation, one comment and a line feed. Nothing but the indentation stands in
    front of any opening marker, and nothing but the line feed after any closing marker. -/
structure IsOneComment (text : List Char) : Prop where
  framed : ∃ margin body, isBlankText margin = true ∧ text = margin ++ blocked body ++ ['\n']
  opens_once : ∀ before after, text = before ++ ['/', '*'] ++ after → isBlankText before = true
  closes_once : ∀ before after, text = before ++ ['*', '/'] ++ after → after = ['\n']

theorem isSolid_opening : IsSolid ['/', '*'] := by
  simp [IsSolid, isBlank]

theorem isSolid_closing : IsSolid ['*', '/'] := by
  simp [IsSolid, isBlank]

/-! ## One comment -/

theorem not_holdsMarker_of_isOneComment
    (isOne : IsOneComment (margin ++ blocked inside ++ ['\n'])) : ¬ HoldsMarker inside := by
  rintro (⟨before, after, rfl⟩ | ⟨before, after, rfl⟩)
  · have blank := isOne.opens_once (margin ++ '/' :: '*' :: before) (after ++ ['*', '/', '\n'])
      (by simp [blocked])
    simp [isBlankText, isBlank] at blank
  · have last := isOne.closes_once (margin ++ '/' :: '*' :: before) (after ++ ['*', '/', '\n'])
      (by simp [blocked])
    simpa using congrArg List.length last

/-- An opening marker in a text that begins with blanks and another one is this other one, unless it
    stands behind it. -/
theorem eq_of_opening {before after text : List Char} (blank : isBlankText margin = true)
    (free : ¬ ['/', '*'] <:+: '*' :: text)
    (same : margin ++ '/' :: '*' :: text = before ++ ['/', '*'] ++ after) : before = margin := by
  rw [List.append_assoc, List.append_eq_append_iff] at same
  rcases same with ⟨more, rfl, isRest⟩ | ⟨more, rfl, isRest⟩
  · cases more with
    | nil => exact List.append_nil margin
    | cons c more =>
      rw [List.cons_append, List.cons.injEq] at isRest
      exact absurd ⟨more, after, by simp [isRest.2]⟩ free
  · cases more with
    | nil => exact (List.append_nil before).symm
    | cons c more =>
      obtain ⟨rfl, -⟩ := List.cons.inj isRest
      cases isBlankText_iff.mp blank '/' (by simp)

/-- A closing marker in a text that ends with another one and a line feed is this other one, unless
    it stands in front of it. -/
theorem eq_of_closing {before after text : List Char} (free : ¬ ['*', '/'] <:+: text)
    (same : text ++ ['*', '/', '\n'] = before ++ ['*', '/'] ++ after) : after = ['\n'] := by
  rw [List.append_assoc, List.append_eq_append_iff] at same
  rcases same with ⟨more, rfl, isRest⟩ | ⟨more, rfl, isRest⟩
  · cases more with
    | nil => simpa using isRest.symm
    | cons c more =>
      have short := congrArg List.length isRest
      have single : more = [] := by
        apply List.eq_nil_of_length_eq_zero
        simp at short
        omega
      simp [single] at isRest
  · match more, isRest with
    | [], isRest => simpa using isRest
    | [c], isRest => simp at isRest
    | c :: d :: more, isRest =>
      simp only [List.cons_append, List.nil_append, List.cons.injEq] at isRest
      obtain ⟨rfl, rfl, -⟩ := isRest
      exact absurd ⟨before, more, by simp⟩ free

theorem isOneComment_of_not_holdsMarker (blank : isBlankText margin = true)
    (starts : ∃ line, inside = ' ' :: line) (ends : ∃ line, inside = line ++ [' '])
    (free : ¬ HoldsMarker inside) : IsOneComment (margin ++ blocked inside ++ ['\n']) := by
  obtain ⟨noOpening, noClosing⟩ := not_or.mp free
  constructor
  case framed => exact ⟨margin, inside, blank, rfl⟩
  case opens_once =>
    intro before after same
    obtain ⟨line, rfl⟩ := ends
    have text : margin ++ blocked (line ++ [' ']) ++ ['\n'] =
        margin ++ '/' :: '*' :: (line ++ ' ' :: ['*', '/', '\n']) := by simp [blocked]
    have noOther : ¬ ['/', '*'] <:+: '*' :: (line ++ ' ' :: ['*', '/', '\n']) := by
      rw [infix_append_cons_iff isSolid_opening.1 (by decide), or_iff_left (by simp)] at noOpening
      rw [List.infix_cons_iff, infix_append_cons_iff isSolid_opening.1 (by decide)]
      simp [noOpening, List.infix_cons_iff]
    exact eq_of_opening blank noOther (text ▸ same) ▸ blank
  case closes_once =>
    intro before after same
    obtain ⟨line, rfl⟩ := starts
    have text : margin ++ blocked (' ' :: line) ++ ['\n'] =
        (margin ++ (['/', '*'] ++ ' ' :: line)) ++ ['*', '/', '\n'] := by simp [blocked]
    have noOther : ¬ ['*', '/'] <:+: margin ++ (['/', '*'] ++ ' ' :: line) := by
      rw [List.infix_cons_iff] at noClosing
      rw [isSolid_closing.infix_blank_append_iff blank,
        infix_append_cons_iff isSolid_closing.1 (by decide)]
      simp_all [List.infix_cons_iff]
    exact eq_of_closing noOther (text ▸ same)

/-- What is written between two markers is one comment just if it holds no marker. -/
theorem isOneComment_blocked_iff (blank : isBlankText margin = true)
    (starts : ∃ line, inside = ' ' :: line) (ends : ∃ line, inside = line ++ [' ']) :
    IsOneComment (margin ++ blocked inside ++ ['\n']) ↔ ¬ HoldsMarker inside := by
  constructor
  · exact not_holdsMarker_of_isOneComment
  · exact isOneComment_of_not_holdsMarker blank starts ends

/-! ## Markers in what is written -/

theorem infix_continuation_iff (solid : IsSolid part) (long : 1 < part.length) :
    part <:+: continuation level line ↔ part <:+: line := by
  have noStar : ¬ part <:+: ['*'] := fun isPart => by
    have short := isPart.length_le
    simp at short
    omega
  have noSpace : ' ' ∉ part := solid.not_mem rfl
  rw [continuation, solid.infix_blank_append_iff (isBlankText_margin level),
    ← List.nil_append (' ' :: _), infix_append_cons_iff solid.1 noSpace]
  by_cases empty : line = []
  · simp [empty, noStar, solid.1]
  · rw [if_neg empty, ← List.singleton_append, infix_append_cons_iff solid.1 noSpace]
    simp [noStar, solid.1]

/-- Between the markers of a written comment stands what stands in a line of its text. -/
theorem infix_inside_iff (solid : IsSolid part) (long : 1 < part.length)
    (unbroken : ∀ line ∈ first :: rest, IsUnbroken line) :
    part <:+: joinLines (insideLines level first rest) ↔
      ∃ line ∈ first :: rest, part <:+: line := by
  have noSpace : ' ' ∉ part := solid.not_mem rfl
  have behindSpace (text : List Char) : part <:+: ' ' :: text ↔ part <:+: text :=
    solid.infix_blank_append_iff (show isBlankText [' '] = true from rfl)
  rw [← exists_line_infix_iff solid.isUnbroken solid.1, lines_inside unbroken]
  cases rest with
  | nil =>
    by_cases empty : first = []
    · simp [insideLines, empty, behindSpace]
    · have beforeSpace : part <:+: first ++ [' '] ↔ part <:+: first :=
        solid.infix_append_blank_iff rfl
      simp [insideLines, empty, behindSpace, beforeSpace]
  | cons next rest =>
    have last : ¬ part <:+: margin level ++ [' '] := by
      apply solid.not_infix_of_blank
      rw [isBlankText_append, isBlankText_margin]
      rfl
    simp [insideLines, behindSpace, infix_continuation_iff solid long, last]

theorem Outdents.infix_iff (outdents : Outdents cut source line) (solid : IsSolid part) :
    part <:+: line ↔ part <:+: source := by
  cases outdents with
  | blank blank => simp [solid.1, solid.not_infix_of_blank blank]
  | text length blank => exact (solid.infix_blank_append_iff blank).symm

/-- The lines of a text hold what its source lines hold. -/
theorem forall_reflowed_not_infix_iff {above below : List (List Char)} {summary : List Char}
    (solid : IsSolid part) (blank : ∀ line ∈ above ++ below, isBlankText line = true) :
    (∀ line ∈ trim summary :: details.map (dedent (sharedIndentation details)),
        ¬ part <:+: line) ↔
      ∀ line ∈ above ++ summary :: details ++ below, ¬ part <:+: line := by
  have ofDetails : (∀ line ∈ details, ¬ part <:+: dedent (sharedIndentation details) line) ↔
      ∀ line ∈ details, ¬ part <:+: line := by
    apply forall₂_congr
    intro line inside
    exact not_congr ((outdents_dedent (sharedIndentation_le inside)).infix_iff solid)
  have ofBlank : ∀ line ∈ above ++ below, ¬ part <:+: line :=
    fun line inside => solid.not_infix_of_blank (blank line inside)
  obtain ⟨ofAbove, ofBelow⟩ := List.forall_mem_append.mp ofBlank
  rw [List.forall_mem_cons, List.forall_mem_map, solid.infix_trim_iff, ofDetails,
    List.forall_mem_append, List.forall_mem_append, List.forall_mem_cons, iff_true_intro ofAbove,
    iff_true_intro ofBelow, true_and, and_true]

theorem forall_not_holdsMarker_iff (body : List (List Char)) :
    (∀ line ∈ body, ¬ HoldsMarker line) ↔
      (∀ line ∈ body, ¬ ['/', '*'] <:+: line) ∧ ∀ line ∈ body, ¬ ['*', '/'] <:+: line := by
  simp only [HoldsMarker, not_or, forall_and]

/-- What is written between markers begins and ends with a space. -/
theorem exists_inside_eq (level : Int) (first : List Char) (rest : List (List Char)) :
    (∃ line, joinLines (insideLines level first rest) = ' ' :: line) ∧
      ∃ line, joinLines (insideLines level first rest) = line ++ [' '] := by
  cases rest with
  | nil =>
    by_cases empty : first = []
    · exact ⟨⟨[], by simp [insideLines, empty]⟩, [], by simp [insideLines, empty]⟩
    · exact ⟨⟨first ++ [' '], by simp [insideLines, empty]⟩, ' ' :: first,
        by simp [insideLines, empty]⟩
  | cons next rest =>
    constructor
    · exact ⟨_, joinLines_append_cons [' '] first _⟩
    · rw [insideLines, joinLines_append_singleton (by simp), ← List.cons_append,
        ← List.append_assoc]
      exact ⟨_, rfl⟩

theorem not_holdsMarker_inside_iff (unbroken : ∀ line ∈ first :: rest, IsUnbroken line) :
    ¬ HoldsMarker (joinLines (insideLines level first rest)) ↔
      ∀ line ∈ first :: rest, ¬ HoldsMarker line := by
  rw [forall_not_holdsMarker_iff, HoldsMarker, not_or,
    infix_inside_iff isSolid_opening (by decide) unbroken,
    infix_inside_iff isSolid_closing (by decide) unbroken]
  simp only [not_exists, not_and]

/-- What is written for a comment is one comment just if none of its source lines holds a marker. -/
theorem isOneComment_render (source : String) (level : Int) :
    IsOneComment (render level [.ofComment source]).toList ↔
      ∀ line ∈ sourceLines source.toList, ¬ HoldsMarker line := by
  have ofPieces {first : List Char} {rest : List (List Char)}
      (pieces : segments (unroll source).toList = first :: rest)
      (unbroken : ∀ line ∈ first :: rest, IsUnbroken line) :
      IsOneComment (render level [.ofComment source]).toList ↔
        ∀ line ∈ first :: rest, ¬ HoldsMarker line := by
    obtain ⟨starts, ends⟩ := exists_inside_eq level first rest
    rw [ofComment, render_comment pieces, commentText,
      isOneComment_blocked_iff (isBlankText_margin level) starts ends,
      not_holdsMarker_inside_iff unbroken]
  rcases unroll_cases source with
    ⟨isEmpty, blank⟩ | ⟨above, summary, details, below, isSource, blank, reflowed, isText⟩
  · have pieces : segments (unroll source).toList = [[]] := by
      rw [isEmpty]
      rfl
    rw [ofPieces pieces (by simp)]
    apply iff_of_true
    · simp [HoldsMarker]
    · intro line inside
      exact not_or.mpr ⟨isSolid_opening.not_infix_of_blank (blank line inside),
        isSolid_closing.not_infix_of_blank (blank line inside)⟩
  · rw [ofPieces (by rw [isText, String.toList_ofList, reflowed.segments_eq]) reflowed.unbroken,
      forall_not_holdsMarker_iff, forall_not_holdsMarker_iff, isSource,
      forall_reflowed_not_infix_iff isSolid_opening blank,
      forall_reflowed_not_infix_iff isSolid_closing blank]

/-! ## Comments of a header -/

/-- A comment as a header can hold it: rows that are line comments each, or one block comment. -/
inductive RawComment where
  | run (source : List Char) (marked : ∀ row ∈ segments source, ['/', '/'] <+: trimStart row)
  | block (body : List Char) (closed : ¬ ['*', '/'] <:+: body)

namespace RawComment

def text : RawComment → String
  | .run source _ => String.ofList source
  | .block body _ => String.ofList (blocked body)

/-- A run of line comments is plain if none of its lines holds a marker of block comments behind its
    own marker, and a block comment if no other comment is opened in it. -/
def Plain : RawComment → Prop
  | .run source _ => ∀ line ∈ lines source, ¬ HoldsMarker (dropLineMarker line)
  | .block body _ => ¬ ['/', '*'] <:+: body

end RawComment

theorem wrapperOf_run (marked : ∀ row ∈ segments source, ['/', '/'] <+: trimStart row) :
    wrapperOf (trim source) = .line := by
  obtain ⟨row, more, isRows⟩ := List.exists_cons_of_ne_nil (separatedBy_ne_nil '\n' source)
  change segments source = row :: more at isRows
  obtain ⟨rest, isStart⟩ := marked row (isRows ▸ List.mem_cons_self)
  have isRow : row = (row.takeWhile isBlank ++ ['/', '/']) ++ rest := by
    rw [List.append_assoc, isStart]
    exact List.takeWhile_append_dropWhile.symm
  have blank : isBlankText (row.takeWhile isBlank) = true := List.all_takeWhile
  have trimmed : trim source = '/' :: '/' :: trimEnd (joinLines (rest :: more)) := by
    rw [← joinLines_segments source, isRows, isRow, joinLines_append_cons, List.append_assoc,
      trim_append_of_blank blank, trim, List.cons_append, trimStart_cons_of_not_blank rfl,
      trimEnd_cons_of_not_blank rfl, List.cons_append, trimEnd_cons_of_not_blank rfl,
      List.nil_append]
  rw [trimmed]
  rfl

/-- Neither the star in front of a line of a block comment nor the blanks around it are part of an
    opening marker. -/
theorem opening_infix_clean_iff (line : List Char) :
    ['/', '*'] <:+: Wrapper.block.clean line ↔ ['/', '*'] <:+: line := by
  rw [Wrapper.clean, isSolid_opening.infix_trimEnd_iff, ← dropStar_eq]
  conv_rhs => rw [← isSolid_opening.infix_trimStart_iff]
  unfold dropStar
  split
  next isStart => simp [isStart, List.infix_cons_iff]
  next isStart => simp [isStart, List.infix_cons_iff]
  next => exact isSolid_opening.infix_trimStart_iff.symm

theorem dropBlockSign_suffix (body : List Char) : dropBlockSign body <:+ body := by
  fun_cases dropBlockSign body <;> simp

theorem opening_infix_dropBlockSign_iff (body : List Char) :
    ['/', '*'] <:+: dropBlockSign body ↔ ['/', '*'] <:+: body := by
  fun_cases dropBlockSign body <;> simp [List.infix_cons_iff]

/-- What is written for a comment of a header is one comment just if the comment is plain. -/
theorem RawComment.isOneComment_render_iff (comment : RawComment) (level : Int) :
    IsOneComment (render level [.ofComment comment.text]).toList ↔ comment.Plain := by
  rw [isOneComment_render]
  cases comment with
  | run source marked =>
    simp only [text, String.toList_ofList, sourceLines, innerText, wrapperOf_run marked,
      List.forall_mem_map, Plain]
    apply forall₂_congr
    intro line _
    rw [HoldsMarker, Wrapper.clean, isSolid_opening.infix_trimEnd_iff,
      isSolid_closing.infix_trimEnd_iff, dropLineMarker_eq, HoldsMarker]
  | block body closed =>
    have noClosing : ∀ line ∈ lines (dropBlockSign body),
        ¬ ['*', '/'] <:+: Wrapper.block.clean line := by
      intro line inside isPart
      have inLine : ['*', '/'] <:+: line := isPart.trans (Wrapper.clean_isInfix _ line)
      have inBody :=
        (exists_line_infix_iff isSolid_closing.isUnbroken (by simp)).mp ⟨line, inside, inLine⟩
      exact closed (inBody.trans (dropBlockSign_suffix body).isInfix)
    have opening : (∀ line ∈ lines (dropBlockSign body),
        ¬ ['/', '*'] <:+: Wrapper.block.clean line) ↔ ¬ ['/', '*'] <:+: body := by
      rw [← opening_infix_dropBlockSign_iff,
        ← exists_line_infix_iff isSolid_opening.isUnbroken (by simp)]
      simp only [opening_infix_clean_iff, not_exists, not_and]
    rw [text, String.toList_ofList, sourceLines_of_blocked (trim_blocked body),
      forall_not_holdsMarker_iff, List.forall_mem_map, List.forall_mem_map, opening, Plain]
    exact and_iff_left noClosing

/-- A line comment that holds a closing marker. -/
def RawComment.closing : RawComment :=
  .run "// a */ b".toList (by decide)

/-- What is behind the closing marker stands outside of the comment that is written. -/
theorem RawComment.not_isOneComment_closing :
    ¬ IsOneComment (render 0 [.ofComment RawComment.closing.text]).toList := by
  have written : render 0 [.ofComment RawComment.closing.text] = "/* a */ b */\n" := by decide
  rw [written]
  intro isOne
  have last := isOne.closes_once "/* a ".toList " b */\n".toList rfl
  simp at last

end Comment

end HeaderBindings
