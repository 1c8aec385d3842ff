import HeaderBindings.Chunk
import HeaderBindings.Proofs.Comment.NormalForm

/-!
# Rendered comments

The text of a comment is written between a pair of markers, each of its lines after the first one
behind a star. Unrolling takes away what writing has added, because the lines of an unrolled comment
are in normal form; only a text that begins with a star loses it.
-/

namespace HeaderBindings

open Text

namespace Chunk

/-- The spaces in front of the rows of a comment. -/
def margin (level : Int) : List Char :=
  List.replicate (4 * level.toNat) ' '

/-- What is written for a line that continues a comment. -/
def continuation (level : Int) (piece : List Char) : List Char :=
  margin level ++ ' ' :: '*' :: (if piece = [] then [] else ' ' :: piece)

/-- The lines between the two markers of a written comment. -/
def insideLines (level : Int) (first : List Char) : List (List Char) → List (List Char)
  | [] => [' ' :: (if first = [] then [] else first ++ [' '])]
  | piece :: rest =>
      (' ' :: first) :: (piece :: rest).map (continuation level) ++ [margin level ++ [' ']]

/-- What is written for a comment, between the spaces in front of it and its last line feed. -/
def commentText (level : Int) (first : List Char) (rest : List (List Char)) : List Char :=
  Comment.blocked (joinLines (insideLines level first rest))

theorem toList_pad (level : Int) : (pad level).toList = margin level :=
  String.toList_ofList

theorem toList_continuationRow (level : Int) (piece : List Char) :
    (continuationRow level piece).toList = continuation level piece := by
  unfold continuationRow continuation
  split
  next => simp [toList_pad]
  next => simp [toList_pad]

theorem isBlankText_margin (level : Int) : isBlankText (margin level) = true := by
  rw [isBlankText_iff]
  intro c inside
  rw [List.eq_of_mem_replicate inside]
  rfl

/-- Lines with a line feed behind each of them. -/
def closedLines (body : List (List Char)) : List Char :=
  body.flatMap (· ++ ['\n'])

theorem closedLines_cons (line : List Char) (rest : List (List Char)) :
    closedLines (line :: rest) = line ++ '\n' :: closedLines rest := by
  simp [closedLines]

theorem closedLines_append (above below : List (List Char)) :
    closedLines (above ++ below) = closedLines above ++ closedLines below :=
  List.flatMap_append

theorem closedLines_eq {body : List (List Char)} (nonempty : body ≠ []) :
    closedLines body = joinLines body ++ ['\n'] := by
  induction body with
  | nil => exact absurd rfl nonempty
  | cons line rest ih =>
    cases rest with
    | nil => simp [closedLines]
    | cons next rest =>
      rw [closedLines_cons, ih (by simp), joinLines_cons_cons, List.append_assoc, List.cons_append]

theorem joinLines_append_singleton {rows : List (List Char)} (nonempty : rows ≠ [])
    (last : List Char) : joinLines (rows ++ [last]) = joinLines rows ++ '\n' :: last := by
  induction rows with
  | nil => exact absurd rfl nonempty
  | cons row rest ih =>
    cases rest with
    | nil => simp [joinLines_cons_cons]
    | cons next rest =>
      have tail := ih (by simp)
      rw [List.cons_append, List.cons_append, joinLines_cons_cons, ← List.cons_append, tail,
        joinLines_cons_cons]
      simp

theorem joinLines_append_cons (before line : List Char) (rest : List (List Char)) :
    joinLines ((before ++ line) :: rest) = before ++ joinLines (line :: rest) := by
  cases rest with
  | nil => simp
  | cons next rest => simp [joinLines_cons_cons]

theorem toList_render (level : Int) (chunks : List Chunk) :
    (render level chunks).toList = closedLines ((rowsOfAll level chunks).map String.toList) := by
  simp [closedLines, render, String.toList_join, List.flatMap_map]

theorem joinLines_commentRows {level : Int} {text : String} {first : List Char}
    {rest : List (List Char)} (pieces : segments text.toList = first :: rest) :
    joinLines ((commentRows level text).map String.toList) =
      margin level ++ commentText level first rest := by
  unfold commentRows
  rw [pieces]
  cases rest with
  | nil =>
    by_cases empty : first = []
    · simp [empty, commentText, Comment.blocked, insideLines, toList_pad]
    · simp [empty, commentText, Comment.blocked, insideLines, toList_pad]
  | cons piece rest =>
    have isRows : (((pad level ++ "/* " ++ String.ofList first) ::
          (piece :: rest).map (continuationRow level) ++ [pad level ++ " */"]).map String.toList) =
        ((margin level ++ ['/', '*']) ++ ' ' :: first) ::
          (piece :: rest).map (continuation level) ++ [margin level ++ [' ', '*', '/']] := by
      simp [toList_pad, toList_continuationRow]
    simp only [isRows]
    rw [joinLines_append_singleton (by simp), joinLines_append_cons, commentText,
      Comment.blocked, insideLines, joinLines_append_singleton (by simp)]
    simp

/-- What is written for a comment, by the lines of its text. -/
theorem render_comment {level : Int} {text : String} {first : List Char} {rest : List (List Char)}
    (pieces : segments text.toList = first :: rest) :
    (render level [.comment text]).toList =
      margin level ++ commentText level first rest ++ ['\n'] := by
  have nonempty : (commentRows level text).map String.toList ≠ [] := by
    unfold commentRows
    rw [pieces]
    cases rest <;> simp
    split <;> simp
  have isRows : rowsOfAll level [.comment text] = commentRows level text := by
    simp [rowsOfAll, rows]
  rw [toList_render, isRows, closedLines_eq nonempty, joinLines_commentRows pieces]

end Chunk

namespace Comment

open Chunk

variable {level : Int} {first piece : List Char} {rest : List (List Char)}

/-! ## Unrolling what was written -/

theorem isUnbroken_margin (level : Int) : IsUnbroken (margin level) := by
  intro c inside
  rw [List.eq_of_mem_replicate inside]
  rfl

theorem isUnbroken_continuation (unbroken : IsUnbroken piece) :
    IsUnbroken (continuation level piece) := by
  unfold continuation
  split <;> simp [isUnbroken_margin, unbroken, isLineBreak]

theorem isUnbroken_insideLines (unbroken : ∀ line ∈ first :: rest, IsUnbroken line) :
    ∀ line ∈ insideLines level first rest, IsUnbroken line := by
  obtain ⟨unbrokenFirst, unbrokenRest⟩ := List.forall_mem_cons.mp unbroken
  cases rest with
  | nil =>
    rw [insideLines]
    split <;> simp [unbrokenFirst, isLineBreak]
  | cons next rest =>
    have conts : ∀ line ∈ (next :: rest).map (continuation level), IsUnbroken line :=
      List.forall_mem_map.mpr fun line inside => isUnbroken_continuation (unbrokenRest line inside)
    rw [insideLines, List.forall_mem_append, List.forall_mem_cons]
    exact ⟨⟨by simp [unbrokenFirst, isLineBreak], conts⟩, by simp [isUnbroken_margin, isLineBreak]⟩

theorem lines_inside (unbroken : ∀ line ∈ first :: rest, IsUnbroken line) :
    lines (joinLines (insideLines level first rest)) = insideLines level first rest := by
  rw [lines_joinLines (isUnbroken_insideLines unbroken), if_neg]
  cases rest with
  | nil => simp [insideLines]
  | cons next rest =>
    rw [insideLines, List.getLast?_concat]
    simp

theorem exists_insideLines_eq (level : Int) (first : List Char) (rest : List (List Char)) :
    ∃ line more, insideLines level first rest = (' ' :: line) :: more := by
  cases rest with
  | nil => exact ⟨_, _, rfl⟩
  | cons next rest => exact ⟨_, _, rfl⟩

theorem clean_continuation (trimmed : trimEnd piece = piece) :
    Wrapper.block.clean (continuation level piece) = piece := by
  have start : trimStart (continuation level piece) =
      '*' :: (if piece = [] then [] else ' ' :: piece) := by
    rw [continuation, trimStart_append_of_blank (isBlankText_margin level),
      trimStart_cons_of_blank rfl, trimStart_cons_of_not_blank rfl]
  rw [Wrapper.clean, Wrapper.unmark, start]
  by_cases empty : piece = []
  · simp [empty, Wrapper.afterMarker?, dropSpace]
  · simp [empty, Wrapper.afterMarker?, dropSpace, trimmed]

/-- Between the markers of a written comment stand the lines of its text, but that its first line
    loses a star. -/
theorem settle_insideLines (trimmed : ∀ line ∈ rest, trimEnd line = line) :
    settle ((insideLines level first rest).map Wrapper.block.clean) =
      settle (Wrapper.block.clean first :: rest) := by
  have space (tail : List (List Char)) : settle (Wrapper.block.clean (' ' :: first) :: tail) =
      settle (Wrapper.block.clean first :: tail) :=
    settle_cons_congr tail (Wrapper.block.trim_clean_append (show isBlankText [' '] = true from rfl))
  cases rest with
  | nil =>
    by_cases empty : first = []
    · rw [empty]
      rfl
    · rw [insideLines, if_neg empty, List.map_singleton, ← List.cons_append,
        Wrapper.clean_append_of_blank _ rfl, space]
  | cons next rest =>
    have pieces : ((next :: rest).map (continuation level)).map Wrapper.block.clean =
        next :: rest := by
      rw [List.map_map]
      refine (List.map_congr_left fun piece inside => ?_).trans (List.map_id _)
      exact clean_continuation (trimmed piece inside)
    have blank : isBlankText (Wrapper.block.clean (margin level ++ [' '])) = true :=
      Wrapper.clean_of_blank _ (by rw [isBlankText_append, isBlankText_margin]; rfl)
    rw [insideLines, List.map_append, settle_append_blank _ (by simpa using blank), List.map_cons,
      pieces, space]

/-- Unrolling a written comment gives the lines of its text back, but that its first line loses a
    star. -/
theorem unrollChars_written (unbroken : ∀ line ∈ first :: rest, IsUnbroken line)
    (trimmed : ∀ line ∈ rest, trimEnd line = line) :
    unrollChars (margin level ++ commentText level first rest ++ ['\n']) =
      joinLines (settle (Wrapper.block.clean first :: rest)) := by
  have isBlock : trim (margin level ++ commentText level first rest ++ ['\n']) =
      blocked (joinLines (insideLines level first rest)) := by
    rw [trim_surrounded (isBlankText_margin level) rfl, commentText, trim_blocked]
  have noSign : dropBlockSign (joinLines (insideLines level first rest)) =
      joinLines (insideLines level first rest) := by
    obtain ⟨line, more, isInside⟩ := exists_insideLines_eq level first rest
    rw [isInside, show ' ' :: line = [' '] ++ line from rfl, joinLines_append_cons]
    rfl
  rw [unrollChars_eq, sourceLines_of_blocked isBlock, noSign, lines_inside unbroken,
    settle_insideLines trimmed]

/-- Lines in normal form are left as they are. -/
theorem IsReflowed.settle_eq (reflowed : IsReflowed first rest) :
    settle (first :: rest) = first :: rest := by
  have ends : rest.rdropWhile isBlankText = rest := by
    rcases List.eq_nil_or_concat' rest with rfl | ⟨front, last, rfl⟩
    · rfl
    · have solid := reflowed.last_solid
      rw [List.getLastD_concat] at solid
      exact List.rdropWhile_concat_neg isBlankText front last (by simp [solid])
  have moved : rest.map (dedent (sharedIndentation rest)) = rest := by
    refine (List.map_congr_left fun line inside => ?_).trans (List.map_id rest)
    unfold dedent
    split
    next blank => exact (reflowed.blank_empty line inside blank).symm
    next solid =>
      obtain ⟨least, isLeast, solidLeast, none⟩ :=
        reflowed.flush ⟨line, inside, Bool.eq_false_iff.mpr solid⟩
      have least := sharedIndentation_le isLeast solidLeast
      rw [none, Nat.le_zero] at least
      rw [least]
      rfl
  rw [settle, dropBlankEnds_cons_of_not_blank reflowed.first_solid, ends, reflow_cons,
    reflowed.first_trimmed, moved]

/-! ## Length -/

theorem length_dedent_le (cut : Nat) (line : List Char) :
    (dedent cut line).length ≤ line.length := by
  unfold dedent
  split <;> simp

theorem length_closedLines_map_le {move : List Char → List Char} {body : List (List Char)}
    (shorter : ∀ line, (move line).length ≤ line.length) :
    (closedLines (body.map move)).length ≤ (closedLines body).length := by
  induction body with
  | nil => exact le_refl 0
  | cons line body ih =>
    have ofLine := shorter line
    simp only [List.map_cons, closedLines_cons, List.length_append, List.length_cons]
    omega

/-- Settling lines makes no text longer. -/
theorem length_settle_le (body : List (List Char)) :
    (closedLines (settle body)).length ≤ (closedLines body).length := by
  obtain ⟨above, below, isBody, -, -⟩ := exists_dropBlankEnds_eq body
  have moved : (closedLines (settle body)).length ≤ (closedLines (dropBlankEnds body)).length := by
    rw [settle]
    cases dropBlankEnds body with
    | nil => exact le_refl 0
    | cons first rest =>
      have ofFirst := (trim_isInfix first).length_le
      have ofRest : (closedLines (rest.map (dedent (sharedIndentation rest)))).length ≤
          (closedLines rest).length := length_closedLines_map_le (length_dedent_le _)
      simp only [reflow_cons, closedLines_cons, List.length_append, List.length_cons]
      omega
  conv_rhs => rw [isBody]
  simp only [closedLines_append, List.length_append]
  omega

/-! ## Reading back what was written -/

theorem clean_eq_self (noStar : ¬ ['*'] <+: first) (trimmed : trim first = first) :
    Wrapper.block.clean first = first := by
  have noMarker : Wrapper.block.afterMarker? first = none := by
    cases first with
    | nil => rfl
    | cons c rest =>
      have other : c ≠ '*' := by
        rintro rfl
        exact noStar (List.prefix_append ['*'] rest)
      simp [Wrapper.afterMarker?, other]
  have start : trimStart first = first := trimmed ▸ trimStart_trim first
  rw [Wrapper.clean, Wrapper.unmark, start, noMarker, Option.getD_none]
  exact trimmed ▸ trimEnd_trim first

theorem length_clean_lt (star : ['*'] <+: first) :
    (Wrapper.block.clean first).length < first.length := by
  obtain ⟨rest, rfl⟩ := star
  have isClean : Wrapper.block.clean ('*' :: rest) = trimEnd (dropSpace rest) := rfl
  have shorter := (trimEnd_isPrefix (dropSpace rest)).length_le
  have suffix := (dropSpace_suffix rest).length_le
  rw [List.singleton_append, isClean, List.length_cons]
  omega

theorem IsReflowed.star_prefix_iff (reflowed : IsReflowed first rest) :
    ['*'] <+: joinLines (first :: rest) ↔ ['*'] <+: first := by
  have solid := reflowed.first_solid
  cases first with
  | nil => cases solid
  | cons c first =>
    rw [show c :: first = [c] ++ first from rfl, joinLines_append_cons]
    simp [List.cons_prefix_cons]

/-- A comment is read back from what is written for it, unless its text begins with a star. -/
theorem unroll_render_iff (source : String) (level : Int) :
    unroll (render level [.comment (unroll source)]) = unroll source ↔
      ¬ ['*'] <+: (unroll source).toList := by
  rcases unroll_cases source with ⟨isEmpty, -⟩ | ⟨-, summary, details, -, -, -, reflowed, isText⟩
  · have pieces : segments "".toList = [[]] := rfl
    rw [isEmpty, unroll, render_comment pieces, unrollChars_written (by simp) (by simp)]
    decide
  · set first := trim summary
    set rest := details.map (dedent (sharedIndentation details))
    have pieces : segments (unroll source).toList = first :: rest := by
      rw [isText, String.toList_ofList, reflowed.segments_eq]
    have written : (unroll (render level [.comment (unroll source)])).toList =
        joinLines (settle (Wrapper.block.clean first :: rest)) := by
      rw [unroll, String.toList_ofList, render_comment pieces,
        unrollChars_written reflowed.unbroken reflowed.rest_trimmed]
    rw [← String.toList_inj, written, isText, String.toList_ofList, reflowed.star_prefix_iff]
    by_cases star : ['*'] <+: first
    · refine iff_of_false (fun same => ?_) (not_not_intro star)
      have nonempty : settle (Wrapper.block.clean first :: rest) ≠ [] := by
        intro none
        rw [none] at same
        have starText := reflowed.star_prefix_iff.mpr star
        rw [← same] at starText
        simp at starText
      have sameLines : closedLines (settle (Wrapper.block.clean first :: rest)) =
          closedLines (first :: rest) := by
        rw [closedLines_eq nonempty, same, closedLines_eq (by simp)]
      have shorter := length_settle_le (Wrapper.block.clean first :: rest)
      have lost := length_clean_lt star
      simp only [sameLines, closedLines_cons, List.length_append, List.length_cons] at shorter
      omega
    · refine iff_of_true ?_ star
      rw [clean_eq_self star reflowed.first_trimmed, reflowed.settle_eq]

end Comment

end HeaderBindings
