import HeaderBindings.Proofs.Comment.Rendering
import Mathlib.Logic.Function.Iterate

/-!
# Indentation

A tree of chunks that is written one level deeper has four more spaces in front of each of its rows
that are not empty. So the body of a block is written as it would be on its own, and moved right as
a whole.
-/

namespace HeaderBindings.Chunk

open Text

variable {level : Int} {row : String} {chunk : Chunk} {chunks : List Chunk}

/-- No line of a chunk and no header of a block in it holds a line feed. -/
inductive FeedFree : Chunk → Prop
  | line {text : String} (free : '\n' ∉ text.toList) : FeedFree (.line text)
  | comment (text : String) : FeedFree (.comment text)
  | block {header : String} {body : List Chunk} (free : '\n' ∉ header.toList)
      (inside : ∀ chunk ∈ body, FeedFree chunk) : FeedFree (.block header body)

@[simp]
theorem feedFree_line {text : String} : FeedFree (.line text) ↔ '\n' ∉ text.toList :=
  ⟨fun | .line free => free, .line⟩

@[simp]
theorem feedFree_comment {text : String} : FeedFree (.comment text) :=
  .comment text

@[simp]
theorem feedFree_block {header : String} {body : List Chunk} :
    FeedFree (.block header body) ↔ '\n' ∉ header.toList ∧ ∀ chunk ∈ body, FeedFree chunk :=
  ⟨fun | .block free inside => ⟨free, inside⟩, fun both => .block both.1 both.2⟩

/-! ## Texts -/

/-- A line moved right by four spaces, unless it is empty. -/
def indentLine (line : List Char) : List Char :=
  if line = [] then [] else "    ".toList ++ line

/-- A text with all its lines moved right. -/
def indent (text : String) : String :=
  String.ofList (joinLines ((segments text.toList).map indentLine))

theorem closedLines_eq_joinLines (body : List (List Char)) :
    closedLines body = joinLines (body ++ [[]]) := by
  cases body with
  | nil => rfl
  | cons line rest => rw [closedLines_eq (by simp), joinLines_append_singleton (by simp)]

theorem segments_closedLines {body : List (List Char)} (free : ∀ line ∈ body, '\n' ∉ line) :
    segments (closedLines body) = body ++ [[]] := by
  rw [closedLines_eq_joinLines, segments_joinLines (by simp)]
  simpa [or_imp, forall_and] using free

/-! ## Rows -/

def indentRow (row : String) : String :=
  if row = "" then "" else "    " ++ row

theorem toList_indentRow (row : String) : (indentRow row).toList = indentLine row.toList := by
  unfold indentRow indentLine
  split <;> simp_all

theorem pad_succ (nonneg : 0 ≤ level) : pad (level + 1) = "    " ++ pad level := by
  rw [← String.toList_inj, String.toList_append, toList_pad, toList_pad, margin, margin,
    Int.toNat_add nonneg (by decide), Nat.mul_add, Nat.add_comm, List.replicate_add]
  rfl

/-- A row that begins with its padding moves right by a longer padding. -/
theorem indentRow_pad (nonneg : 0 ≤ level) (nonempty : row ≠ "") :
    indentRow (pad level ++ row) = pad (level + 1) ++ row := by
  rw [indentRow, if_neg (by simp [nonempty]), pad_succ nonneg, String.append_assoc]

theorem lineRow_succ (nonneg : 0 ≤ level) (text : String) :
    lineRow (level + 1) text = indentRow (lineRow level text) := by
  unfold lineRow
  by_cases empty : text = ""
  · simp [empty, indentRow]
  · simp [empty, indentRow_pad nonneg]

theorem continuationRow_succ (nonneg : 0 ≤ level) (piece : List Char) :
    continuationRow (level + 1) piece = indentRow (continuationRow level piece) := by
  unfold continuationRow
  split
  next => rw [indentRow_pad nonneg (by decide)]
  next => rw [String.append_assoc, String.append_assoc, indentRow_pad nonneg (by simp)]

theorem commentRows_succ (nonneg : 0 ≤ level) (text : String) :
    commentRows (level + 1) text = (commentRows level text).map indentRow := by
  unfold commentRows
  split
  next => rfl
  next piece _ =>
    split
    next => simp [indentRow_pad nonneg]
    next => simp [String.append_assoc, indentRow_pad nonneg]
  next first rest _ _ =>
    simp [String.append_assoc, indentRow_pad nonneg, continuationRow_succ nonneg]

mutual

theorem rows_succ {level : Int} (nonneg : 0 ≤ level) (chunk : Chunk) :
    rows (level + 1) chunk = (rows level chunk).map indentRow := by
  match chunk with
  | .line text => simp [rows, lineRow_succ nonneg]
  | .comment text => simp [rows, commentRows_succ nonneg]
  | .block header [] => simp [rows, String.append_assoc, indentRow_pad nonneg]
  | .block header (chunk :: rest) =>
    have deeper : 0 ≤ level + 1 := by omega
    simp [rows, String.append_assoc, indentRow_pad nonneg, rows_succ deeper chunk,
      rowsOfAll_succ deeper rest]

theorem rowsOfAll_succ {level : Int} (nonneg : 0 ≤ level) (chunks : List Chunk) :
    rowsOfAll (level + 1) chunks = (rowsOfAll level chunks).map indentRow := by
  match chunks with
  | [] => rfl
  | chunk :: rest => simp [rowsOfAll, rows_succ nonneg chunk, rowsOfAll_succ nonneg rest]

end

/-! ## Rows without line feeds -/

theorem lineFeed_not_mem_pad (level : Int) : '\n' ∉ (pad level).toList := by
  rw [toList_pad]
  intro inside
  cases List.eq_of_mem_replicate inside

theorem lineFeed_not_mem_commentRows {text : String} (isRow : row ∈ commentRows level text) :
    '\n' ∉ row.toList := by
  have noFeed := lineFeed_not_mem_pad level
  have free : ∀ piece ∈ segments text.toList, '\n' ∉ piece :=
    fun piece inside => not_mem_of_mem_separatedBy inside
  unfold commentRows at isRow
  split at isRow
  next => cases isRow
  next piece isPiece =>
    rw [isPiece] at free
    split at isRow <;> simp_all
  next first rest _ isPieces =>
    rw [isPieces, List.forall_mem_cons] at free
    have conts : ∀ piece ∈ rest, '\n' ∉ (continuationRow level piece).toList := by
      intro piece inside
      unfold continuationRow
      split <;> simp_all
    simp only [List.cons_append, List.mem_cons, List.mem_append, List.mem_map,
      List.not_mem_nil, or_false] at isRow
    rcases isRow with rfl | ⟨piece, inside, rfl⟩ | rfl
    · simp [noFeed, free.1]
    · exact conts piece inside
    · simp [noFeed]

theorem mem_rowsOfAll :
    row ∈ rowsOfAll level chunks ↔ ∃ chunk ∈ chunks, row ∈ rows level chunk := by
  rw [rowsOfAll_eq_flatMap, List.mem_flatMap]

theorem lineFeed_not_mem_rows (free : FeedFree chunk) :
    ∀ level, ∀ row ∈ rows level chunk, '\n' ∉ row.toList := by
  induction free with
  | line free =>
    intro level row isRow
    rw [rows, List.mem_singleton] at isRow
    subst isRow
    unfold lineRow
    split <;> simp [lineFeed_not_mem_pad, free]
  | comment text =>
    intro level row isRow
    rw [rows] at isRow
    exact lineFeed_not_mem_commentRows isRow
  | @block header body free _ ih =>
    intro level row isRow
    cases body with
    | nil => simp_all [rows, lineFeed_not_mem_pad]
    | cons chunk rest =>
      have isRow : row = pad level ++ header ++ " \x7b" ∨
          row ∈ rowsOfAll (level + 1) (chunk :: rest) ∨ row = pad level ++ "\x7d" := by
        simpa [rows, rowsOfAll, or_assoc] using isRow
      rcases isRow with rfl | isRow | rfl
      · simp [lineFeed_not_mem_pad, free]
      · obtain ⟨child, isChild, isRow⟩ := mem_rowsOfAll.mp isRow
        exact ih child isChild (level + 1) row isRow
      · simp [lineFeed_not_mem_pad]

/-! ## Written trees -/

theorem segments_render (free : ∀ chunk ∈ chunks, FeedFree chunk) (level : Int) :
    segments (render level chunks).toList =
      (rowsOfAll level chunks).map String.toList ++ [[]] := by
  rw [toList_render, segments_closedLines]
  rw [List.forall_mem_map]
  intro row isRow
  obtain ⟨chunk, isChunk, isRow⟩ := mem_rowsOfAll.mp isRow
  exact lineFeed_not_mem_rows (free chunk isChunk) level row isRow

/-- A tree is written one level deeper by moving what is written for it right. -/
theorem render_succ (free : ∀ chunk ∈ chunks, FeedFree chunk) (nonneg : 0 ≤ level) :
    render (level + 1) chunks = indent (render level chunks) := by
  have moved : (rowsOfAll (level + 1) chunks).map String.toList =
      ((rowsOfAll level chunks).map String.toList).map indentLine := by
    rw [rowsOfAll_succ nonneg, List.map_map, List.map_map]
    exact List.map_congr_left fun row _ => toList_indentRow row
  rw [← String.toList_inj, indent, String.toList_ofList, segments_render free, List.map_append,
    ← moved, toList_render, closedLines_eq_joinLines]
  rfl

theorem render_eq_iterate (free : ∀ chunk ∈ chunks, FeedFree chunk) (level : Nat) :
    render level chunks = indent^[level] (render 0 chunks) := by
  induction level with
  | zero => rfl
  | succ level ih =>
    rw [Function.iterate_succ_apply', ← ih, ← render_succ free (Int.natCast_nonneg level)]
    rfl

/-- A block that is not empty is written as its header, its body one level deeper, and a closing
    brace below the header. -/
theorem render_block (level : Int) (header : String) (nonempty : chunks ≠ []) :
    render level [.block header chunks] =
      pad level ++ header ++ " \x7b\n" ++ render (level + 1) chunks ++ pad level ++ "\x7d\n" := by
  obtain ⟨chunk, rest, rfl⟩ := List.exists_cons_of_ne_nil nonempty
  rw [← String.toList_inj]
  simp [toList_render, closedLines, rowsOfAll, rows]

theorem margin_prefix_row (level : Nat) :
    ∀ row ∈ rowsOfAll level chunks, row ≠ "" → margin level <+: row.toList := by
  induction level with
  | zero => exact fun row _ _ => List.nil_prefix
  | succ level ih =>
    intro row isRow nonempty
    rw [Int.natCast_succ, rowsOfAll_succ (Int.natCast_nonneg level)] at isRow
    obtain ⟨shorter, isShorter, rfl⟩ := List.mem_map.mp isRow
    have nonemptyShorter : shorter ≠ "" := by
      rintro rfl
      exact nonempty rfl
    obtain ⟨rest, isRest⟩ := ih shorter isShorter nonemptyShorter
    have longer : margin ↑(level + 1) = "    ".toList ++ margin level := by
      rw [← toList_pad, Int.natCast_succ, pad_succ (Int.natCast_nonneg level),
        String.toList_append, toList_pad]
    refine ⟨rest, ?_⟩
    rw [longer, List.append_assoc, isRest, indentRow, if_neg nonemptyShorter, String.toList_append]

/-- What is written for a tree on the next level is moved right by four spaces. The body of a block
    is moved right by one level more than its header and its closing brace, and no line stands
    further left than its level. -/
theorem render_shifts (free : ∀ chunk ∈ chunks, FeedFree chunk) (level : Nat) :
    render (level + 1) chunks = indent (render level chunks) ∧
    (∀ header, chunks ≠ [] → render level [.block header chunks] =
      pad level ++ header ++ " \x7b\n" ++ indent^[level + 1] (render 0 chunks) ++
        pad level ++ "\x7d\n") ∧
    ∀ line ∈ segments (render level chunks).toList, line ≠ [] → margin level <+: line := by
  refine ⟨render_succ free (Int.natCast_nonneg level), fun header nonempty => ?_, ?_⟩
  · rw [render_block level header nonempty, ← render_eq_iterate free (level + 1)]
    rfl
  · rw [segments_render free, List.forall_mem_append, List.forall_mem_map]
    refine ⟨fun row isRow nonempty => ?_, by simp⟩
    exact margin_prefix_row level row isRow (by simpa using nonempty)

/-- A block with an empty line, a comment of several lines and other blocks in it. -/
def nested : List Chunk :=
  [.block "class A" [.line "int x;", .line "", .comment "first\n\nlast", .block "f()" [],
    .block "g()" [.line "y;"]]]

theorem render_nested :
    (∀ chunk ∈ nested, FeedFree chunk) ∧
    render 1 nested = indent (render 0 nested) ∧
    render 0 [.block "class B" nested] =
      "class B \x7b\n" ++ indent (render 0 nested) ++ "\x7d\n" ∧
    render 1 nested = "    class A \x7b\n        int x;\n\n        /* first\n         *\n" ++
      "         * last\n         */\n        f() \x7b\x7d\n        g() \x7b\n" ++
      "            y;\n        \x7d\n    \x7d\n" := by
  have free : ∀ chunk ∈ nested, FeedFree chunk := by
    simp [nested]
  have shifts := render_shifts free 0
  simp only [Int.natCast_zero, Int.zero_add, Nat.zero_add, Function.iterate_one] at shifts
  refine ⟨free, shifts.1, ?_, by decide +kernel⟩
  rw [shifts.2.1 "class B" (by simp [nested])]
  decide +kernel

end HeaderBindings.Chunk
