import HeaderBindings.Comment

/-!
# Chunks of generated text

Generated text is a tree of lines, comments and blocks. Indentation is decided only when the tree
is written out: four spaces for each level of nesting. A chunk is written as a list of rows, and
every row is closed by a line feed.
-/

namespace HeaderBindings

inductive Chunk where
  | line (text : String)
  /-- A comment, given by its text without markers. -/
  | comment (text : String)
  /-- A header with nested chunks between braces. -/
  | block (header : String) (body : List Chunk)
  deriving Repr

namespace Chunk

/-- The comment chunk for a comment as it stands in the source. -/
def ofComment (source : String) : Chunk :=
  .comment (Comment.unroll source)

/-- The spaces before a row at a level of nesting; there are none at or below level zero. -/
def pad (level : Int) : String :=
  String.ofList (List.replicate (4 * level.toNat) ' ')

def lineRow (level : Int) (text : String) : String :=
  if text = "" then "" else pad level ++ text

def continuationRow (level : Int) (piece : List Char) : String :=
  if piece = [] then pad level ++ " *" else pad level ++ " * " ++ String.ofList piece

/-- The rows of a comment: one row if its text has one line, otherwise one for each line and one
    for the closing marker. -/
def commentRows (level : Int) (text : String) : List String :=
  match Text.segments text.toList with
  | [] => []
  | [piece] =>
      if piece = [] then [pad level ++ "/* */"]
      else [pad level ++ "/* " ++ String.ofList piece ++ " */"]
  | first :: rest =>
      (pad level ++ "/* " ++ String.ofList first) :: rest.map (continuationRow level) ++
        [pad level ++ " */"]

mutual

/-- The rows of a chunk at a level of nesting. A block without body stays on one row. -/
def rows (level : Int) : Chunk → List String
  | .line text => [lineRow level text]
  | .comment text => commentRows level text
  | .block header [] => [pad level ++ header ++ " \x7b\x7d"]
  | .block header (chunk :: rest) =>
      (pad level ++ header ++ " \x7b") ::
        (rows (level + 1) chunk ++ rowsOfAll (level + 1) rest) ++ [pad level ++ "\x7d"]

def rowsOfAll (level : Int) : List Chunk → List String
  | [] => []
  | chunk :: rest => rows level chunk ++ rowsOfAll level rest

end

theorem rowsOfAll_eq_flatMap (level : Int) (chunks : List Chunk) :
    rowsOfAll level chunks = chunks.flatMap (rows level) := by
  induction chunks with
  | nil => rfl
  | cons chunk rest ih => simp [rowsOfAll, ih]

def render (level : Int) (chunks : List Chunk) : String :=
  String.join ((rowsOfAll level chunks).map (· ++ "\n"))

end Chunk

end HeaderBindings
