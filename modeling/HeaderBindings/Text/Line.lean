import HeaderBindings.Text.Separated

/-!
# Lines

Where a text breaks into lines, and how lines are joined again. A carriage return directly
followed by a line feed is one break. A break ends a line, so a text that ends in a break has no
empty last line.
-/

namespace HeaderBindings.Text

/-- Whether a character ends a line: line feed, vertical tab, form feed, carriage return, the
    file, group and record separators, next line, and the line and paragraph separators. -/
def isLineBreak (c : Char) : Bool :=
  let n := c.toNat
  (10 ≤ n && n ≤ 13) || (28 ≤ n && n ≤ 30) || n == 0x85 || n == 0x2028 || n == 0x2029

def lines : List Char → List (List Char)
  | [] => []
  | '\r' :: '\n' :: rest => [] :: lines rest
  | c :: rest =>
      if isLineBreak c then [] :: lines rest
      else
        match lines rest with
        | [] => [[c]]
        | line :: more => (c :: line) :: more

/-- The pieces of a text between its line feeds; there is always at least one. -/
def segments (text : List Char) : List (List Char) :=
  separatedBy '\n' text

def joinLines (pieces : List (List Char)) : List Char :=
  ['\n'].intercalate pieces

theorem joinLines_segments (text : List Char) : joinLines (segments text) = text :=
  intercalate_separatedBy '\n' text

end HeaderBindings.Text
