import HeaderBindings.Text.Blank
import HeaderBindings.Text.Line

/-!
# Source comments

How the text of a documentation comment is taken out of its markers. A comment is a run of line
comments, one block comment, or text without markers. What is left after the markers are gone is
reflowed: blank lines at both ends go, trailing blanks go, and the lines after the first lose the
indentation that they share.
-/

namespace HeaderBindings.Comment

open Text

/-- How a comment is marked in the source. -/
inductive Wrapper where
  /-- Every line begins with `//`, `///` or `//!`. -/
  | line
  | block
  | bare
  deriving Repr, DecidableEq

/-- Which markers a trimmed comment has. The two markers of a block must not overlap. -/
def wrapperOf (source : List Char) : Wrapper :=
  if ['/', '/'].isPrefixOf source then .line
  else if ['/', '*'].isPrefixOf source && ['*', '/'].isSuffixOf source && source.length > 3 then
    .block
  else .bare

/-- A line of a line comment without its marker. A line that has none is left as it is. -/
def dropLineMarker (line : List Char) : List Char :=
  match trimStart line with
  | '/' :: '/' :: '/' :: rest => rest
  | '/' :: '/' :: '!' :: rest => rest
  | '/' :: '/' :: rest => rest
  | _ => line

def blockBody (source : List Char) : List Char :=
  match (source.drop 2).dropLast.dropLast with
  | '*' :: rest => rest
  | '!' :: rest => rest
  | body => body

/-- A line of a block comment without its leading star and one space after it. A line that has no
    star is left as it is. -/
def dropStar (line : List Char) : List Char :=
  match trimStart line with
  | '*' :: ' ' :: rest => rest
  | '*' :: rest => rest
  | _ => line

/-- The lines of a text without surrounding blanks, each without its trailing blanks. -/
def cleanLines (text : List Char) : List (List Char) :=
  (lines (trim text)).map trimEnd

def bodyLines (source : List Char) : List (List Char) :=
  match wrapperOf source with
  | .line => cleanLines (joinLines ((lines source).map dropLineMarker))
  | .block => (cleanLines (blockBody source)).map dropStar
  | .bare => cleanLines source

def dropBlankEnds (body : List (List Char)) : List (List Char) :=
  ((body.dropWhile isBlankText).reverse.dropWhile isBlankText).reverse

def sharedIndentation (body : List (List Char)) : Nat :=
  (((body.filter fun line => !isBlankText line).map indentation).min?).getD 0

/-- A line without its first `cut` characters; a blank line becomes empty. -/
def dedent (cut : Nat) (line : List Char) : List Char :=
  if isBlankText line then [] else line.drop cut

/-- The lines with the first one trimmed and the others moved left together. -/
def reflow : List (List Char) → List (List Char)
  | [] => []
  | first :: rest => trim first :: rest.map (dedent (sharedIndentation rest))

def unrollChars (source : List Char) : List Char :=
  joinLines (reflow (dropBlankEnds (bodyLines (trim source))))

/-- The text of a comment. -/
def unroll (source : String) : String :=
  String.ofList (unrollChars source.toList)

end HeaderBindings.Comment
