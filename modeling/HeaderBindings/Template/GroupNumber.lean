import HeaderBindings.Failure
import HeaderBindings.Text.Blank
import HeaderBindings.Text.Digit
import HeaderBindings.Text.Separated

/-!
# Numbers of groups

How a reference in brackets writes the number of a group. It is written like any integer: with
decimal digits of any script, in groups that single underscores keep apart, behind a sign, and with
white space around it.
-/

namespace HeaderBindings.Template

open Text

/-- Whether a character may stand around a number: white space that is no information separator. -/
def isMargin (c : Char) : Bool :=
  isBlank c && !(28 ≤ c.toNat && c.toNat ≤ 31)

def trimMargins (text : List Char) : List Char :=
  ((text.dropWhile isMargin).reverse.dropWhile isMargin).reverse

/-- Whether a minus stands in front of a number, and the number without its sign. -/
def signed : List Char → Bool × List Char
  | '-' :: rest => (true, rest)
  | '+' :: rest => (false, rest)
  | text => (false, text)

/-- The number that digits write, in groups between underscores. -/
def groupedNumber? (numeral : List Char) : Option Nat :=
  let groups := separatedBy '_' numeral
  if groups.contains [] || groups.flatten.length > Failure.maxNumeralLength then none
  else decimalNumber? groups.flatten

/-- The number of a group; none if the text writes no integer, or a negative one. -/
def writtenNumber? (text : List Char) : Option Nat :=
  let (negative, numeral) := signed (trimMargins text)
  (groupedNumber? numeral).filter fun n => !negative || n == 0

end HeaderBindings.Template
