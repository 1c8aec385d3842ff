import HeaderBindings.Text.Digit
import HeaderBindings.Text.LowerCase

/-!
# Member names

What the constants of an enumeration are called inside its class. C has no scopes for constants,
so their names usually begin with the name of the enumeration; that beginning is dropped, in
whatever case it is written, together with the underscores after it. A name keeps its beginning
when nothing that could stand as a name would be left.
-/

namespace HeaderBindings.MemberName

open Text

/-- Whether a text can stand as a name: it is not empty and begins with no digit. -/
def isUsable : List Char → Bool
  | [] => false
  | c :: _ => !isDigit c

/-- A name without the name of its owner at the beginning. -/
def shortChars (name owner : List Char) : List Char :=
  if !owner.isEmpty && (lower owner).isPrefixOf (lower name) then
    let rest := (name.drop owner.length).dropWhile (· == '_')
    if isUsable rest then rest else name
  else name

/-- The name of a constant inside the class of its owner. -/
def short (name owner : String) : String :=
  String.ofList (shortChars name.toList owner.toList)

end HeaderBindings.MemberName
