import HeaderBindings.Failure
import HeaderBindings.Text.Blank
import HeaderBindings.Text.Line

/-!
# The compiler's search list

Where the compiler looks for headers of the system. It tells this in its report, one place a line
between two marker lines, and marks directories of frameworks.
-/

namespace HeaderBindings.SearchList

open Text

/-- The line that the list follows. -/
def startMarker : String := "#include <...> search starts here:"

/-- The line that the list ends before. -/
def endMarker : String := "End of search list."

/-- The mark after a directory of frameworks. -/
def frameworkMark : String := "(framework directory)"

/-- The place that a line of the list, without surrounding blanks, names. -/
def place (line : List Char) : List Char :=
  if frameworkMark.toList.isSuffixOf line then
    trim (line.take (line.length - frameworkMark.length))
  else line

def placesUntilEnd : List (List Char) → Except Failure (List String)
  | [] => .error .searchListOpen
  | line :: rest =>
      if line = endMarker.toList then .ok []
      else do return String.ofList (place line) :: (← placesUntilEnd rest)

def parse (report : String) : Except Failure (List String) :=
  match ((lines report.toList).map trim).dropWhile (· ≠ startMarker.toList) with
  | [] => .error .searchListMissing
  | _ :: rest => placesUntilEnd rest

/-- The arguments that make the parser look in places of the system and of the user. -/
def arguments (system user : List String) : List String :=
  system.map ("-isystem" ++ ·) ++ user.map ("-I" ++ ·)

end HeaderBindings.SearchList
