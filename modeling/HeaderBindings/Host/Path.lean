import HeaderBindings.Text.Separated

/-!
# Paths

A path is a sequence of segments between slashes. The stem of a path is its last segment without
the extension: what stands before the last point, unless only points stand before it.
-/

namespace HeaderBindings.Path

def segments (path : String) : List String :=
  (Text.separatedBy '/' path.toList).map String.ofList

def lastSegment (path : List Char) : List Char :=
  (Text.separatedBy '/' path).getLastD []

/-- The text before the last point of a segment, if there is a point and not only points stand
    before it; the whole segment otherwise. -/
def withoutExtension (segment : List Char) : List Char :=
  let backwards := segment.reverse
  let before := ((backwards.dropWhile (· ≠ '.')).drop 1).reverse
  if before.all (· == '.') then segment else before

def stem (path : String) : String :=
  String.ofList (withoutExtension (lastSegment path.toList))

/-- The segments that name something: all but empty ones and single points. -/
def steps (path : String) : List String :=
  (segments path).filter fun segment => segment ≠ "" && segment ≠ "."

end HeaderBindings.Path
