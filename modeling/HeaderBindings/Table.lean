/-!
# Tables

Finite maps in the order in which their keys were first given. Giving a key a second time replaces
its value and leaves its place. The operations are described by what `find?` answers.
-/

namespace HeaderBindings

/-- A finite map, as the list of its keys and values in order of insertion. -/
structure Table (κ ν : Type) where
  entries : List (κ × ν) := []
  deriving Repr

namespace Table

variable {κ ν : Type} [DecidableEq κ]

def setEntry (key : κ) (value : ν) : List (κ × ν) → List (κ × ν)
  | [] => [(key, value)]
  | (k, v) :: rest => if k = key then (key, value) :: rest else (k, v) :: setEntry key value rest

def findEntry? (key : κ) : List (κ × ν) → Option ν
  | [] => none
  | (k, v) :: rest => if k = key then some v else findEntry? key rest

def find? (table : Table κ ν) (key : κ) : Option ν :=
  findEntry? key table.entries

def set (table : Table κ ν) (key : κ) (value : ν) : Table κ ν :=
  ⟨setEntry key value table.entries⟩

theorem findEntry?_setEntry (entries : List (κ × ν)) (key other : κ) (value : ν) :
    findEntry? other (setEntry key value entries) =
      if key = other then some value else findEntry? other entries := by
  induction entries with
  | nil => simp [setEntry, findEntry?]
  | cons entry rest ih =>
    obtain ⟨k, v⟩ := entry
    by_cases same : k = key
    · subst same
      by_cases found : k = other <;> simp [setEntry, findEntry?, found]
    · by_cases found : k = other
      · subst found
        simp [setEntry, findEntry?, same, Ne.symm same]
      · simp [setEntry, findEntry?, same, found, ih]

theorem find?_set (table : Table κ ν) (key other : κ) (value : ν) :
    (table.set key value).find? other =
      if key = other then some value else table.find? other :=
  findEntry?_setEntry table.entries key other value

end Table

end HeaderBindings
