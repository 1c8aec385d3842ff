import HeaderBindings.Pattern.Basic

/-!
# Settings

What a user decides about a run.
-/

namespace HeaderBindings

/-- The decisions about a run. -/
structure Settings where
  className : String
  pattern : Pattern
  template : String
  includePaths : List String := []
  /-- Whether the compiler is asked for the places of the system. -/
  detectSystem : Bool := true
  compiler : String := "clang"
  deriving Repr

end HeaderBindings
