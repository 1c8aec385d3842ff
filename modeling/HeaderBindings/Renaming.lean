import HeaderBindings.Template.Expansion
import HeaderBindings.Template.Reference

/-!
# Renaming

Which names of a header are in scope, and what they are called in the generated text. A name is in
scope when the pattern occurs in it; its new name has the first occurrence replaced as the template
says, and a name without an occurrence keeps its name.
-/

namespace HeaderBindings

/-- A pattern for names and a template for their replacement. -/
structure Renaming where
  pattern : Pattern
  /-- The template, with its dollar references written with a backslash. -/
  template : String
  deriving Repr

namespace Renaming

/-- The renaming by a pattern and a template, if the pattern defines the groups of the template. -/
def ofTemplate (pattern : Pattern) (template : String) : Except Failure Renaming := do
  return ⟨pattern, ← Template.compile pattern template⟩

def inScope (policy : Renaming) (name : String) : Bool :=
  (Pattern.search? policy.pattern name.toList).isSome

def apply (policy : Renaming) (name : String) : Except Failure String :=
  match Template.pieces policy.pattern policy.template.toList with
  | .ok pieces =>
      .ok (String.ofList (Template.replaceFirst policy.pattern pieces name.toList))
  | .error error => .error (.badTemplate name policy.template error)

end Renaming

end HeaderBindings
