/-!
# Sets of code points

A set of code points is written as the increasing list of its boundaries: the first code point
that is inside, the first one after it that is outside again, and so on. A code point is inside
when an odd number of boundaries lies at or below it. The tables of character properties in this
folder have this form.
-/

namespace HeaderBindings.Text

/-- The boundaries of a set of code points, in increasing order. -/
abbrev CodePointSet := List Nat

namespace CodePointSet

/-- Whether `n` is inside, when everything below the first boundary has the state `inside`. -/
def holdsFrom (n : Nat) : Bool → CodePointSet → Bool
  | inside, [] => inside
  | inside, boundary :: rest =>
      if n < boundary then inside else holdsFrom n (!inside) rest

def holds (boundaries : CodePointSet) (c : Char) : Bool :=
  holdsFrom c.toNat false boundaries

end CodePointSet

end HeaderBindings.Text
