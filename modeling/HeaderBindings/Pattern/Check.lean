import HeaderBindings.Pattern.Error

/-!
# Checks of a whole pattern

What is asked of a pattern when all of it has been read. A look back must take a fixed number of
characters, so that its start is known; and a pattern that may have no repetitions must have none.
-/

namespace HeaderBindings.Pattern

namespace Width

def zero : Width :=
  ⟨0, some 0⟩

/-- One part after another. -/
def add (first second : Width) : Width :=
  ⟨first.least + second.least, do return (← first.most) + (← second.most)⟩

/-- One part or the other. -/
def or (first second : Width) : Width :=
  ⟨min first.least second.least, do return max (← first.most) (← second.most)⟩

/-- A part again and again. One that takes no character takes none however often it is repeated. -/
def times (least : Nat) (most : Option Nat) (width : Width) : Width :=
  let product : Option Nat :=
    if width.most = some 0 || most = some 0 then some 0 else do return (← most) * (← width.most)
  ⟨least * width.least, product⟩

end Width

/-- The characters that a part takes, where `widths` are those of the groups in front of it. -/
def Node.width (widths : List (Nat × Width)) : Node → Width
  | .empty | .anchor _ | .lookahead _ _ | .lookbehind _ _ _ => .zero
  | .one _ => ⟨1, some 1⟩
  | .seq first second => (first.width widths).add (second.width widths)
  | .alt first second | .conditional _ first second => (first.width widths).or (second.width widths)
  | .group _ body | .atomic body | .flagged _ _ body => body.width widths
  | .repeated least most _ body => (body.width widths).times least most
  | .backreference index => (widths.lookup index).getD .zero

/-- The most characters that a look back may take. -/
def behindLimit : Nat := 4294967295

/-- The first thing in a pattern that may not be there, in a pattern without repetitions if
    `template` says so. -/
def Node.fault? (template : Bool) : Node → Option Cause
  | .empty | .one _ | .anchor _ | .backreference _ => none
  | .seq first second | .alt first second | .conditional _ first second =>
      (first.fault? template).or (second.fault? template)
  | .group _ body | .atomic body | .flagged _ _ body | .lookahead _ body => body.fault? template
  | .repeated _ _ greed body =>
      if template then some (.templateRepeat greed) else body.fault? template
  | .lookbehind _ width body =>
      if behindLimit < width.least then some .behindTooFar
      else if width.most ≠ some width.least then some .behindUnfixed
      else body.fault? template

end HeaderBindings.Pattern
