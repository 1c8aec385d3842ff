import HeaderBindings.Failure
import HeaderBindings.Pattern.Basic
import HeaderBindings.Pattern.Reader
import HeaderBindings.Pattern.Escape

/-!
# Repetitions

Reading what stands after a part of a pattern to repeat it: `?`, `*`, `+` or bounds between braces,
and a sign that says how eager the repetition is. A brace that does not open bounds is a character.
A place cannot be repeated, and a repetition cannot be repeated again.
-/

namespace HeaderBindings.Pattern

open Text Reader

/-- What a repetition does with a part of a pattern that stands before it. -/
inductive Repeatable where
  | yes
  /-- The part is a place, which cannot be repeated. -/
  | place
  | again
  deriving Repr, DecidableEq

structure Part where
  node : Node
  repeatable : Repeatable := .yes
  deriving Repr

/-- The largest count that a repetition may have, and one more. -/
def repeatLimit : Nat := 4294967295

def repeatCount (digits : List Char) : Reader Nat := do
  if Failure.maxNumeralLength < digits.length then fail .repeatNumeral (← position)
  let count := numberIn 10 digits
  if count ≥ repeatLimit then fail .repeatTooLarge (← position)
  return count

/-- Reads the bounds of a repetition between braces, whose opening brace has been taken. There are
    none when the braces do not hold bounds; nothing is taken then. -/
def bracedBounds : Reader (Option (Nat × Option Nat)) := do
  if (← peek) = some (.plain '\x7d') then return none
  let before ← get
  let start ← position
  let low ← takeUpTo isAsciiDigit before.rest.length
  let comma ← accept ','
  let high ← if comma then takeUpTo isAsciiDigit before.rest.length else pure low
  if ← accept '\x7d' then
    let least ← if low.isEmpty then pure 0 else repeatCount low
    if high.isEmpty then return some (least, none)
    let most ← repeatCount high
    if most < least then fail .repeatOrder start
    return some (least, some most)
  else
    set before
    return none

/-- The bounds that a repetition character stands for, that character having been taken. -/
def repeatBounds (c : Char) : Reader (Option (Nat × Option Nat)) :=
  match c with
  | '?' => return some (0, some 1)
  | '*' => return some (0, none)
  | '+' => return some (1, none)
  | _ => bracedBounds

def greed : Reader Greed := do
  match ← peek with
  | some (.plain '?') =>
      discard next
      return .lazy
  | some (.plain '+') =>
      discard next
      return .possessive
  | _ => return .greedy

/-- Reads what a repetition character makes of the parts before it, the latest first. -/
def repetition (c : Char) (parts : List Part) : Reader (List Part) := do
  let start := (← position) - 1
  match ← repeatBounds c with
  | none => return ⟨.one (.exactly c.toNat), .yes⟩ :: parts
  | some (least, most) =>
      match parts with
      | [] => fail .nothingToRepeat start
      | part :: before =>
          match part.repeatable with
          | .place => fail .nothingToRepeat start
          | .again => fail .multipleRepeat start
          | .yes =>
              return ⟨.repeated least most (← greed) part.node, .again⟩ :: before

end HeaderBindings.Pattern
