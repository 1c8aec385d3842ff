import HeaderBindings.Failure
import HeaderBindings.Pattern.Basic
import HeaderBindings.Template.Dollar

/-!
# References of a template

Before a template is used, every group that it refers to is looked for in the pattern. References
are found by reading backslashes from left to right: `\g<…>` refers to what stands between the
brackets, a backslash with a digit other than zero refers to that digit, taken together with a
decimal digit after it, and any other character after a backslash refers to nothing.
-/

namespace HeaderBindings.Template

open Text

/-- What a backslash in front of a text refers to, if anything, and the text that is left. -/
def backslashReference : List Char → Option (List Char) × List Char
  | [] => (none, [])
  | c :: rest =>
      if c = 'g' then
        match rest with
        | '<' :: inner =>
            match inner.dropWhile (· ≠ '>') with
            | _ :: after => (some (inner.takeWhile (· ≠ '>')), after)
            | [] => (none, rest)
        | _ => (none, rest)
      else if '1' ≤ c && c ≤ '9' then
        match rest with
        | d :: after => if isDecimal d then (some [c, d], after) else (some [c], rest)
        | [] => (some [c], [])
      else (none, rest)

theorem length_backslashReference_le (text : List Char) :
    (backslashReference text).2.length ≤ text.length := by
  cases text with
  | nil => simp [backslashReference]
  | cons c rest =>
    simp only [backslashReference]
    split
    · cases rest with
      | nil => simp
      | cons d inner =>
        have shorter := (List.dropWhile_suffix (fun x => decide (x ≠ '>')) (l := inner)).length_le
        split
        · rename_i r1 r2 same
          simp only [List.cons.injEq] at same
          obtain ⟨_, rfl⟩ := same
          split
          · rename_i found
            simp only [found, List.length_cons] at shorter ⊢
            omega
          · simp
        · simp
    · split
      · split
        · split <;> simp only [List.length_cons] <;> omega
        · simp
      · simp

/-- The references of a template, from left to right. -/
def references : List Char → List (List Char)
  | [] => []
  | c :: rest =>
      if c = '\\' then
        match (backslashReference rest).1 with
        | some name => name :: references (backslashReference rest).2
        | none => references (backslashReference rest).2
      else references rest
termination_by text => text.length
decreasing_by
  all_goals have := length_backslashReference_le rest
  all_goals simp only [List.length_cons]; omega

/-- The number written by digits, which must be decimal digits and not too many. -/
def readNumeral (digits : List Char) : Except Failure Nat :=
  let leading := digits.takeWhile isDecimal
  if leading.length > Failure.maxNumeralLength then .error (.numeralLength leading.length)
  else
    match decimalNumber? digits with
    | some n => .ok n
    | none => .error (.numeral (String.ofList digits))

/-- Whether a pattern defines the group that a reference names. A reference made of digits is a
    number, and any other one a name. -/
def defines (pattern : Pattern) (reference : List Char) : Except Failure Bool :=
  if !reference.isEmpty && reference.all isDigit then do
    return (← readNumeral reference) ≤ pattern.groups
  else .ok (pattern.groupNamed? (String.ofList reference)).isSome

def checkReferences (pattern : Pattern) (template : String) :
    List (List Char) → Except Failure Unit
  | [] => .ok ()
  | reference :: rest => do
      if ← defines pattern reference then checkReferences pattern template rest
      else .error (.undefinedGroup template (String.ofList reference) pattern.source)

/-- A template with its dollar references written with a backslash, if the pattern defines every
    group that it refers to. -/
def compile (pattern : Pattern) (template : String) : Except Failure String := do
  let converted := convert template
  checkReferences pattern template (references converted.toList)
  return converted

end HeaderBindings.Template
