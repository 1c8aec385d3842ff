import HeaderBindings.Pattern.Alternatives
import HeaderBindings.Pattern.Check
import HeaderBindings.Pattern.Group
import HeaderBindings.Pattern.Set

/-!
# Reading a pattern

A pattern is read as alternatives, each a sequence of parts. White space and comments up to the end
of a line are passed over where the verbose flag holds. Reading has a budget of nested calls, which
the length of the pattern provides: of three calls one takes a token at least.

Every construct of patterns is read. The characters that a pattern may write by their names are
given as a table.
-/

namespace HeaderBindings.Pattern

open Text Reader

/-- What stands one after another in the parts read so far, the latest first. -/
def nodesOf (parts : List Part) : List Node :=
  parts.reverse.flatMap (·.node.parts)

def skipLine : Nat → Reader Unit
  | 0 => return ()
  | budget + 1 => do
      match ← next with
      | none | some (.plain '\n') => return ()
      | some _ => skipLine budget

/-- Passes over what a token begins that verbose patterns are laid out with, the token having been
    taken; whether it begins such a thing. -/
def skipLayout : Token → Reader Bool
  | .plain c => do
      if c = '#' then
        skipLine ((← get).rest.length + 1)
        return true
      return asciiBlanks.contains c
  | .escaped _ => return false

/-- Whether the verbose flag holds behind a part, if it held before it. In alternatives that `first`
    says to begin the pattern the part may have been the flags of the pattern. -/
def verboseAfter (verbose first : Bool) : Reader Bool := do
  return verbose || first && (← get).flags.contains .verbose

/-- Closes the group with the given number, which holds the given part. -/
def numberedGroup (index : Nat) (body : Node) : Reader Node := do
  modify fun s => { s with widths := (index, body.width s.widths) :: s.widths }
  return .group index body

/-- Reads inside a look back. -/
def lookingBehind (negated : Bool) (body : Reader Node) : Reader Node := do
  let outer := (← get).behind
  modify fun s => { s with behind := some (outer.getD s.groups) }
  let node ← body
  modify fun s => { s with behind := outer }
  return .lookbehind negated (node.width (← get).widths) node

mutual

/-- Reads alternatives up to a closing parenthesis or the end. `first` says that nothing stands
    before them in the pattern. -/
def alternatives : Nat → (verbose first : Bool) → Reader (List (List Node))
  | 0, _, _ => return []
  | budget + 1, verbose, first => do
      let nodes ← sequence budget verbose first []
      if ← accept '|' then
        return nodes :: (← alternatives budget (← verboseAfter verbose first) false)
      else
        return [nodes]

/-- Reads parts up to a bar, a closing parenthesis or the end. `parts` are those read so far, the
    latest first. A group without a number counts as the parts that stand in it. -/
def sequence : Nat → (verbose first : Bool) → List Part → Reader (List Node)
  | 0, _, _, parts => return nodesOf parts
  | budget + 1, verbose, first, parts => do
      match ← peek with
      | none | some (.plain '|') | some (.plain ')') => return nodesOf parts
      | some token =>
          discard next
          if verbose then
            if ← skipLayout token then return ← sequence budget verbose first parts
          match token with
          | .escaped c =>
              let node ← escape c
              let repeatable := if (anchorEscape? c).isSome then .place else .yes
              sequence budget verbose first (⟨node, repeatable⟩ :: parts)
          | .plain '.' => sequence budget verbose first (⟨.one .any, .yes⟩ :: parts)
          | .plain '^' => sequence budget verbose first (⟨.anchor .start, .place⟩ :: parts)
          | .plain '$' => sequence budget verbose first (⟨.anchor .finish, .place⟩ :: parts)
          | .plain '[' => sequence budget verbose first (⟨.one (← charSet), .yes⟩ :: parts)
          | .plain '(' =>
              match ← group budget verbose first parts with
              | some node => sequence budget verbose first (⟨node, .yes⟩ :: parts)
              | none => sequence budget (← verboseAfter verbose first) first parts
          | .plain c =>
              if c ∈ ['?', '*', '+', '\x7b'] then
                sequence budget verbose first (← repetition c parts)
              else
                sequence budget verbose first (⟨.one (.exactly c.toNat), .yes⟩ :: parts)

/-- Reads a group, whose opening parenthesis has been taken. -/
def group : Nat → (verbose first : Bool) → List Part → Reader (Option Node)
  | 0, _, _, _ => return none
  | budget + 1, verbose, first, parts => do
      let start := (← position) - 1
      let body (verbose : Bool) : Reader Node := do
        let nodes ← alternatives budget verbose false
        closeGroup start
        return .ofAlternatives nodes
      match ← groupHead start (first && parts.isEmpty) with
      | .silent => return none
      | .reference node => return some node
      | .plain => return some (← body verbose)
      | .atomic => return some (.atomic (← body verbose))
      | .lookahead negated => return some (.lookahead negated (← body verbose))
      | .lookbehind negated => return some (← lookingBehind negated (body verbose))
      | .flagged on off =>
          let verbose := (verbose || on.contains .verbose) && !off.contains .verbose
          return some (.flagged on off (← body verbose))
      | .numbered name =>
          let index ← openGroup name
          return some (← numberedGroup index (← body verbose))
      | .conditional index =>
          let yes ← sequence budget verbose false []
          let no ← if ← accept '|' then sequence budget verbose false [] else pure []
          if (← peek) = some (.plain '|') then fail .thirdBranch (← position)
          closeGroup start
          return some (.conditional index (.ofParts yes) (.ofParts no))

end

/-- Refuses a pattern as a whole. -/
def failAll {α : Type} (cause : Cause) : Reader α :=
  throw ⟨cause, none⟩

/-- Reads a whole pattern. -/
def pattern : Reader Node := do
  let s ← get
  checkEnd s.size s.rest
  let nodes ← alternatives (3 * s.size + 3) false true
  let s ← get
  if s.flags.contains .ascii && s.flags.contains .unicode then failAll .mixedTypesOfPattern
  if (← peek).isSome then fail .unbalanced (← position)
  if let some (index, start) := s.conditions.find? (fun condition => s.groups < condition.1) then
    fail (.invalidReference index) start
  let root := Node.ofAlternatives nodes
  if let some cause := root.fault? (s.flags.contains .template) then failAll cause
  return root

/-- The start of reading a text. -/
def Reading.atStart (source : String) (characters : List (String × Char)) : Reading :=
  { size := source.toList.length, rest := source.toList, characters }

/-- The pattern that reading a text has come to. -/
def ofReading (source : String) (root : Node) (s : Reading) : Pattern :=
  { source, root, groups := s.groups
    names := s.names.map fun (name, index) => (name.text, index)
    flags := Flags.change {} s.flags [] }

/-- The pattern written by a text, or why the text is none; `characters` are the characters that
    have names. -/
def ofString (source : String) (characters : List (String × Char) := []) :
    Except Error Pattern := do
  let (root, s) ← pattern.run (.atStart source characters)
  return ofReading source root s

variable {source name : String} {index : Nat}

theorem isIdentifier_of_ofReading {root : Node} {s : Reading}
    (named : (ofReading source root s).groupNamed? name = some index) :
    isIdentifier name.toList = true := by
  obtain ⟨before, after, isNames, -⟩ := List.lookup_eq_some_iff.mp named
  have isEntry : (name, index) ∈ (ofReading source root s).names := by
    rw [isNames]
    exact List.mem_append_right _ List.mem_cons_self
  obtain ⟨⟨groupName, _⟩, -, same⟩ := List.mem_map.mp isEntry
  cases same
  exact groupName.isIdentifier

/-- The groups of a pattern that was read are named by identifiers. -/
theorem isIdentifier_of_groupNamed? {characters : List (String × Char)} {pattern : Pattern}
    (isPattern : ofString source characters = .ok pattern)
    (named : pattern.groupNamed? name = some index) : isIdentifier name.toList = true := by
  unfold ofString at isPattern
  cases runs : Pattern.pattern.run (.atStart source characters) with
  | error error =>
    rw [runs] at isPattern
    cases isPattern
  | ok found =>
    rw [runs] at isPattern
    cases isPattern
    exact isIdentifier_of_ofReading named

end HeaderBindings.Pattern
