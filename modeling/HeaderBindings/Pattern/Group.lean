import HeaderBindings.Pattern.Reader
import HeaderBindings.Pattern.Repetition
import HeaderBindings.Template.GroupNumber

/-!
# Groups

Reading how a group is opened: its kind, and with that its name, the flags it turns on or off, or
the group that it asks for.
-/

namespace HeaderBindings.Pattern

open Text Reader

inductive GroupHead where
  | numbered (name : Option GroupName)
  | plain
  | lookahead (negated : Bool)
  | lookbehind (negated : Bool)
  | atomic
  | flagged (on off : List Flag)
  /-- A choice by whether the group of the given number has matched. -/
  | conditional (index : Nat)
  /-- A reference to a group by its name. -/
  | reference (node : Node)
  /-- Nothing that matches: a comment, or the flags of the pattern. -/
  | silent
  deriving Repr

def skipComment (start : Nat) : Nat → Reader Unit
  | 0 => return ()
  | budget + 1 => do
      match ← next with
      | none => fail .unclosedComment start
      | some token => if token = .plain ')' then return () else skipComment start budget

/-! ## Flags -/

/-- The flag that a token is the letter of, the token having been taken. -/
def flagOf (missing : Cause) : Option Token → Reader Flag
  | none => do fail missing (← position)
  | some (.escaped _) => do fail missing ((← position) - 2)
  | some (.plain c) => do
      match Flag.ofLetter? c with
      | some flag => return flag
      | none => fail (if isLetter c then .unknownFlag else missing) ((← position) - 1)

/-- Reads flags up to one of the characters `ends`, which is taken too. The letter of the first flag
    has been taken, and `flags` are those before it; `fault?` says why a flag may not follow
    others, and `missing` is the fault of a token that is no flag and no end. -/
def flagsUntil (ends : List Char) (missing : Cause) (fault? : List Flag → Flag → Option Cause) :
    Nat → List Flag → Flag → Reader (List Flag × Char)
  | 0, flags, _ => return (flags, ')')
  | budget + 1, flags, flag => do
      if let some cause := fault? flags flag then fail cause (← position)
      let token ← next
      if let some (.plain c) := token then
        if ends.contains c then return (flag :: flags, c)
      flagsUntil ends missing fault? budget (flag :: flags) (← flagOf missing token)

def onFault? (flags : List Flag) (flag : Flag) : Option Cause :=
  if flag = .locale then some .localeFlag
  else if flag.isType && flags.any (fun other => other.isType && other ≠ flag) then
    some .mixedTypes
  else none

def offFault? (_ : List Flag) (flag : Flag) : Option Cause :=
  if flag.isType then some .typeTurnedOff else none

/-- Reads the flags of a group or of the pattern, with the letter of the first flag or else the
    minus in front of those that are turned off having been taken. Flags of the pattern are
    accepted when `first` says that nothing stands before them. -/
def flagsHead (start : Nat) (first : Bool) (flag? : Option Flag) : Reader GroupHead := do
  let budget := (← get).rest.length + 1
  let (on, sign) ←
    match flag? with
    | some flag => flagsUntil [')', '-', ':'] .unclosedFlags onFault? budget [] flag
    | none => pure ([], '-')
  if sign = ')' then
    modify fun s => { s with flags := s.flags ++ on }
    unless first do fail .misplacedFlags start
    return .silent
  if on.contains .template then fail .templateTurnedOn ((← position) - 1)
  if sign = ':' then return .flagged on []
  let flag ← flagOf .missingFlag (← next)
  let (off, _) ← flagsUntil [':'] .unclosedOffFlags offFault? budget [] flag
  if off.contains .template then fail .templateTurnedOff ((← position) - 1)
  if on.any off.contains then fail .turnedOnAndOff ((← position) - 1)
  return .flagged on off

/-! ## References to groups -/

/-- The number of the group with a name; the reference begins at `start`. -/
def numberOf (name : GroupName) (start : Nat) : Reader Nat := do
  match (← get).names.lookup name with
  | some index => return index
  | none => fail (.unknownGroup name.text) start

/-- The least number that is too large for a group. -/
def groupLimit : Nat := 1073741823

/-- Reads what a choice asks for, a group by its name or by its number. A group with that number
    may come later. -/
def conditionalHead : Reader GroupHead := do
  let name ← bracketedName ')' .missingName
  let start := (← position) - name.length - 1
  let index ←
    if identifies : isIdentifier (String.ofList name).toList then
      numberOf ⟨String.ofList name, identifies⟩ start
    else
      match Template.writtenNumber? name with
      | none => fail (.badGroupName (String.ofList name)) start
      | some index =>
          if index = 0 then fail .groupZero start
          if groupLimit ≤ index then fail (.invalidReference index) start
          modify fun s => { s with
            conditions :=
              if (s.conditions.lookup index).isSome then s.conditions
              else s.conditions ++ [(index, start)] }
          pure index
  checkBehind index
  return .conditional index

/-! ## Heads -/

/-- The fault of a group head that ends in a text that does not open any group. -/
def unknownHead (text : List Char) : Reader GroupHead := do
  fail (.unknownExtension (String.ofList text)) ((← position) - text.length - 1)

/-- Reads a group head that begins with a question mark and a `P`, both of which have been taken. -/
def namedHead : Reader GroupHead := do
  match ← next with
  | none => fail .unexpectedEnd (← position)
  | some (.plain '<') => return .numbered (some (← groupName '>'))
  | some (.plain '=') =>
      let name ← groupName ')'
      let start := (← position) - name.text.length - 1
      return .reference (← referenceTo (← numberOf name start) start)
  | some token => unknownHead ('P' :: token.text)

/-- Reads the head of a group, whose opening parenthesis at `start` has been taken. Flags of the
    pattern are accepted when `first` says that nothing stands before the group. -/
def groupHead (start : Nat) (first : Bool) : Reader GroupHead := do
  unless ← accept '?' do return .numbered none
  let some token ← next | fail .unexpectedEnd (← position)
  match token with
  | .plain 'P' => namedHead
  | .plain ':' => return .plain
  | .plain '=' => return .lookahead false
  | .plain '!' => return .lookahead true
  | .plain '>' => return .atomic
  | .plain '(' => conditionalHead
  | .plain '-' => flagsHead start first none
  | .plain '#' =>
      skipComment start ((← get).rest.length + 1)
      return .silent
  | .plain '<' =>
      match ← next with
      | none => fail .unexpectedEnd (← position)
      | some (.plain '=') => return .lookbehind false
      | some (.plain '!') => return .lookbehind true
      | some sign => unknownHead ('<' :: sign.text)
  | .plain c =>
      match Flag.ofLetter? c with
      | some flag => flagsHead start first (some flag)
      | none => unknownHead [c]
  | .escaped c => unknownHead ['\\', c]

/-- Opens a group and gives it its number; its name must be new. -/
def openGroup (name : Option GroupName) : Reader Nat := do
  let s ← get
  let index := s.groups + 1
  match name with
  | none => set { s with groups := index }
  | some name =>
      if let some earlier := s.names.lookup name then
        fail (.groupRedefined name.text index earlier) ((← position) - name.text.length - 1)
      set { s with groups := index, names := s.names ++ [(name, index)] }
  return index

/-- Takes the parenthesis that closes the group opened at `start`. -/
def closeGroup (start : Nat) : Reader Unit := do
  unless ← accept ')' do fail .unclosedGroup start

end HeaderBindings.Pattern
