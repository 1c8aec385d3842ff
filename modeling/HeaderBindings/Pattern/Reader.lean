import HeaderBindings.Pattern.Error
import HeaderBindings.Text.Identifier

/-!
# Reading by tokens

A pattern is read token by token; a token is a character, or a backslash and the character after
it. Reading a token looks at the next one already, so a backslash that ends the pattern is found
before any fault of the token in front of it.
-/

namespace HeaderBindings.Pattern

open Text

/-- The name of a group. -/
structure GroupName where
  text : String
  isIdentifier : isIdentifier text.toList = true
  deriving Repr, DecidableEq

/-- The part of a pattern that reading has come to, and what has been met so far. -/
structure Reading where
  /-- The number of characters of the whole pattern. -/
  size : Nat
  rest : List Char
  /-- The characters that can be written by their names. -/
  characters : List (String × Char) := []
  groups : Nat := 0
  names : List (GroupName × Nat) := []
  /-- How many characters the groups take, for those that have been closed. -/
  widths : List (Nat × Width) := []
  /-- The number of groups in front of the outermost look back that reading is inside. -/
  behind : Option Nat := none
  /-- The groups that conditions ask for by number, each with the position of the first number. -/
  conditions : List (Nat × Nat) := []
  /-- The flags of the whole pattern. -/
  flags : List Flag := []
  deriving Repr

/-- A step of reading. -/
abbrev Reader := StateT Reading (Except Error)

/-- What can be read at once. -/
inductive Token where
  | plain (c : Char)
  | escaped (c : Char)
  deriving Repr, DecidableEq

def Token.text : Token → List Char
  | .plain c => [c]
  | .escaped c => ['\\', c]

/-- The token at the start of a text, and what follows it. -/
def Token.ofText? : List Char → Option (Token × List Char)
  | '\\' :: c :: rest => some (.escaped c, rest)
  | c :: rest => some (.plain c, rest)
  | [] => none

/-- Refuses a text that consists of one backslash and ends a text of the given size. -/
def checkEnd (size : Nat) (rest : List Char) : Except Error Unit :=
  if rest = ['\\'] then .error ⟨.danglingEscape, some (size - 1)⟩ else .ok ()

namespace Reader

def position : Reader Nat := do
  let s ← get
  return s.size - s.rest.length

def fail {α : Type} (cause : Cause) (position : Nat) : Reader α :=
  throw ⟨cause, some position⟩

/-- The next token, which is not taken. -/
def peek : Reader (Option Token) := do
  return (Token.ofText? (← get).rest).map (·.1)

def next : Reader (Option Token) := do
  let s ← get
  match Token.ofText? s.rest with
  | none => return none
  | some (token, rest) =>
      checkEnd s.size rest
      set { s with rest := rest }
      return some token

/-- Takes the next token if it is the given character. -/
def accept (c : Char) : Reader Bool := do
  if (← peek) = some (.plain c) then
    discard next
    return true
  else
    return false

/-- Takes up to `limit` characters that pass a test. -/
def takeUpTo (test : Char → Bool) : Nat → Reader (List Char)
  | 0 => return []
  | limit + 1 => do
      match ← peek with
      | some (.plain c) =>
          if test c then
            discard next
            return c :: (← takeUpTo test limit)
          else
            return []
      | _ => return []

/-- Takes everything up to a closing bracket and the bracket itself, as a name; `missing` is the
    fault of an empty name, and `taken` is what has been taken so far. -/
def nameUntil (bracket : Char) (missing : Cause) : Nat → List Char → Reader (List Char)
  | 0, taken => return taken
  | budget + 1, taken => do
      match ← next with
      | none =>
          if taken.isEmpty then fail missing (← position)
          else fail (.unterminatedName (String.ofList [bracket])) ((← position) - taken.length)
      | some token =>
          if token = .plain bracket then
            if taken.isEmpty then fail missing ((← position) - 1)
            return taken
          else
            nameUntil bracket missing budget (taken ++ token.text)

def bracketedName (bracket : Char) (missing : Cause) : Reader (List Char) := do
  nameUntil bracket missing ((← get).rest.length + 1) []

/-- Takes the name of a group, which must be an identifier. -/
def groupName (bracket : Char) : Reader GroupName := do
  let name ← bracketedName bracket .missingName
  if identifies : isIdentifier (String.ofList name).toList then
    return ⟨String.ofList name, identifies⟩
  else
    fail (.badGroupName (String.ofList name)) ((← position) - name.length - 1)

end Reader

end HeaderBindings.Pattern
