import HeaderBindings.Pattern.Basic
import HeaderBindings.Pattern.Reader

/-!
# Escapes

What a backslash and the character after it stand for. A letter stands for a control character, a
class of characters or a place; `x`, `u` and `U` begin a code point in hexadecimal digits, and `N`
the name of a character; digits are an octal code or the number of a group; any other character
stands for itself. Inside a set there are no places and no groups.
-/

namespace HeaderBindings.Pattern

open Text Reader

def isAsciiLetter (c : Char) : Bool :=
  ('a' ≤ c && c ≤ 'z') || ('A' ≤ c && c ≤ 'Z')

def isAsciiDigit (c : Char) : Bool :=
  '0' ≤ c && c ≤ '9'

def isOctalDigit (c : Char) : Bool :=
  '0' ≤ c && c ≤ '7'

def hexValue? (c : Char) : Option Nat :=
  if '0' ≤ c && c ≤ '9' then some (c.toNat - 48)
  else if 'a' ≤ c && c ≤ 'f' then some (c.toNat - 87)
  else if 'A' ≤ c && c ≤ 'F' then some (c.toNat - 55)
  else none

/-- The number written by digits in a base, the most significant first. -/
def numberIn (base : Nat) (digits : List Char) : Nat :=
  digits.foldl (fun sum c => sum * base + (hexValue? c).getD 0) 0

/-- The control characters that have a letter for an escape; a backslash stands for itself. -/
def controlEscape? : Char → Option Char
  | 'a' => some '\x07'
  | 'b' => some '\x08'
  | 'f' => some '\x0c'
  | 'n' => some '\n'
  | 'r' => some '\r'
  | 't' => some '\t'
  | 'v' => some '\x0b'
  | '\\' => some '\\'
  | _ => none

def classEscape? : Char → Option SetItem
  | 'd' => some (.charClass .digit false)
  | 'D' => some (.charClass .digit true)
  | 's' => some (.charClass .space false)
  | 'S' => some (.charClass .space true)
  | 'w' => some (.charClass .word false)
  | 'W' => some (.charClass .word true)
  | _ => none

def anchorEscape? : Char → Option Anchor
  | 'A' => some .textStart
  | 'Z' => some .textEnd
  | 'b' => some .wordEdge
  | 'B' => some .noWordEdge
  | _ => none

/-- The code point of a hexadecimal escape with the given number of digits, whose letter has been
    taken. -/
def hexEscape (letter : Char) (width : Nat) : Reader Nat := do
  let digits ← takeUpTo (fun c => (hexValue? c).isSome) width
  let text := '\\' :: letter :: digits
  let start := (← position) - text.length
  if digits.length < width then fail (.incompleteEscape (String.ofList text)) start
  let code := numberIn 16 digits
  if code > 0x10FFFF then fail (.badEscape (String.ofList text)) start
  return code

/-- The code point of a character that is written by its name. -/
def namedCharacter : Reader Nat := do
  unless ← accept '\x7b' do fail .missingBrace (← position)
  let name ← bracketedName '\x7d' .missingCharacterName
  match (← get).characters.lookup (String.ofList name) with
  | some c => return c.toNat
  | none => fail (.unknownCharacter (String.ofList name)) ((← position) - name.length - 4)

/-- The code point of an escape that is read in the same way inside and outside a set: a
    hexadecimal escape, a name, or a character that is no ASCII letter or digit. -/
def commonEscape (c : Char) : Reader Nat := do
  match c with
  | 'x' => hexEscape c 2
  | 'u' => hexEscape c 4
  | 'U' => hexEscape c 8
  | 'N' => namedCharacter
  | _ =>
      if isAsciiLetter c || isAsciiDigit c then
        fail (.badEscape (String.ofList ['\\', c])) ((← position) - 2)
      return c.toNat

def octalCode (digits : List Char) : Reader Nat := do
  let code := numberIn 8 digits
  if code > 0o377 then
    fail (.octalTooLarge (String.ofList ('\\' :: digits))) ((← position) - digits.length - 1)
  return code

/-- Inside a look back there are references only to the groups that were closed in front of it. -/
def checkBehind (index : Nat) : Reader Unit := do
  let s ← get
  if let some before := s.behind then
    if (s.widths.lookup index).isNone then fail .openGroup (← position)
    if before < index then fail .groupBehind (← position)

/-- What refers to a group that has been opened; the reference begins at `start`. -/
def referenceTo (index start : Nat) : Reader Node := do
  if ((← get).widths.lookup index).isNone then fail .openGroup start
  checkBehind index
  return .backreference index

/-- Reads a reference to a group by its number, or an octal escape of three digits, whose first
    digit has been taken. -/
def numericEscape (first : Char) : Reader Node := do
  let second ← takeUpTo isAsciiDigit 1
  let digits := first :: second
  if second.length = 1 && digits.all isOctalDigit then
    let third ← takeUpTo isOctalDigit 1
    if third.length = 1 then
      return .one (.exactly (← octalCode (digits ++ third)))
  let index := numberIn 10 digits
  if index ≤ (← get).groups then
    referenceTo index ((← position) - digits.length - 1)
  else
    fail (.invalidReference index) ((← position) - digits.length)

/-- Reads an escape outside a set, whose token has been taken. -/
def escape (c : Char) : Reader Node := do
  if let some item := classEscape? c then return .one (.set false [item])
  if let some anchor := anchorEscape? c then return .anchor anchor
  if let some control := controlEscape? c then return .one (.exactly control.toNat)
  if c = '0' then
    return .one (.exactly (numberIn 8 (← takeUpTo isOctalDigit 2)))
  if isAsciiDigit c then
    numericEscape c
  else
    return .one (.exactly (← commonEscape c))

def setEscape (c : Char) : Reader SetItem := do
  if let some control := controlEscape? c then return .single control.toNat
  if let some item := classEscape? c then return item
  let code ←
    if isOctalDigit c then do
      octalCode (c :: (← takeUpTo isOctalDigit 2))
    else commonEscape c
  return .single code

end HeaderBindings.Pattern
