import HeaderBindings.Pattern.Match
import HeaderBindings.Pattern.Escape
import HeaderBindings.Template.GroupNumber

/-!
# Replacement templates

A template is read as a list of pieces, characters and groups, before the first match is looked
for; so a template that has no meaning fails for every name. A backslash begins a reference to a
group, an octal escape or a control character; in front of a character that is no ASCII letter or
digit it stands for itself.
-/

namespace HeaderBindings.Template

open Text Pattern

inductive Piece where
  | char (c : Char)
  | group (index : Nat)
  deriving Repr, DecidableEq

/-- The text up to a closing bracket, and what follows the bracket. A backslash takes the character
    after it along. -/
def untilBracket : List Char → Except Cause (List Char × List Char)
  | [] => .error (.unterminatedName ">")
  | ['\\'] => .error .danglingEscape
  | '\\' :: c :: rest => do
      let (name, after) ← untilBracket rest
      return ('\\' :: c :: name, after)
  | c :: rest =>
      if c = '>' then .ok ([], rest)
      else do
        let (name, after) ← untilBracket rest
        return (c :: name, after)

/-- The number of the group that a reference in brackets names, in a template of the given size.
    `start` is the position of the name. -/
def groupNumber (pattern : Pattern) (start : Nat) (name : List Char) : Except Error Nat :=
  if isIdentifier name then
    match pattern.groupNamed? (String.ofList name) with
    | some index => .ok index
    | none => .error ⟨.unknownGroup (String.ofList name), start⟩
  else
    match writtenNumber? name with
    | some index =>
        if index ≤ pattern.groups then .ok index else .error ⟨.invalidReference index, start⟩
    | none => .error ⟨.badGroupName (String.ofList name), start⟩

/-- Reads a reference in brackets, of which `\g` has been taken. -/
def bracketReference (pattern : Pattern) (size : Nat) :
    List Char → Except Error (Piece × List Char)
  | '<' :: inner => do
      checkEnd size inner
      let start := size - inner.length
      match untilBracket inner with
      | .ok (name, after) =>
          checkEnd size after
          if name.isEmpty then .error ⟨.missingName, start⟩
          else return (.group (← groupNumber pattern start name), after)
      | .error .danglingEscape => .error ⟨.danglingEscape, some (size - 1)⟩
      | .error cause => .error ⟨if inner.isEmpty then .missingName else cause, start⟩
  | rest => .error ⟨.missingBracket, some (size - rest.length)⟩

/-- Reads a group number or an octal escape, of which the first digit, which is not zero, has been
    taken. -/
def digitReference (pattern : Pattern) (size : Nat) (first : Char) (rest : List Char) :
    Except Error (Piece × List Char) :=
  let byNumber (digits after : List Char) : Except Error (Piece × List Char) :=
    let index := numberIn 10 digits
    if index ≤ pattern.groups then .ok (.group index, after)
    else .error ⟨.invalidReference index, some (size - after.length - digits.length)⟩
  match rest with
  | second :: after =>
      if isAsciiDigit second then do
        checkEnd size after
        match after with
        | third :: last =>
            if isOctalDigit first && isOctalDigit second && isOctalDigit third then
              checkEnd size last
              let digits := [first, second, third]
              let code := numberIn 8 digits
              if code > 0o377 then
                .error ⟨.octalTooLarge (String.ofList ('\\' :: digits)),
                  some (size - last.length - 4)⟩
              else return (.char (Char.ofNat code), last)
            else byNumber [first, second] after
        | [] => byNumber [first, second] after
      else byNumber [first] rest
  | [] => byNumber [first] rest

/-- Reads what stands after a backslash, whose following character has been taken. -/
def escapePieces (pattern : Pattern) (size : Nat) (c : Char) (rest : List Char) :
    Except Error (List Piece × List Char) :=
  if c = 'g' then do
    let (piece, after) ← bracketReference pattern size rest
    return ([piece], after)
  else if c = '0' then do
    let digits := (rest.take 2).takeWhile isOctalDigit
    let after := rest.drop digits.length
    checkEnd size after
    return ([.char (Char.ofNat (numberIn 8 digits))], after)
  else if isAsciiDigit c then do
    let (piece, after) ← digitReference pattern size c rest
    return ([piece], after)
  else
    match controlEscape? c with
    | some control => .ok ([.char control], rest)
    | none =>
        if isAsciiLetter c then
          .error ⟨.badEscape (String.ofList ['\\', c]), some (size - rest.length - 2)⟩
        else .ok ([.char '\\', .char c], rest)

/-- Reads the pieces of a template of the given size. Every piece takes at least one character, so
    the number of characters is budget enough. -/
def piecesFrom (pattern : Pattern) (size : Nat) : Nat → List Char → Except Error (List Piece)
  | 0, _ => .ok []
  | _ + 1, [] => .ok []
  | budget + 1, '\\' :: c :: rest => do
      checkEnd size rest
      let (pieces, after) ← escapePieces pattern size c rest
      return pieces ++ (← piecesFrom pattern size budget after)
  | budget + 1, c :: rest => do
      checkEnd size rest
      return .char c :: (← piecesFrom pattern size budget rest)

def pieces (pattern : Pattern) (template : List Char) : Except Error (List Piece) := do
  checkEnd template.length template
  piecesFrom pattern template.length template.length template

def Piece.text (found : Match) : Piece → List Char
  | .char c => [c]
  | .group index => found.groupText index

def expand (found : Match) (pieces : List Piece) : List Char :=
  pieces.flatMap (·.text found)

/-- A text with the leftmost match of a pattern replaced, and no other. -/
def replaceFirst (pattern : Pattern) (pieces : List Piece) (text : List Char) : List Char :=
  match search? pattern text with
  | none => text
  | some found => found.before ++ expand found pieces ++ found.after

end HeaderBindings.Template
