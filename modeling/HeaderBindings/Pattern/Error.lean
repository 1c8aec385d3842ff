import HeaderBindings.Pattern.Basic
import HeaderBindings.Text.Line
import HeaderBindings.Text.Quoted

/-!
# Errors of patterns and replacement templates

Patterns and the templates that replace their matches share one way of reading escapes and names,
and one way of saying where reading failed: the position of the fault, counted in characters from
zero, and its line and column as well when the text has more than one line. A fault that is found
only when the whole pattern has been read has no position.
-/

namespace HeaderBindings.Pattern

/-- Why a pattern or a replacement template cannot be read. -/
inductive Cause where
  | danglingEscape
  | badEscape (text : String)
  | incompleteEscape (text : String)
  | octalTooLarge (text : String)
  | unclosedGroup
  | unbalanced
  | unclosedSet
  | unclosedComment
  /-- A range with its ends in the wrong order, or with a class for an end. -/
  | badRange (low high : String)
  | nothingToRepeat
  | multipleRepeat
  | repeatOrder
  | repeatTooLarge
  /-- A count with more digits than a number is read from. -/
  | repeatNumeral
  | groupRedefined (name : String) (index earlier : Nat)
  | badGroupName (name : String)
  | unknownGroup (name : String)
  /-- A reference to a group from inside it. -/
  | openGroup
  /-- A reference to a group from inside the look back that it is opened in. -/
  | groupBehind
  | groupZero
  | invalidReference (index : Nat)
  | thirdBranch
  | missingBracket
  | missingName
  | missingBrace
  | missingCharacterName
  | unknownCharacter (name : String)
  | unterminatedName (bracket : String)
  /-- The pattern ends inside the head of a group. -/
  | unexpectedEnd
  | unknownExtension (text : String)
  | misplacedFlags
  | unknownFlag
  | missingFlag
  | unclosedFlags
  /-- Flags that are turned off are not ended by a colon. -/
  | unclosedOffFlags
  | localeFlag
  | mixedTypes
  | typeTurnedOff
  | templateTurnedOn
  | templateTurnedOff
  | turnedOnAndOff
  /-- The pattern asks for the characters of ASCII and for all of them. -/
  | mixedTypesOfPattern
  /-- A repetition in a pattern that may have none. -/
  | templateRepeat (greed : Greed)
  | behindTooFar
  /-- A look back that may take more characters or fewer. -/
  | behindUnfixed
  deriving Repr, DecidableEq

def Greed.operator : Greed → String
  | .greedy => "MAX_REPEAT"
  | .lazy => "MIN_REPEAT"
  | .possessive => "POSSESSIVE_REPEAT"

def Cause.message : Cause → String
  | .danglingEscape => "bad escape (end of pattern)"
  | .badEscape text => "bad escape " ++ text
  | .incompleteEscape text => "incomplete escape " ++ text
  | .octalTooLarge text => "octal escape value " ++ text ++ " outside of range 0-0o377"
  | .unclosedGroup => "missing ), unterminated subpattern"
  | .unbalanced => "unbalanced parenthesis"
  | .unclosedSet => "unterminated character set"
  | .unclosedComment => "missing ), unterminated comment"
  | .badRange low high => "bad character range " ++ low ++ "-" ++ high
  | .nothingToRepeat => "nothing to repeat"
  | .multipleRepeat => "multiple repeat"
  | .repeatOrder => "min repeat greater than max repeat"
  | .repeatTooLarge => "the repetition number is too large"
  | .repeatNumeral => "the repetition number has too many digits"
  | .groupRedefined name index earlier =>
      "redefinition of group name " ++ Text.quoted name ++ " as group " ++ toString index ++
        "; was group " ++ toString earlier
  | .badGroupName name => "bad character in group name " ++ Text.quoted name
  | .unknownGroup name => "unknown group name " ++ Text.quoted name
  | .openGroup => "cannot refer to an open group"
  | .groupBehind => "cannot refer to group defined in the same lookbehind subpattern"
  | .groupZero => "bad group number"
  | .invalidReference index => "invalid group reference " ++ toString index
  | .thirdBranch => "conditional backref with more than two branches"
  | .missingBracket => "missing <"
  | .missingName => "missing group name"
  | .missingBrace => "missing \x7b"
  | .missingCharacterName => "missing character name"
  | .unknownCharacter name => "undefined character name " ++ Text.quoted name
  | .unterminatedName bracket => "missing " ++ bracket ++ ", unterminated name"
  | .unexpectedEnd => "unexpected end of pattern"
  | .unknownExtension text => "unknown extension ?" ++ text
  | .misplacedFlags => "global flags not at the start of the expression"
  | .unknownFlag => "unknown flag"
  | .missingFlag => "missing flag"
  | .unclosedFlags => "missing -, : or )"
  | .unclosedOffFlags => "missing :"
  | .localeFlag => "bad inline flags: cannot use 'L' flag with a str pattern"
  | .mixedTypes => "bad inline flags: flags 'a', 'u' and 'L' are incompatible"
  | .typeTurnedOff => "bad inline flags: cannot turn off flags 'a', 'u' and 'L'"
  | .templateTurnedOn => "bad inline flags: cannot turn on global flag"
  | .templateTurnedOff => "bad inline flags: cannot turn off global flag"
  | .turnedOnAndOff => "bad inline flags: flag turned on and off"
  | .mixedTypesOfPattern => "ASCII and UNICODE flags are incompatible"
  | .templateRepeat greed => "internal: unsupported template operator " ++ greed.operator
  | .behindTooFar => "looks too much behind"
  | .behindUnfixed => "look-behind requires fixed-width pattern"

/-- How a fault is taken where a pattern is read as the value of an option. -/
inductive Severity where
  /-- With the words of the fault. -/
  | refused
  /-- As a value that is none. -/
  | invalid
  /-- Not at all. -/
  | unhandled
  deriving Repr, DecidableEq

def Cause.severity : Cause → Severity
  | .repeatNumeral | .mixedTypesOfPattern => .invalid
  | .repeatTooLarge => .unhandled
  | _ => .refused

structure Error where
  cause : Cause
  position : Option Nat
  deriving Repr, DecidableEq

/-- The line and column of a position, both counted from one. -/
def lineAndColumn (source : List Char) (position : Nat) : Nat × Nat :=
  let before := Text.segments (source.take position)
  (before.length, (before.getLastD []).length + 1)

def placeText (source : String) (position : Nat) : String :=
  let place := " at position " ++ toString position
  if source.toList.contains '\n' then
    let (line, column) := lineAndColumn source.toList position
    place ++ " (line " ++ toString line ++ ", column " ++ toString column ++ ")"
  else place

def Error.message (source : String) (error : Error) : String :=
  match error.position with
  | some position => error.cause.message ++ placeText source position
  | none => error.cause.message

end HeaderBindings.Pattern
