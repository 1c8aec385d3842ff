import HeaderBindings.Text.Blank
import HeaderBindings.Text.LowerCase

/-!
# Log records

What a run reports about itself. Every record has a level and comes from one of the program's
channels; a reader asks for the records at or above a level, or for none.
-/

namespace HeaderBindings.Log

inductive Level where
  | debug
  | info
  | warning
  | error
  deriving Repr, DecidableEq

def Level.rank : Level → Nat
  | .debug => 10
  | .info => 20
  | .warning => 30
  | .error => 40

def Level.name : Level → String
  | .debug => "DEBUG"
  | .info => "INFO"
  | .warning => "WARNING"
  | .error => "ERROR"

/-- The part of the program that a record comes from. -/
inductive Channel where
  | headers
  | includes
  | types
  | declarations
  | output
  deriving Repr, DecidableEq

def Channel.name : Channel → String
  | .headers => "c4dart.clang_ast"
  | .includes => "c4dart.includes"
  | .types => "c4dart.resolver"
  | .declarations => "c4dart.translator"
  | .output => "c4dart.generator"

structure Record where
  level : Level
  channel : Channel
  message : String
  deriving Repr, DecidableEq

def Record.line (record : Record) : String :=
  record.level.name ++ " " ++ record.channel.name ++ ": " ++ record.message

/-- Which records are wanted. -/
inductive Verbosity where
  | off
  | atLeast (level : Level)
  deriving Repr, DecidableEq

def Verbosity.rank : Verbosity → Nat
  | .off => 51
  | .atLeast level => level.rank

def Verbosity.wants (verbosity : Verbosity) (record : Record) : Bool :=
  verbosity.rank ≤ record.level.rank

def verbosityNames : List (String × Verbosity) :=
  [("off", .off), ("error", .atLeast .error), ("warn", .atLeast .warning),
   ("warning", .atLeast .warning), ("info", .atLeast .info), ("debug", .atLeast .debug),
   ("trace", .atLeast .debug)]

/-- The verbosity with a name; case and blanks around the name do not matter. -/
def Verbosity.ofName? (name : String) : Option Verbosity :=
  verbosityNames.lookup (String.ofList (Text.lower (Text.trim name.toList)))

def select (verbosity : Verbosity) (records : List Record) : List String :=
  (records.filter verbosity.wants).map (·.line)

end HeaderBindings.Log
