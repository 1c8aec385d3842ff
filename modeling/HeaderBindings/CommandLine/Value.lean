import HeaderBindings.Failure
import HeaderBindings.Log
import HeaderBindings.Pattern.Parser

/-!
# Values of options

Options whose values are more than text: a verbosity and a pattern for names.
-/

namespace HeaderBindings.CommandLine

inductive ValueFault where
  | unknownVerbosity (value : String)
  | badPattern (value : String) (error : Pattern.Error)
  deriving Repr, DecidableEq

def ValueFault.message : ValueFault → String
  | .unknownVerbosity value =>
      "unknown log level: " ++ Text.quoted value ++ " (choose from " ++
        ", ".intercalate (Log.verbosityNames.map (·.1)) ++ ")"
  | .badPattern value error =>
      match error.cause.severity with
      | .refused => "invalid name pattern " ++ Text.quoted value ++ ": " ++ error.message value
      | .invalid => "invalid name_pattern value: " ++ Text.quoted value
      | .unhandled => error.cause.message

/-- The failure behind a fault that reading an option does not deal with. -/
def ValueFault.unhandled? : ValueFault → Option Failure
  | .unknownVerbosity _ => none
  | .badPattern _ error =>
      if error.cause.severity = .unhandled then some (.oversizedPattern error.cause) else none

def readVerbosity (value : String) : Except ValueFault Log.Verbosity :=
  match Log.Verbosity.ofName? value with
  | some verbosity => .ok verbosity
  | none => .error (.unknownVerbosity value)

def readPattern (value : String) (characters : List (String × Char) := []) :
    Except ValueFault Pattern :=
  match Pattern.ofString value characters with
  | .ok pattern => .ok pattern
  | .error error => .error (.badPattern value error)

end HeaderBindings.CommandLine
