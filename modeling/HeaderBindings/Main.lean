import HeaderBindings.CommandLine.Run

/-!
# The program

The command line on a real host. Whether the input can be read and what the environment says is
asked of the system. Neither a compiler nor a parser of C is linked to the program, nor a table of
the names of characters: a run ends where it would need one, and so no run comes to write a file.
-/

namespace HeaderBindings

/-- The host of a run that no other program is linked to. -/
def Host.alone (environment : List (String × String)) (readable : List String) : Host :=
  { files := FileSystem.ofPaths (readable.map (·, "")) []
    environment := environment
    compiler := .notStarted "no compiler is linked"
    parsing := .failed "no parser of C is linked" }

namespace CommandLine

def environmentNames : List String := ["LOG", "MATCH", "REPLACE"]

def isReadable (path : String) : IO Bool := do
  try
    discard (IO.FS.readBinFile path)
    return true
  catch _ => return false

/-- The input that a command line names, if it can be read. -/
def readableInput (words : List String) : IO (List String) :=
  match Arguments.ofWords (.alone [] []) words with
  | .ok { input := some path, .. } => do return if ← isReadable path then [path] else []
  | _ => return []

def Exit.code : Exit → Nat
  | .status code => code
  | .aborted failure => failure.kind.exitStatus

/-- What the program writes to the standard error: its reports, and a failure that it does not
    handle. -/
def Outcome.errorText (outcome : Outcome) : String :=
  outcome.stderr ++ match outcome.exit with
    | .status _ => ""
    | .aborted failure => failure.message ++ "\n"

end CommandLine

end HeaderBindings

open HeaderBindings HeaderBindings.CommandLine in
def main (words : List String) : IO UInt32 := do
  let environment ← environmentNames.filterMapM fun name => do
    return (← IO.getEnv name).map (name, ·)
  let outcome := run (Host.alone environment (← readableInput words)) words
  IO.print outcome.stdout
  IO.eprint outcome.errorText
  return outcome.exit.code.toUInt32
