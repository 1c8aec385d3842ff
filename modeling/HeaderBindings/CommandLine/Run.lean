import HeaderBindings.CommandLine.Arguments
import HeaderBindings.Session

/-!
# Running a command line

What the program does with a command line on a host. The stages follow each other: the template is
checked, the compiler is asked for its search list, the header is read and parsed, its declarations
are exported, and the text is written. The first stage that fails ends the run, and nothing is
written before all of them have passed.
-/

namespace HeaderBindings.CommandLine

def defaultPattern : String := ".*"

def defaultTemplate : String := "$0"

def defaultVerbosity : String := "off"

/-- Whether a path stands for a file, and not for a standard stream or nothing. -/
def namesFile (path : String) : Bool :=
  path ≠ "" && path ≠ "-"

/-- The name of the library class when none is given: the stem of the input, or else that of the
    output. -/
def defaultClassName? (input : String) (output : Option String) : Option String :=
  (((input :: output.toList).filter namesFile).map Path.stem).find? (· ≠ "")

inductive Exit where
  | status (code : Nat)
  /-- With a failure that it does not handle. -/
  | aborted (failure : Failure)
  deriving Repr, DecidableEq

structure Outcome where
  exit : Exit
  stdout : String := ""
  stderr : String := ""
  session : Session.State
  deriving Repr

def usageStatus : Nat := 2

def refuse (host : Host) (error : UsageError) : Outcome :=
  { exit := .status usageStatus
    stderr := programName ++ ": error: " ++ error.message ++ "\n"
    session := { files := host.files } }

def abort (host : Host) (failure : Failure) : Outcome :=
  { exit := .aborted failure, session := { files := host.files } }

/-- The outcome for a command line that asks for a text only. -/
def tell (host : Host) (text : String) : Outcome :=
  { exit := .status 0, stdout := text, session := { files := host.files } }

def helpText : String :=
  "usage: " ++ programName ++ " " ++
    " ".intercalate (OptionName.all.map fun name =>
      "[" ++ name.title ++ (if name.takesValue then " VALUE]" else "]")) ++ " [input]\n"

/-- The text for an option that the command line gives no text for: from the environment, or else
    the given one. The environment is not asked about an option that is there without a value. -/
def textFor (host : Host) (arguments : Arguments) (name : OptionName) (variableName text : String) :
    String :=
  if name ∈ arguments.valueless then text
  else (host.environmentValue? variableName).getD text

def verbosityOf (host : Host) (arguments : Arguments) : Except Stop Log.Verbosity :=
  match arguments.verbosity with
  | some verbosity => .ok verbosity
  | none => Arguments.verbosityGiven (textFor host arguments .log "LOG" defaultVerbosity)

def patternOf (host : Host) (arguments : Arguments) : Except Stop Pattern :=
  match arguments.pattern with
  | some pattern => .ok pattern
  | none => Arguments.patternGiven host (textFor host arguments .names "MATCH" defaultPattern)

def templateOf (host : Host) (arguments : Arguments) : String :=
  arguments.template.getD (textFor host arguments .replacement "REPLACE" defaultTemplate)

/-- A run that makes bindings. -/
structure Plan where
  settings : Settings
  verbosity : Log.Verbosity
  input : String
  /-- The file to write; without one the text goes to the standard output. -/
  output : Option String
  /-- The options that are there without a value. -/
  valueless : List OptionName := []
  deriving Repr

inductive Request where
  | version
  /-- A run that reports with a verbosity that has no value. -/
  | unreportable
  | bindings (plan : Plan)
  deriving Repr

/-- What a command line that has been read asks for, with its verbosity and its pattern. -/
def requestWith (host : Host) (arguments : Arguments) (verbosity : Log.Verbosity)
    (pattern : Pattern) : Except UsageError Request := do
  if !arguments.extras.isEmpty then throw (.unrecognized arguments.extras)
  if arguments.version then return .version
  if .log ∈ arguments.valueless then return .unreportable
  match arguments.input.filter (· ≠ "") with
  | none => throw .missingInput
  | some input =>
      let given := arguments.className.filter (· ≠ "")
      match given.or (defaultClassName? input arguments.output) with
      | none => throw .missingClassName
      | some className =>
          let settings : Settings :=
            { className := className
              pattern := pattern
              template := templateOf host arguments
              includePaths := arguments.places
              detectSystem := arguments.detectSystem
              compiler := arguments.compiler.getD "clang" }
          return .bindings
            { settings := settings
              verbosity := verbosity
              input := input
              output := arguments.output.filter namesFile
              valueless := arguments.valueless }

/-- What a command line that has been read asks for. Values from the environment are looked at even
    when only the version is asked for. -/
def requestOf (host : Host) (arguments : Arguments) : Except Stop Request := do
  let verbosity ← verbosityOf host arguments
  let pattern ← patternOf host arguments
  (requestWith host arguments verbosity pattern).mapError .usage

namespace Plan

variable (plan : Plan)

/-- The failure of a stage that needs an option without a value. -/
def failureWithout (name : OptionName) : Failure :=
  .valueless name.title

/-- Checks the references of the template. Without a pattern there is no answer to the first. -/
def checkTemplate : Except Failure Unit := do
  let settings := plan.settings
  if .replacement ∈ plan.valueless then throw (failureWithout .replacement)
  if .names ∈ plan.valueless then
    match Template.references (Template.convert settings.template).toList with
    | [] => return ()
    | reference :: _ =>
        discard (Template.defines settings.pattern reference)
        throw (failureWithout .names)
  else discard (Template.compile settings.pattern settings.template)

/-- Whether a header has a child that is exported if its name is in scope. -/
def asksForNames (header : Header) (root : DeclId) : Bool :=
  (header.childrenOf root).any fun id =>
    let decl := header.decl id
    (decl.kind = .function || decl.kind.declaresType) && decl.properName?.isSome

def checkCompiler : Except Failure Unit :=
  if plan.settings.detectSystem && decide (.compiler ∈ plan.valueless) then
    .error (failureWithout .compiler)
  else .ok ()

def checkNames (header : Header) : Except Failure Unit :=
  if .names ∈ plan.valueless && asksForNames header CursorGraph.rootPlace then
    .error (failureWithout .names)
  else .ok ()

/-- Writes the text to the file, or to the standard output. -/
def deliver (host : Host) (text : String) : Session Unit := do
  Session.enter host (.stage .writing)
  match plan.output with
  | some path => Session.writeFile path text
  | none => Session.print text

/-- Makes the bindings for the header and delivers them. -/
def bindings (host : Host) : Session Unit := do
  Session.enter host (.stage .template)
  plan.checkTemplate
  plan.checkCompiler
  let header ← Session.loadHeader host plan.settings plan.input
  plan.checkNames header
  let text ← Session.renderBindings host plan.settings header
  plan.deliver host text

end Plan

def logText (verbosity : Log.Verbosity) (records : List Log.Record) : String :=
  String.join ((Log.select verbosity records).map (· ++ "\n"))

/-- The outcome of a session. A text that cannot be used is not handled, and neither is a failure of
    the host. -/
def outcomeOf (verbosity : Log.Verbosity) (result : Except Failure Unit × Session.State) :
    Outcome :=
  let (ended, session) := result
  let log := logText verbosity session.log
  let outcome (exit : Exit) (error : String) : Outcome :=
    { exit := exit, stdout := session.stdout, stderr := log ++ error, session := session }
  match ended with
  | .ok _ => outcome (.status 0) ""
  | .error failure =>
      match failure.kind with
      | .unusableText => outcome (.aborted failure) ""
      | kind => outcome (.status kind.exitStatus) ("error: " ++ failure.message ++ "\n")

def Stop.outcome (host : Host) : Stop → Outcome
  | .help => tell host helpText
  | .usage error => refuse host error
  | .aborted failure => abort host failure

/-- What the program does with a command line. -/
def run (host : Host) (words : List String) : Outcome :=
  match Arguments.ofWords host words with
  | .error stop => stop.outcome host
  | .ok arguments =>
      match requestOf host arguments with
      | .error stop => stop.outcome host
      | .ok .version => tell host ("Version: " ++ programVersion ++ "\n")
      | .ok .unreportable => abort host (Plan.failureWithout .log)
      | .ok (.bindings plan) =>
          outcomeOf plan.verbosity ((plan.bindings host).run.run { files := host.files })

end HeaderBindings.CommandLine
