import HeaderBindings.Cursor.Declarations
import HeaderBindings.Host.FileSystem
import HeaderBindings.Log

/-!
# The host of a run

What a run finds around it: files, environment variables, a compiler and a parser of C headers. The
compiler and the parser are known by what comes of using them. A host also has its ways to fail that
no part of the program deals with, and it may read the words of a command line in one of two ways.
The standard streams take every text.
-/

namespace HeaderBindings

/-- What comes of running the compiler. -/
inductive CompilerRun where
  | notStarted (reason : String)
  | finished (status : Int) (report : String)
  deriving Repr

/-- A remark of the parser about a header. -/
structure Diagnostic where
  /-- How grave it is: two for warnings, and more for errors. -/
  severity : Int
  spelling : String
  file : Option String := none
  line : Int := 0
  column : Int := 0
  deriving Repr

/-- What comes of parsing a header. -/
inductive Parsing where
  | failed (reason : String)
  | parsed (graph : CursorGraph) (root : CursorId) (diagnostics : List Diagnostic)
  deriving Repr

/-- The stages of a run that makes bindings. -/
inductive Stage where
  | template
  /-- The compiler is asked where it looks for headers of the system. -/
  | searchList
  /-- The header is looked for. -/
  | reading
  | parsing
  /-- The declarations of the header are exported. -/
  | export
  | writing
  deriving Repr, DecidableEq

/-- The steps of a run in which a host may fail. -/
inductive Step where
  /-- A pattern is read. -/
  | pattern (source : String)
  | stage (stage : Stage)
  deriving Repr, DecidableEq

/-- A failure of the host that the program does not deal with: there is no more space for nested
    calls or in memory, or bytes of the compiler or of a header are no text. -/
structure Breakdown where
  reason : String
  /-- What the step had reported when the host failed, beyond what it reports in any case. -/
  reported : List Log.Record := []
  deriving Repr

/-- A way to read the words of a command line. In the earlier one, the text `--` in the same word as
    its option is no value, and letters may follow an equals sign after a letter without a value. -/
inductive Dialect where
  | earlier
  | later
  deriving Repr, DecidableEq

/-- The surroundings of a run. -/
structure Host where
  files : FileSystem := {}
  environment : List (String × String) := []
  /-- The characters that a pattern may write by their names. -/
  characters : List (String × Char) := []
  compiler : CompilerRun
  parsing : Parsing
  breakdowns : List (Step × Breakdown) := []
  dialect : Dialect := .earlier
  deriving Repr

namespace Host

def environmentValue? (host : Host) (name : String) : Option String :=
  host.environment.lookup name

def breakdown? (host : Host) (step : Step) : Option Breakdown :=
  host.breakdowns.lookup step

end Host

/-- Where the parser's library is looked for. -/
inductive ParserLibrary where
  | file (path : String)
  | directory (path : String)
  | anywhere
  deriving Repr, DecidableEq

/-- The place of the parser's library, as the environment gives it. A file goes before a
    directory, and what does not exist is passed over. -/
def Host.parserLibrary (host : Host) : ParserLibrary :=
  let given (name : String) (test : String → Bool) : Option String :=
    (host.environmentValue? name).filter fun path => path ≠ "" && test path
  match given "LIBCLANG_FILE" fun path => host.files.isFile path || host.files.isDirectory path with
  | some path => .file path
  | none =>
      match given "LIBCLANG_PATH" host.files.isDirectory with
      | some path => .directory path
      | none => .anywhere

end HeaderBindings
