import HeaderBindings.Generation
import HeaderBindings.Host.Basic
import HeaderBindings.SearchList

/-!
# Sessions

A run on a host, from the header's file to the written text. A session keeps what it did, whether
it fails or not: what it reported, the compiler runs, the parsed headers, the files and the text on
the standard output.
-/

namespace HeaderBindings

/-- What a session has done. -/
structure Session.State where
  log : List Log.Record := []
  compilerRuns : List (List String) := []
  parses : List (String × List String) := []
  files : FileSystem := {}
  stdout : String := ""
  deriving Repr

/-- A part of a session: it may fail, and in any case it leaves what it did. -/
abbrev Session := ExceptT Failure (StateM Session.State)

namespace Session

def report (records : List Log.Record) : Session Unit :=
  modify fun s => { s with log := s.log ++ records }

def print (text : String) : Session Unit :=
  modify fun s => { s with stdout := s.stdout ++ text }

variable (host : Host)

/-- Ends the session if the host fails in a step. -/
def enter (step : Step) : Session Unit := do
  if let some breakdown := host.breakdown? step then
    report breakdown.reported
    throw (.breakdown breakdown.reason)

/-- Asks the compiler where it looks for headers of the system. A program whose name contains a null
    cannot be asked. -/
def systemPlaces (compiler : String) : Session (List String) := do
  let command := [compiler, "-E", "-xc", "-v", "-"]
  report [⟨.debug, .includes, "Detect system include paths: " ++ " ".intercalate command⟩]
  if compiler.toList.contains '\x00' then throw .nullInPath
  modify fun s => { s with compilerRuns := s.compilerRuns ++ [command] }
  enter host (.stage .searchList)
  match host.compiler with
  | .notStarted reason => throw (.compilerMissing compiler reason)
  | .finished status text =>
      if status ≠ 0 then throw (.compilerFailed compiler text)
      let places ← SearchList.parse text
      report [⟨.info, .includes, "System include paths: " ++ Text.quotedList places⟩]
      return places

def parserArguments (settings : Settings) : Session (List String) := do
  let system ← if settings.detectSystem then systemPlaces host settings.compiler else pure []
  return SearchList.arguments system settings.includePaths

/-- What is reported of a remark of the parser: errors and warnings, with their place. -/
def diagnosticReport (diagnostic : Diagnostic) : List Log.Record :=
  let place := match diagnostic.file.filter (· ≠ "") with
    | some file =>
        file ++ ":" ++ toString diagnostic.line ++ ":" ++ toString diagnostic.column
    | none => "<unknown>"
  let message := "clang: " ++ place ++ ": " ++ diagnostic.spelling
  if diagnostic.severity ≥ 3 then [⟨.error, .headers, message⟩]
  else if diagnostic.severity ≥ 2 then [⟨.warning, .headers, message⟩]
  else []

/-- Parses the header at a path. The parser is used only if the path leads to a file that can be
    read. -/
def parseHeader (path : String) (arguments : List String) : Session Header := do
  enter host (.stage .reading)
  if !host.files.isReadable path then throw (.unreadableHeader path)
  let arguments := "-xc" :: arguments
  report [⟨.debug, .headers, "Parse `" ++ path ++ "` with " ++ Text.quotedList arguments⟩]
  modify fun s => { s with parses := s.parses ++ [(path, arguments)] }
  enter host (.stage .parsing)
  match host.parsing with
  | .failed reason => throw (.unparsedHeader path reason)
  | .parsed graph root diagnostics =>
      report (diagnostics.flatMap diagnosticReport)
      return graph.header root

def loadHeader (settings : Settings) (path : String) : Session Header := do
  parseHeader host path (← parserArguments host settings)

/-- The text of the bindings for a header that has been parsed. -/
def renderBindings (settings : Settings) (header : Header) : Session String := do
  enter host (.stage .export)
  let (outcome, log) := generate settings header CursorGraph.rootPlace
  report log
  outcome

def renderHeader (settings : Settings) (path : String) : Session String := do
  renderBindings host settings (← loadHeader host settings path)

/-- What a stream that refuses text, or takes all of it, has taken. -/
def writeStream (refusal : Option String) (text : String) : Session String :=
  match refusal with
  | some reason => throw (.unwritableStream reason)
  | none => return text

/-- Opens a path and writes a text to it. -/
def writeFile (path text : String) : Session Unit := do
  if path.toList.contains '\x00' then throw .nullInPath
  match (← get).files.opening path with
  | .refused reason => throw (.unwritableFile path reason)
  | .opened location =>
      modify fun s => { s with files := s.files.put location text }
      report [⟨.info, .output, "Wrote " ++ path⟩]

end Session

end HeaderBindings
