import HeaderBindings.CommandLine.Value

/-!
# Options

The options of the command line, how they are written, and why a command line is refused.
-/

namespace HeaderBindings.CommandLine

inductive OptionName where
  | help
  | version
  | output
  | className
  | log
  | names
  | replacement
  | place
  | noSystemPlaces
  | compiler
  deriving Repr, DecidableEq

namespace OptionName

/-- How an option is written, the short form before the long one. -/
def spellings : OptionName → List String
  | .help => ["-h", "--help"]
  | .version => ["-V", "--version"]
  | .output => ["-o", "--output"]
  | .className => ["-c", "--class"]
  | .log => ["-l", "--log"]
  | .names => ["-m", "--match"]
  | .replacement => ["-r", "--replace"]
  | .place => ["-I", "--include"]
  | .noSystemPlaces => ["--no-system-includes"]
  | .compiler => ["--clang"]

def takesValue : OptionName → Bool
  | .help | .version | .noSystemPlaces => false
  | _ => true

/-- The options in the order in which they are listed. -/
def all : List OptionName :=
  [.help, .version, .output, .className, .log, .names, .replacement, .place, .noSystemPlaces,
   .compiler]

def writings : List (String × OptionName) :=
  all.flatMap fun name => name.spellings.map fun spelling => (spelling, name)

def ofSpelling? (spelling : String) : Option OptionName :=
  writings.lookup spelling

def ofLetter? (letter : Char) : Option OptionName :=
  ofSpelling? (String.ofList ['-', letter])

/-- How an option is called in messages. -/
def title (name : OptionName) : String :=
  "/".intercalate name.spellings

end OptionName

inductive UsageError where
  /-- A shortened option may mean several options. -/
  | ambiguous (word : String) (candidates : List String)
  | missingValue (name : OptionName)
  | unexpectedValue (name : OptionName) (value : String)
  | refusedValue (name : OptionName) (fault : ValueFault)
  | unrecognized (words : List String)
  | missingInput
  | missingClassName
  deriving Repr, DecidableEq

def UsageError.message : UsageError → String
  | .ambiguous word candidates =>
      "ambiguous option: " ++ word ++ " could match " ++ ", ".intercalate candidates
  | .missingValue name => "argument " ++ name.title ++ ": expected one argument"
  | .unexpectedValue name value =>
      "argument " ++ name.title ++ ": ignored explicit argument " ++ Text.quoted value
  | .refusedValue name fault => "argument " ++ name.title ++ ": " ++ fault.message
  | .unrecognized words => "unrecognized arguments: " ++ " ".intercalate words
  | .missingInput => "missing input C header"
  | .missingClassName => "missing library class name"

end HeaderBindings.CommandLine
