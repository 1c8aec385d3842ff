import HeaderBindings.CommandLine.Word

/-!
# Arguments

How the words of a command line are read. Options and the input may stand in any order. A value
follows its option as the next word, or in the same word: after an equals sign, or directly after
an option of one letter. Options of one letter that take no value may share a word.
-/

namespace HeaderBindings.CommandLine

/-- What a command line says. -/
structure Arguments where
  version : Bool := false
  input : Option String := none
  output : Option String := none
  className : Option String := none
  verbosity : Option Log.Verbosity := none
  pattern : Option Pattern := none
  template : Option String := none
  places : List String := []
  detectSystem : Bool := true
  compiler : Option String := none
  /-- The options that need a value and were last given `--` in its place. -/
  valueless : List OptionName := []
  /-- The words that mean nothing. -/
  extras : List String := []
  deriving Repr

/-- Why a command line is read no further. -/
inductive Stop where
  | help
  | usage (error : UsageError)
  /-- A value cannot be read, which the program does not deal with. -/
  | aborted (failure : Failure)
  deriving Repr, DecidableEq

/-- What comes of a value that is refused. -/
def Stop.ofFault (name : OptionName) (fault : ValueFault) : Stop :=
  match fault.unhandled? with
  | some failure => .aborted failure
  | none => .usage (.refusedValue name fault)

namespace Arguments

variable (host : Host)

def verbosityGiven (value : String) : Except Stop Log.Verbosity :=
  (readVerbosity value).mapError (.ofFault .log)

def patternGiven (value : String) : Except Stop Pattern :=
  match host.breakdown? (.pattern value) with
  | some breakdown => .error (.aborted (.breakdown breakdown.reason))
  | none => (readPattern value host.characters).mapError (.ofFault .names)

def setFlag (arguments : Arguments) : OptionName → Except Stop Arguments
  | .help => .error .help
  | .version => .ok { arguments with version := true }
  | .noSystemPlaces => .ok { arguments with detectSystem := false }
  | _ => .ok arguments

/-- Notes the value of an option. Of a repeated option the last value counts, except that places
    add up. -/
def setValue (arguments : Arguments) (name : OptionName) (value : String) :
    Except Stop Arguments :=
  let arguments := { arguments with valueless := arguments.valueless.filter (· ≠ name) }
  match name with
  | .output => .ok { arguments with output := some value }
  | .className => .ok { arguments with className := some value }
  | .log => do return { arguments with verbosity := some (← verbosityGiven value) }
  | .names => do return { arguments with pattern := some (← patternGiven host value) }
  | .replacement => .ok { arguments with template := some value }
  | .place => .ok { arguments with places := arguments.places ++ [value] }
  | .compiler => .ok { arguments with compiler := some value }
  | .help | .version | .noSystemPlaces => .ok arguments

/-- How a place without a value is written. -/
def noPlace : String := "[]"

/-- Notes that an option was given `--` for a value. An output and a class name are then as good as
    not given. -/
def dropValue (arguments : Arguments) : OptionName → Arguments
  | .output => { arguments with output := none }
  | .className => { arguments with className := none }
  | .place => { arguments with places := arguments.places ++ [noPlace] }
  | name => { arguments with valueless := name :: arguments.valueless }

/-- Notes an option that stands alone in its word; its value is the next word, which must be a plain
    one. -/
def takeSeparate (arguments : Arguments) (name : OptionName) (following : List Word) :
    Except Stop (Arguments × List Word) :=
  if name.takesValue then
    match following with
    | .plain value :: rest => do return (← arguments.setValue host name value, rest)
    | _ => .error (.usage (.missingValue name))
  else do return (← arguments.setFlag name, following)

/-- Notes an option with a value in the same word. -/
def takeAttached (arguments : Arguments) (name : OptionName) (value : String)
    (following : List Word) : Except Stop (Arguments × List Word) :=
  if !name.takesValue then .error (.usage (.unexpectedValue name value))
  else if value = "--" && host.dialect = .earlier then .ok (arguments.dropValue name, following)
  else do return (← arguments.setValue host name value, following)

/-- Whether a word can be the value of the option before it. -/
def isPlain : Word → Bool
  | .plain _ => true
  | _ => false

/-- Notes an option of one letter, and the options that follow it in its word as long as they take
    no value. Those noted before are `pending` until it is known that the word can be read. A letter
    that is no option makes the word unreadable, or in the later dialect an extra word of what is
    left of it; there an equals sign separates a letter from its value. -/
def takeLetters (arguments : Arguments) (following : List Word) (pending : List OptionName)
    (name : OptionName) : List Char → Except Stop (Arguments × List Word)
  | [] =>
      if name.takesValue && !following.head?.any isPlain then
        .error (.usage (.missingValue name))
      else do (← pending.foldlM setFlag arguments).takeSeparate host name following
  | letter :: rest =>
      let text := String.ofList (letter :: rest)
      if name.takesValue then do
        (← pending.foldlM setFlag arguments).takeAttached host name text following
      else
        match host.dialect, OptionName.ofLetter? letter, rest with
        | .later, some next, '=' :: value =>
            if next.takesValue then do
              (← (pending ++ [name]).foldlM setFlag arguments).takeAttached host next
                (String.ofList value) following
            else .error (.usage (.unexpectedValue next (String.ofList value)))
        | _, some next, rest => takeLetters arguments following (pending ++ [name]) next rest
        | .earlier, none, _ => .error (.usage (.unexpectedValue name text))
        | .later, none, _ =>
            if letter = '-' then .error (.usage (.unexpectedValue name text))
            else do
              let arguments ← (pending ++ [name]).foldlM setFlag arguments
              return ({ arguments with extras := arguments.extras ++ ["-" ++ text] }, following)

def wordText : Word → String
  | .plain text => text
  | _ => "--"

/-- Notes the words after the last option: the input, if it is not known yet, and extra words. A
    separator directly before or after the input is dropped. -/
def takeRest (arguments : Arguments) (taken : Bool) (words : List Word) : Arguments :=
  if taken then { arguments with extras := arguments.extras ++ words.map wordText }
  else
    match words with
    | [] => arguments
    | .separator :: .plain text :: rest | .plain text :: .separator :: rest
    | .plain text :: rest =>
        { arguments with
          input := some text
          extras := arguments.extras ++ rest.map wordText }
    | _ :: rest => { arguments with extras := arguments.extras ++ rest.map wordText }

def isOption : Word → Bool
  | .plain _ | .separator => false
  | _ => true

/-- Notes words up to the last option and then the rest. `taken` says whether the input is known.
    Every step takes a word, so the number of words is budget enough. -/
def takeWords : Nat → (taken : Bool) → Arguments → List Word → Except Stop Arguments
  | 0, _, arguments, _ => .ok arguments
  | budget + 1, taken, arguments, words =>
      if words.any isOption then
        match words with
        | .option name none :: rest => do
            let (arguments, rest) ← arguments.takeSeparate host name rest
            takeWords budget taken arguments rest
        | .option name (some value) :: rest => do
            let (arguments, rest) ← arguments.takeAttached host name value rest
            takeWords budget taken arguments rest
        | .letters name text :: rest => do
            let (arguments, rest) ← arguments.takeLetters host rest [] name text.toList
            takeWords budget taken arguments rest
        | .unknown text :: rest =>
            takeWords budget taken { arguments with extras := arguments.extras ++ [text] } rest
        | word :: rest =>
            if taken then
              takeWords budget true
                { arguments with extras := arguments.extras ++ [wordText word] } rest
            else takeWords budget true { arguments with input := some (wordText word) } rest
        | [] => .ok arguments
      else .ok (arguments.takeRest taken words)

def ofWords (words : List String) : Except Stop Arguments :=
  match readWords host.dialect words with
  | .error error => .error (.usage error)
  | .ok read => takeWords host (read.length + 1) false {} read

end Arguments

end HeaderBindings.CommandLine
