import HeaderBindings.CommandLine.Option
import HeaderBindings.Host.Basic
import HeaderBindings.Text.Digit

/-!
# Words of a command line

The role of each word of a command line: an option, plain text, or the word `--`, after which every
word is plain. A long option may be shortened as long as only one option begins so. A word that
looks like an option and is none is plain if it is a negative number or holds a space.
-/

namespace HeaderBindings.CommandLine

inductive Word where
  | plain (text : String)
  /-- The first word `--`. -/
  | separator
  | option (name : OptionName) (value : Option String)
  /-- An option of one letter and the text that follows it in its word, which is its value or more
      letters. -/
  | letters (name : OptionName) (text : String)
  /-- A word that looks like an option and is none. -/
  | unknown (text : String)
  deriving Repr, DecidableEq

/-- Whether a word is a negative number: a minus sign with digits, or with digits and a point before
    more digits; a line feed may follow. -/
def isNegativeNumber : List Char → Bool
  | '-' :: digits =>
      let body := if digits.getLast? = some '\n' then digits.dropLast else digits
      match body.dropWhile Text.isDecimal with
      | [] => !body.isEmpty
      | '.' :: fraction => !fraction.isEmpty && fraction.all Text.isDecimal
      | _ => false
  | _ => false

/-- The role of a word that begins with a dash and is the beginning of no option. -/
def fallbackWord (text : String) : Word :=
  if isNegativeNumber text.toList || text.toList.contains ' ' then .plain text
  else .unknown text

/-- The role of an option that is written in full, with a value after an equals sign. What follows
    the first dash is `letters`. In the earlier dialect the equals sign makes no difference after an
    option of one letter. -/
def exactWord (dialect : Dialect) (name : OptionName) (letters : List Char)
    (value : Option String) : Word :=
  match dialect, letters, value with
  | .later, _, _ | _, '-' :: _, _ | _, _, none | _, _, some "" => .option name value
  | _, _, some text => .letters name text

/-- The text before the first equals sign of a word, and the text after it if there is one. -/
def splitEquals (chars : List Char) : List Char × Option String :=
  match chars.dropWhile (· ≠ '=') with
  | _ :: value => (chars.takeWhile (· ≠ '='), some (String.ofList value))
  | [] => (chars, none)

/-- The role of a word that is not `--`. -/
def readWord (dialect : Dialect) (text : String) : Except UsageError Word :=
  match text.toList with
  | '-' :: letters =>
      let (front, value) := splitEquals letters
      let spelling := String.ofList ('-' :: front)
      match OptionName.ofSpelling? text, OptionName.ofSpelling? spelling with
      | some name, _ => .ok (exactWord dialect name letters none)
      | none, some name => .ok (exactWord dialect name front value)
      | none, none =>
          match letters with
          | [] => .ok (.plain text)
          | '-' :: _ =>
              let candidates :=
                OptionName.writings.filter fun (written, _) =>
                  ('-' :: front).isPrefixOf written.toList
              match candidates with
              | [] => .ok (fallbackWord text)
              | [(_, name)] => .ok (.option name value)
              | _ => .error (.ambiguous text (candidates.map (·.1)))
          | letter :: rest =>
              match OptionName.ofLetter? letter with
              | some name => .ok (.letters name (String.ofList rest))
              | none => .ok (fallbackWord text)
  | _ => .ok (.plain text)

def readWords (dialect : Dialect) : List String → Except UsageError (List Word)
  | [] => .ok []
  | text :: rest =>
      if text = "--" then .ok (.separator :: rest.map .plain)
      else do
        let word ← readWord dialect text
        return word :: (← readWords dialect rest)

end HeaderBindings.CommandLine
