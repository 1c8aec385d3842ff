import HeaderBindings.Pattern.Error

/-!
# Failures

Everything that can stop a run, by its cause. A cause has a wording and a kind, and the kind
decides the exit status of the program.
-/

namespace HeaderBindings

/-- What a declaration lacks. -/
inductive Malformation where
  | functionResult
  | functionArguments
  /-- A function with an argument, given by its name or number, that has no type. -/
  | functionArgument (label : String)
  | argument
  /-- An enumeration constant without a name or a value. -/
  | constant
  | fieldName
  | fieldType (name : String)
  | typedefTarget
  deriving Repr, DecidableEq

def Malformation.message : Malformation → String
  | .functionResult => "function without a result type"
  | .functionArguments => "function without an argument list"
  | .functionArgument label => "argument `" ++ label ++ "` without a type"
  | .argument => "argument without a type"
  | .constant => "enum constant without a name or value"
  | .fieldName => "struct field without a name"
  | .fieldType name => "field `" ++ name ++ "` without a type"
  | .typedefTarget => "typedef without an underlying type"

inductive FailureKind where
  | generation
  | malformed
  | inputOutput
  /-- The compiler does not tell where it looks for headers. -/
  | includeDetection
  /-- Something that the program does not deal with: a text that cannot be used, or a failure of the
      host. -/
  | unusableText
  deriving Repr, DecidableEq

inductive Failure where
  | undefinedGroup (template reference pattern : String)
  /-- A group number has a digit that is no decimal digit. -/
  | numeral (text : String)
  | numeralLength (count : Nat)
  | nullInPath
  /-- A pattern with a number that patterns do not have room for. -/
  | oversizedPattern (cause : Pattern.Cause)
  /-- The host fails. -/
  | breakdown (reason : String)
  /-- An option that a run needs was given no value. -/
  | valueless (option : String)
  /-- A name cannot be replaced because the template has no meaning. -/
  | badTemplate (name template : String) (error : Pattern.Error)
  | malformed (name : Option String) (fault : Malformation)
  | unreadableHeader (path : String)
  | unparsedHeader (path reason : String)
  | unwritableFile (path reason : String)
  | unwritableStream (reason : String)
  | compilerMissing (compiler reason : String)
  | compilerFailed (compiler report : String)
  | searchListMissing
  | searchListOpen
  /-- Declarations are nested deeper than the budget of the traversal, which is computed so that
      this does not happen. -/
  | nesting
  deriving Repr, DecidableEq

namespace Failure

def kind : Failure → FailureKind
  | .undefinedGroup .. | .badTemplate .. | .unparsedHeader .. | .nesting => .generation
  | .numeral _ | .numeralLength _ | .nullInPath | .oversizedPattern _ | .breakdown _
  | .valueless _ => .unusableText
  | .malformed .. => .malformed
  | .unreadableHeader _ | .unwritableFile .. | .unwritableStream _ => .inputOutput
  | .compilerMissing .. | .compilerFailed .. | .searchListMissing | .searchListOpen =>
      .includeDetection

/-- The largest number of digits that a group number may have. -/
def maxNumeralLength : Nat := 4300

def message : Failure → String
  | .undefinedGroup template reference pattern =>
      "replace template " ++ Text.quoted template ++ " refers to group " ++
        Text.quoted reference ++ ", which the match pattern " ++ Text.quoted pattern ++
        " does not define"
  | .numeral text =>
      "invalid literal for int() with base 10: " ++
        String.ofList ((Text.quoted text).toList.take 200)
  | .numeralLength count =>
      "Exceeds the limit (" ++ toString maxNumeralLength ++
        " digits) for integer string conversion: value has " ++ toString count ++
        " digits; use sys.set_int_max_str_digits() to increase the limit"
  | .nullInPath => "embedded null byte"
  | .oversizedPattern cause => cause.message
  | .breakdown reason => reason
  | .valueless option => "no value for " ++ option
  | .badTemplate name template error =>
      "cannot rewrite `" ++ name ++ "` with " ++ Text.quoted template ++ ": " ++
        error.message template
  | .malformed name fault =>
      let owner := name.getD ""
      (if owner = "" then "<anonymous>" else owner) ++ ": " ++ fault.message
  | .unreadableHeader path => "cannot read C header: " ++ path
  | .unparsedHeader path reason => "clang failed to parse " ++ path ++ ": " ++ reason
  | .unwritableFile path reason => "cannot write " ++ path ++ ": " ++ reason
  | .unwritableStream reason => "cannot write output: " ++ reason
  | .compilerMissing compiler reason => "cannot run " ++ compiler ++ ": " ++ reason
  | .compilerFailed compiler report => compiler ++ " failed:\n" ++ report
  | .searchListMissing => "include search list not found in compiler output"
  | .searchListOpen => "include search list is not terminated in compiler output"
  | .nesting => "declarations are nested too deeply"

end Failure

def FailureKind.exitStatus : FailureKind → Nat
  | .generation | .malformed | .unusableText => 1
  | .inputOutput => 3
  | .includeDetection => 4

end HeaderBindings
