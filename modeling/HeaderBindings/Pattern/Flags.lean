/-!
# Flags

The switches of a pattern. A flag is written as a letter and holds for the whole pattern, or it is
turned on or off for one group. Some change how the pattern is read, some what it matches.
-/

namespace HeaderBindings.Pattern

inductive Flag where
  | ignoreCase
  /-- The locale says what a letter is; no pattern for text may ask for this. -/
  | locale
  | multiline
  | dotAll
  | verbose
  /-- Classes of characters and letters in another case are those of ASCII. -/
  | ascii
  /-- The pattern repeats nothing. -/
  | template
  | unicode
  deriving Repr, DecidableEq

def Flag.ofLetter? : Char → Option Flag
  | 'i' => some .ignoreCase
  | 'L' => some .locale
  | 'm' => some .multiline
  | 's' => some .dotAll
  | 'x' => some .verbose
  | 'a' => some .ascii
  | 't' => some .template
  | 'u' => some .unicode
  | _ => none

/-- Whether a flag says where classes and letters are taken from. At most one of these holds. -/
def Flag.isType : Flag → Bool
  | .locale | .ascii | .unicode => true
  | _ => false

/-- The flags that matter for matching. -/
structure Flags where
  ignoreCase : Bool := false
  multiline : Bool := false
  dotAll : Bool := false
  ascii : Bool := false
  deriving Repr, DecidableEq

/-- The flags after some have been turned on and others off. -/
def Flags.change (flags : Flags) (on off : List Flag) : Flags :=
  let now (flag : Flag) (before : Bool) : Bool :=
    (before || on.contains flag) && !off.contains flag
  { ignoreCase := now .ignoreCase flags.ignoreCase
    multiline := now .multiline flags.multiline
    dotAll := now .dotAll flags.dotAll
    ascii := on.contains .ascii || flags.ascii && !on.contains .unicode }

end HeaderBindings.Pattern
