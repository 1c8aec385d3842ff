import HeaderBindings.Pattern.Flags
import HeaderBindings.Text.CaseVariant
import HeaderBindings.Text.Blank
import HeaderBindings.Text.Digit
import HeaderBindings.Text.Word

/-!
# Tests of one character

What a pattern can ask of one character: to be a given one or another than a given one, or to
belong to a set.
-/

namespace HeaderBindings.Pattern

inductive CharClass where
  | digit
  | space
  /-- Letters, numerals and the underscore. -/
  | word
  deriving Repr, DecidableEq

/-- The white space of ASCII. -/
def asciiBlanks : List Char :=
  [' ', '\t', '\n', '\x0b', '\x0c', '\r']

def CharClass.holds (ascii : Bool) : CharClass → Char → Bool
  | .digit, c => if ascii then c.isDigit else Text.isDecimal c
  | .space, c => if ascii then asciiBlanks.contains c else Text.isBlank c
  | .word, c => if ascii then c.isAlphanum || c == '_' else Text.isWord c

inductive SetItem where
  | single (code : Nat)
  | range (low high : Nat)
  | charClass (cls : CharClass) (negated : Bool)
  deriving Repr, DecidableEq

/-- Whether two characters are the same letter when case is ignored. -/
def sameLetter (ascii : Bool) (a b : Char) : Bool :=
  if ascii then a.toLower == b.toLower else Text.sameLetter a b

/-- Whether a character has the given code point, or is the same letter when case is ignored. -/
def hasCode (flags : Flags) (code : Nat) (c : Char) : Bool :=
  c.toNat == code ||
    flags.ignoreCase && (Char.ofNat code).toNat == code &&
      sameLetter flags.ascii c (Char.ofNat code)

/-- The last code point of the basic plane. The letters up to it are found in a set in any case
    when case is ignored. -/
def lastBasic : Nat := 0xFFFF

/-- Whether a range holds a letter in another case. It holds every variant of its characters; one
    that goes beyond the basic plane also holds a letter whose capitals begin with one of its
    characters. -/
def rangeHoldsVariant (ascii : Bool) (low high : Nat) (c : Char) : Bool :=
  let within (x : Char) : Bool := low ≤ x.toNat && x.toNat ≤ high
  if ascii then within c.toLower || within c.toUpper
  else
    (Text.caseVariants c).any within ||
      lastBasic < high && (Text.capitalsHead? (Text.toLower c)).any within

/-- Whether a set item holds a character. When case is ignored, a single code point of the basic
    plane holds every variant of its own, and one beyond it is compared as it stands with the
    lower-case form of the character. -/
def SetItem.holds (flags : Flags) : SetItem → Char → Bool
  | .single code, c =>
      if flags.ignoreCase && !flags.ascii && lastBasic < code then (Text.toLower c).toNat == code
      else hasCode flags code c
  | .range low high, c =>
      low ≤ c.toNat && c.toNat ≤ high ||
        flags.ignoreCase && rangeHoldsVariant flags.ascii low high c
  | .charClass cls negated, c => cls.holds flags.ascii c != negated

/-- What is asked of one character. -/
inductive CharTest where
  | exactly (code : Nat)
  | otherThan (code : Nat)
  /-- Nothing, or to be no line feed. -/
  | any
  | set (negated : Bool) (items : List SetItem)
  deriving Repr, DecidableEq

def CharTest.holds (flags : Flags) : CharTest → Char → Bool
  | .exactly code, c => hasCode flags code c
  | .otherThan code, c => !hasCode flags code c
  | .any, c => flags.dotAll || c != '\n'
  | .set negated items, c => (items.any fun item => item.holds flags c) != negated

end HeaderBindings.Pattern
