import HeaderBindings.Text.LowerCase

/-!
# Letters that differ in case alone

Which characters a pattern takes for the same letter when it ignores case. These are the
characters with one lower-case form, and the few lower-case letters that share a capital.
-/

namespace HeaderBindings.Text

/-- The groups of lower-case letters that share a capital. -/
def lowerTwins : List (List Char) :=
  [['\u0069', '\u0131'],
   ['\u0073', '\u017f'],
   ['\u00b5', '\u03bc'],
   ['\u0345', '\u03b9', '\u1fbe'],
   ['\u0390', '\u1fd3'],
   ['\u03b0', '\u1fe3'],
   ['\u03b2', '\u03d0'],
   ['\u03b5', '\u03f5'],
   ['\u03b8', '\u03d1'],
   ['\u03ba', '\u03f0'],
   ['\u03c0', '\u03d6'],
   ['\u03c1', '\u03f1'],
   ['\u03c2', '\u03c3'],
   ['\u03c6', '\u03d5'],
   ['\u0432', '\u1c80'],
   ['\u0434', '\u1c81'],
   ['\u043e', '\u1c82'],
   ['\u0441', '\u1c83'],
   ['\u0442', '\u1c84', '\u1c85'],
   ['\u044a', '\u1c86'],
   ['\u0463', '\u1c87'],
   ['\u1c88', '\ua64b'],
   ['\u1e61', '\u1e9b'],
   ['\ufb05', '\ufb06']]

def twinsOf (c : Char) : List Char :=
  c :: (lowerTwins.filter (·.contains c)).flatten

/-- The lower-case letter that stands for all letters that differ from `c` in case alone. -/
def letterOf (c : Char) : Char :=
  let lower := toLower c
  ((lowerTwins.find? (·.contains lower)).bind (·.head?)).getD lower

/-- Whether two characters are the same letter when case is ignored. -/
def sameLetter (a b : Char) : Bool :=
  letterOf a == letterOf b

def caseVariants (c : Char) : List Char :=
  c :: (twinsOf (toLower c)).flatMap fun twin => twin :: capitalsOf twin

/-- The lower-case letters whose capital form has several characters and begins with a character
    after the letter, each with that character. -/
def capitalsHeads : List (Char × Char) :=
  [('\u0149', '\u02bc'), ('\u0390', '\u0399'), ('\u1fb2', '\u1fba'), ('\u1fc2', '\u1fca'),
   ('\u1ff2', '\u1ffa')]

def capitalsHead? (c : Char) : Option Char :=
  capitalsHeads.lookup c

/-- Whether two characters have one lower-case form. A text that is looked for again with case
    ignored is compared in this way, which keeps letters with a shared capital apart. -/
def sameLowerForm (a b : Char) : Bool :=
  toLower a == toLower b

end HeaderBindings.Text
