/-!
# Blank characters

Which characters count as white space, and how a text loses the blank characters at its ends.
-/

namespace HeaderBindings.Text

/-- Whether a character is white space: the ASCII controls from tab to carriage return, the four
    information separators, the space, and every character whose bidirectional class or general
    category makes it a separator. -/
def isBlank (c : Char) : Bool :=
  let n := c.toNat
  (9 ≤ n && n ≤ 13) || (28 ≤ n && n ≤ 32) || n == 0x85 || n == 0xA0 || n == 0x1680 ||
    (0x2000 ≤ n && n ≤ 0x200A) || n == 0x2028 || n == 0x2029 || n == 0x202F || n == 0x205F ||
    n == 0x3000

def trimStart (text : List Char) : List Char :=
  text.dropWhile isBlank

def trimEnd (text : List Char) : List Char :=
  (text.reverse.dropWhile isBlank).reverse

def trim (text : List Char) : List Char :=
  trimEnd (trimStart text)

def isBlankText (text : List Char) : Bool :=
  text.all isBlank

def indentation (text : List Char) : Nat :=
  (text.takeWhile isBlank).length

end HeaderBindings.Text
