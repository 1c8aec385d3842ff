import HeaderBindings.Text.CodePointSet

/-!
# Digits

Digits of any script. A *digit* is any character with a digit value, superscripts and circled
digits included; a *decimal digit* is one that takes part in a positional notation. Decimal digits
come in runs of ten, so the value of one is its distance from the start of its run.
-/

namespace HeaderBindings.Text

/-- The characters with a digit value. -/
def digits : CodePointSet := [
  48, 58, 178, 180, 185, 186, 1632, 1642, 1776, 1786, 1984, 1994, 2406, 2416, 2534, 2544, 2662,
  2672, 2790, 2800, 2918, 2928, 3046, 3056, 3174, 3184, 3302, 3312, 3430, 3440, 3558, 3568, 3664,
  3674, 3792, 3802, 3872, 3882, 4160, 4170, 4240, 4250, 4969, 4978, 6112, 6122, 6160, 6170, 6470,
  6480, 6608, 6619, 6784, 6794, 6800, 6810, 6992, 7002, 7088, 7098, 7232, 7242, 7248, 7258, 8304,
  8305, 8308, 8314, 8320, 8330, 9312, 9321, 9332, 9341, 9352, 9361, 9450, 9451, 9461, 9470, 9471,
  9472, 10102, 10111, 10112, 10121, 10122, 10131, 42528, 42538, 43216, 43226, 43264, 43274, 43472,
  43482, 43504, 43514, 43600, 43610, 44016, 44026, 65296, 65306, 66720, 66730, 68160, 68164,
  68912, 68922, 69216, 69225, 69714, 69723, 69734, 69744, 69872, 69882, 69942, 69952, 70096,
  70106, 70384, 70394, 70736, 70746, 70864, 70874, 71248, 71258, 71360, 71370, 71472, 71482,
  71904, 71914, 72016, 72026, 72784, 72794, 73040, 73050, 73120, 73130, 92768, 92778, 92864,
  92874, 93008, 93018, 120782, 120832, 123200, 123210, 123632, 123642, 125264, 125274, 127232,
  127243, 130032, 130042]

/-- The decimal digits. Every stretch between two boundaries is a whole number of runs from zero
    to nine. -/
def decimalDigits : CodePointSet := [
  48, 58, 1632, 1642, 1776, 1786, 1984, 1994, 2406, 2416, 2534, 2544, 2662, 2672, 2790, 2800,
  2918, 2928, 3046, 3056, 3174, 3184, 3302, 3312, 3430, 3440, 3558, 3568, 3664, 3674, 3792, 3802,
  3872, 3882, 4160, 4170, 4240, 4250, 6112, 6122, 6160, 6170, 6470, 6480, 6608, 6618, 6784, 6794,
  6800, 6810, 6992, 7002, 7088, 7098, 7232, 7242, 7248, 7258, 42528, 42538, 43216, 43226, 43264,
  43274, 43472, 43482, 43504, 43514, 43600, 43610, 44016, 44026, 65296, 65306, 66720, 66730,
  68912, 68922, 69734, 69744, 69872, 69882, 69942, 69952, 70096, 70106, 70384, 70394, 70736,
  70746, 70864, 70874, 71248, 71258, 71360, 71370, 71472, 71482, 71904, 71914, 72016, 72026,
  72784, 72794, 73040, 73050, 73120, 73130, 92768, 92778, 92864, 92874, 93008, 93018, 120782,
  120832, 123200, 123210, 123632, 123642, 125264, 125274, 130032, 130042]

def isDigit (c : Char) : Bool :=
  digits.holds c

def isDecimal (c : Char) : Bool :=
  decimalDigits.holds c

/-- The value of `n` among the decimal digits, given the boundaries of their stretches in pairs. -/
def decimalValueIn (n : Nat) : CodePointSet → Option Nat
  | start :: stop :: rest =>
      if n < start then none
      else if n < stop then some ((n - start) % 10)
      else decimalValueIn n rest
  | _ => none

def decimalValue? (c : Char) : Option Nat :=
  decimalValueIn c.toNat decimalDigits

/-- The number written by decimal digits, the most significant first; none if a character is no
    decimal digit. -/
def decimalNumber? (text : List Char) : Option Nat :=
  text.foldl (fun sum c => sum.bind fun n => (decimalValue? c).map (n * 10 + ·)) (some 0)

end HeaderBindings.Text
