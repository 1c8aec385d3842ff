/-!
# Scalar types

The arithmetic types of C and `void`, and what each is called in the generated text: natively, by
its width, and logically, as an ordinary value.
-/

namespace HeaderBindings

/-- An arithmetic type, or `void`. Plain `char` comes in a signed and an unsigned kind. -/
inductive Scalar where
  | void
  | bool
  | plainCharSigned
  | plainCharUnsigned
  | signedChar
  | unsignedChar
  | short
  | unsignedShort
  | int
  | unsignedInt
  | long
  | unsignedLong
  | longLong
  | unsignedLongLong
  | float
  | double
  deriving Repr, DecidableEq, Inhabited

namespace Scalar

def kindName : Scalar → String
  | .void => "VOID"
  | .bool => "BOOL"
  | .plainCharSigned => "CHAR_S"
  | .plainCharUnsigned => "CHAR_U"
  | .signedChar => "SCHAR"
  | .unsignedChar => "UCHAR"
  | .short => "SHORT"
  | .unsignedShort => "USHORT"
  | .int => "INT"
  | .unsignedInt => "UINT"
  | .long => "LONG"
  | .unsignedLong => "ULONG"
  | .longLong => "LONGLONG"
  | .unsignedLongLong => "ULONGLONG"
  | .float => "FLOAT"
  | .double => "DOUBLE"

/-- The name of the type with its width, as it is laid out in memory. -/
def nativeName : Scalar → String
  | .void => "Void"
  | .bool => "Uint8"
  | .signedChar | .plainCharSigned => "Int8"
  | .unsignedChar | .plainCharUnsigned => "Uint8"
  | .short => "Int16"
  | .unsignedShort => "Uint16"
  | .int => "Int32"
  | .unsignedInt => "Uint32"
  | .long | .longLong => "Int64"
  | .unsignedLong | .unsignedLongLong => "Uint64"
  | .float => "Float"
  | .double => "Double"

/-- The name of the type of its values. -/
def logicalName : Scalar → String
  | .void => "void"
  | .float | .double => "double"
  | _ => "int"

def all : List Scalar :=
  [.void, .bool, .plainCharSigned, .plainCharUnsigned, .signedChar, .unsignedChar, .short,
   .unsignedShort, .int, .unsignedInt, .long, .unsignedLong, .longLong, .unsignedLongLong,
   .float, .double]

end Scalar

end HeaderBindings
