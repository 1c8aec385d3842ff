import HeaderBindings.Header.CType

/-!
# Declarations of a header

The declarations that bindings are made from, in one table. A declaration refers to others by
their places in the table, so declarations may refer to each other in cycles.
-/

namespace HeaderBindings

inductive DeclKind where
  | unit
  | enum
  | struct
  | typedef
  | function
  | field
  | enumConstant
  | parameter
  | unsupported
  deriving Repr, DecidableEq

namespace DeclKind

def name : DeclKind → String
  | .unit => "TRANSLATION_UNIT"
  | .enum => "ENUM"
  | .struct => "STRUCT"
  | .typedef => "TYPEDEF"
  | .function => "FUNCTION"
  | .field => "FIELD"
  | .enumConstant => "ENUM_CONSTANT"
  | .parameter => "PARAM"
  | .unsupported => "UNSUPPORTED"

def named : List DeclKind :=
  [.unit, .enum, .struct, .typedef, .function, .field, .enumConstant, .parameter]

/-- The kind with a name; a name that no kind has stands for an unsupported declaration. -/
def ofName (name : String) : DeclKind :=
  (named.find? (·.name == name)).getD .unsupported

def declaresType : DeclKind → Bool
  | .enum | .struct | .typedef => true
  | _ => false

end DeclKind

/-- A declaration. What a declaration of its kind does not have, or the header's parser did not
    tell, is absent. -/
structure Decl where
  kind : DeclKind := .unsupported
  name : Option String := none
  comment : Option String := none
  type : Option CType := none
  children : List DeclId := []
  resultType : Option CType := none
  /-- The parameters of a function; absent when there is no parameter list. -/
  arguments : Option (List DeclId) := none
  value : Option Int := none
  /-- The type that a type definition names, or the integer type behind an enumeration. -/
  underlying : Option CType := none
  rawKind : String := ""
  deriving Repr

namespace Decl

def kindName (decl : Decl) : String :=
  if decl.rawKind = "" then decl.kind.name else decl.rawKind

/-- The name of a declaration, if it has one that is not empty. -/
def properName? (decl : Decl) : Option String :=
  decl.name.filter (· ≠ "")

def properComment? (decl : Decl) : Option String :=
  decl.comment.filter (· ≠ "")

end Decl

structure Header where
  decls : Array Decl
  deriving Repr

namespace Header

/-- The declaration at a place of the table; a place outside it holds an unsupported declaration
    without a name. -/
def decl (header : Header) (id : DeclId) : Decl :=
  header.decls.getD id {}

def childrenOf (header : Header) (id : DeclId) : List DeclId :=
  (header.decl id).children

end Header

end HeaderBindings
