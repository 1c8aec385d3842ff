import HeaderBindings.Header.Scalar

/-!
# Types of a header

A type as it is written in a header, together with its canonical form, which is free of type
definitions. The parts of a type are types again; the declaration that a type names is kept as an
identity, so that a structure may have fields that point to it.
-/

namespace HeaderBindings

/-- The identity of a declaration: its place in the table of declarations. -/
abbrev DeclId := Nat

inductive TypeKind where
  | scalar (s : Scalar)
  | pointer
  /-- A structure or union. -/
  | record
  | enum
  | typedef
  /-- A type named by a tag or through a type definition. -/
  | elaborated
  | function
  /-- A function type without a parameter list. -/
  | functionNoParameters
  | unsupported
  deriving Repr, DecidableEq, Inhabited

namespace TypeKind

def name : TypeKind → String
  | .scalar s => s.kindName
  | .pointer => "POINTER"
  | .record => "RECORD"
  | .enum => "ENUM"
  | .typedef => "TYPEDEF"
  | .elaborated => "ELABORATED"
  | .function => "FUNCTIONPROTO"
  | .functionNoParameters => "FUNCTIONNOPROTO"
  | .unsupported => "UNSUPPORTED"

def named : List TypeKind :=
  Scalar.all.map .scalar ++
    [.pointer, .record, .enum, .typedef, .elaborated, .function, .functionNoParameters]

/-- The kind with a name; a name that no kind has stands for an unsupported type. -/
def ofName (name : String) : TypeKind :=
  (named.find? (·.name == name)).getD .unsupported

def isFunction : TypeKind → Bool
  | .function | .functionNoParameters => true
  | _ => false

end TypeKind

structure CType where
  kind : TypeKind
  spelling : String := ""
  /-- The name that the header's parser has for its kind; empty if it gave none. -/
  rawKind : String := ""
  /-- Its canonical form, if that is not the type itself. -/
  ownCanonical : Option CType := none
  pointee : Option CType := none
  result : Option CType := none
  arguments : List CType := []
  declaration : Option DeclId := none
  deriving Repr, Inhabited

namespace CType

def canonical (type : CType) : CType :=
  type.ownCanonical.getD type

def kindName (type : CType) : String :=
  if type.rawKind = "" then type.kind.name else type.rawKind

/-- The function type that a type points to, canonically. -/
def functionPointee? (type : CType) : Option CType :=
  if type.canonical.kind = .pointer then
    (type.canonical.pointee.map canonical).filter (·.kind.isFunction)
  else none

end CType

end HeaderBindings
