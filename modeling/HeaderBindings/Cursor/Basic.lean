import HeaderBindings.Header.Declaration
import HeaderBindings.Text.Blank
import HeaderBindings.Text.Search

/-!
# Cursors

What a parser of C reports about a header: a graph of cursors, which are declarations, and of their
types. Cursors refer to each other by their places in the graph.
-/

namespace HeaderBindings

/-- The identity of a cursor: its place in the graph. -/
abbrev CursorId := Nat

structure CursorType where
  /-- The parser's name for the kind of type. -/
  kindName : String
  spelling : String := ""
  /-- The canonical type, if it differs. -/
  canonical : Option CursorType := none
  pointee : Option CursorType := none
  result : Option CursorType := none
  arguments : List CursorType := []
  declaration : Option CursorId := none
  deriving Repr, Inhabited

structure Cursor where
  kindName : String
  /-- A number that is the same for cursors of one declaration. -/
  hash : Int := 0
  /-- The name, or a text that says where a declaration without a name stands. -/
  spelling : Option String := none
  comment : Option String := none
  /-- The cursor of the definition, if there is one. -/
  definition : Option CursorId := none
  children : List CursorId := []
  arguments : List CursorId := []
  /-- The integer type behind an enumeration. -/
  enumType : Option CursorType := none
  typedefType : Option CursorType := none
  /-- The type of a function, field or parameter. -/
  type : Option CursorType := none
  resultType : Option CursorType := none
  enumValue : Option Int := none
  deriving Repr

structure CursorGraph where
  cursors : Array Cursor
  deriving Repr

namespace Cursor

def kindOfName : String → DeclKind
  | "TRANSLATION_UNIT" => .unit
  | "ENUM_DECL" => .enum
  | "STRUCT_DECL" => .struct
  | "TYPEDEF_DECL" => .typedef
  | "FUNCTION_DECL" => .function
  | "FIELD_DECL" => .field
  | "ENUM_CONSTANT_DECL" => .enumConstant
  | "PARM_DECL" => .parameter
  | _ => .unsupported

def kind (cursor : Cursor) : DeclKind :=
  kindOfName cursor.kindName

def noDeclaration : String := "NO_DECL_FOUND"

def anonymousMarks : List String :=
  ["unnamed at", "anonymous at"]

/-- The name that a spelling gives to a declaration: the spelling without surrounding blanks, unless
    nothing is left or it says that there is no name. -/
def nameOf (spelling : Option String) : Option String :=
  let text := Text.trim (spelling.getD "").toList
  if text.isEmpty || anonymousMarks.any fun mark => Text.holdsText mark.toList text then none
  else some (String.ofList text)

/-- What makes cursors stand for one declaration. -/
structure Key where
  hash : Int
  kindName : String
  spelling : String
  deriving Repr, DecidableEq

def key (cursor : Cursor) : Key :=
  ⟨cursor.hash, cursor.kindName, cursor.spelling.getD ""⟩

end Cursor

namespace CursorGraph

variable (graph : CursorGraph)

/-- The cursor at a place of the graph; a place outside it holds no declaration. -/
def cursor (id : CursorId) : Cursor :=
  graph.cursors.getD id { kindName := Cursor.noDeclaration }

/-- The cursor that stands for a declaration: for a structure its definition, if there is one. -/
def definitionOf (id : CursorId) : CursorId :=
  if (graph.cursor id).kindName = "STRUCT_DECL" then ((graph.cursor id).definition).getD id
  else id

def keyOf (id : CursorId) : Cursor.Key :=
  (graph.cursor (graph.definitionOf id)).key

/-- The declaration that a type names, unless the parser found none. -/
def declared (declaration : Option CursorId) : Option CursorId :=
  declaration.filter fun id => (graph.cursor id).kindName ≠ Cursor.noDeclaration

/-- The cursors inside a cursor that become its children. -/
def membersOf (cursor : Cursor) : List CursorId :=
  match cursor.kind with
  | .unit => cursor.children
  | .enum => cursor.children.filter fun id => (graph.cursor id).kind = .enumConstant
  | .struct => cursor.children.filter fun id => (graph.cursor id).kind = .field
  | _ => []

end CursorGraph

end HeaderBindings
