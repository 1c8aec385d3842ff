import HeaderBindings.Cursor.Discovery

/-!
# Declarations of cursors

The table of declarations that a graph of cursors stands for. Every declaration found gets a place
in the table, in the order of discovery, and its cursor is turned into a declaration with links to
places in place of links to cursors.
-/

namespace HeaderBindings

namespace CursorGraph

variable (graph : CursorGraph) (found : Found)

/-- The place of the declaration that a cursor stands for. -/
def placeOf (id : CursorId) : DeclId :=
  found.findIdx (·.1 = graph.keyOf id)

mutual

/-- A type of the header for a type of the graph. A type that is canonical already has no canonical
    form of its own. -/
def typeOf : (isCanonical : Bool) → CursorType → CType
  | isCanonical, ⟨kindName, spelling, canonical, pointee, result, arguments, declaration⟩ =>
      let kind := TypeKind.ofName kindName
      { kind := kind
        spelling := spelling
        rawKind := kindName
        ownCanonical := if isCanonical then none else canonicalOf canonical
        pointee := if kind = .pointer then optionOf pointee else none
        result := if kind.isFunction then optionOf result else none
        arguments := if kind = .function then listOf arguments else []
        declaration := (graph.declared declaration).map (graph.placeOf found) }

def canonicalOf : Option CursorType → Option CType
  | none => none
  | some type => some (typeOf true type)

def optionOf : Option CursorType → Option CType
  | none => none
  | some type => some (typeOf false type)

def listOf : List CursorType → List CType
  | [] => []
  | type :: rest => typeOf false type :: listOf rest

end

theorem optionOf_eq_map (type : Option CursorType) :
    graph.optionOf found type = type.map (graph.typeOf found false) := by
  cases type <;> rfl

def placesOf (ids : List CursorId) : List DeclId :=
  ids.map (graph.placeOf found)

def declarationOf (cursor : Cursor) : Decl :=
  let plain : Decl :=
    { kind := cursor.kind
      name := Cursor.nameOf cursor.spelling
      comment := cursor.comment
      rawKind := cursor.kindName }
  match cursor.kind with
  | .unit | .struct =>
      { plain with children := graph.placesOf found (graph.membersOf cursor) }
  | .enum =>
      { plain with
        underlying := graph.optionOf found cursor.enumType
        children := graph.placesOf found (graph.membersOf cursor) }
  | .enumConstant => { plain with value := cursor.enumValue }
  | .typedef => { plain with underlying := graph.optionOf found cursor.typedefType }
  | .function =>
      { plain with
        type := graph.optionOf found cursor.type
        resultType := graph.optionOf found cursor.resultType
        arguments := some (graph.placesOf found cursor.arguments) }
  | .field | .parameter => { plain with type := graph.optionOf found cursor.type }
  | .unsupported => plain

/-- The declarations that a cursor leads to, its own at the first place. -/
def header (root : CursorId) : Header :=
  let found := graph.reachable root
  ⟨(found.map fun entry => graph.declarationOf found (graph.cursor entry.2)).toArray⟩

/-- The place of the declaration of the cursor that a header was made from. -/
def rootPlace : DeclId := 0

end CursorGraph

end HeaderBindings
