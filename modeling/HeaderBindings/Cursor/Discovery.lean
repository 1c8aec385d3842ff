import HeaderBindings.Cursor.Basic

/-!
# Discovering declarations

Which declarations are reached from a cursor, in the order in which they are met. Declarations are
told apart by their keys, and the first cursor met with a key stands for its declaration. A
declaration is listed before what it leads to, so that cycles end.
-/

namespace HeaderBindings

namespace CursorGraph

variable (graph : CursorGraph)

mutual

/-- The cursors that a type leads to, in order: through its canonical type, its parts, and then the
    declaration it names. A type that is canonical already has no canonical type of its own. -/
def typeLinks : (isCanonical : Bool) → CursorType → List CursorId
  | isCanonical, ⟨kindName, _, canonical, pointee, result, arguments, declaration⟩ =>
      (if isCanonical then [] else canonicalLinks canonical) ++
        (match TypeKind.ofName kindName with
          | .pointer => optionLinks pointee
          | .function => optionLinks result ++ listLinks arguments
          | .functionNoParameters => optionLinks result
          | _ => []) ++
        (graph.declared declaration).toList

def canonicalLinks : Option CursorType → List CursorId
  | none => []
  | some type => typeLinks true type

def optionLinks : Option CursorType → List CursorId
  | none => []
  | some type => typeLinks false type

def listLinks : List CursorType → List CursorId
  | [] => []
  | type :: rest => typeLinks false type ++ listLinks rest

end

def links (cursor : Cursor) : List CursorId :=
  match cursor.kind with
  | .unit | .struct => graph.membersOf cursor
  | .enum => graph.optionLinks cursor.enumType ++ graph.membersOf cursor
  | .typedef => graph.optionLinks cursor.typedefType
  | .function =>
      graph.optionLinks cursor.type ++ graph.optionLinks cursor.resultType ++ cursor.arguments
  | .field | .parameter => graph.optionLinks cursor.type
  | .enumConstant | .unsupported => []

/-- Declarations by their keys, with the cursors that stand for them. -/
abbrev Found := List (Cursor.Key × CursorId)

/-- The declarations found once a cursor has been followed, after those found before. The budget
    bounds the nesting; one for each cursor is enough, as every nested step finds a new key. -/
def discover : Nat → Found → CursorId → Found
  | 0, found, _ => found
  | budget + 1, found, id =>
      let key := graph.keyOf id
      if found.any (·.1 = key) then found
      else
        (graph.links (graph.cursor (graph.definitionOf id))).foldl (discover budget)
          (found ++ [(key, graph.definitionOf id)])

/-- The declarations that a cursor leads to, itself first. -/
def reachable (root : CursorId) : Found :=
  graph.discover (graph.cursors.size + 1) [] root

end CursorGraph

end HeaderBindings
