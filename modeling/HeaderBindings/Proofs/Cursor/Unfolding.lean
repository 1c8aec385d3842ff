import HeaderBindings.Proofs.Cursor.Building

/-!
# Declarations unfold as their cursors do

The table of declarations shares and goes in cycles where the graph of cursors does, and it knows
cursors only by their keys. Both are compared by what can be seen of them: a declaration with all
its parts, with the declarations that it refers to, and so on down to some depth. On the side of the
graph this is a conversion that remembers nothing.
-/

namespace HeaderBindings

/-- What is to be seen of a type, down to the declarations that it names. -/
inductive TypeTree (Link : Type) where
  | node (kind : TypeKind) (spelling rawKind : String)
      (ownCanonical pointee result : Option (TypeTree Link)) (arguments : List (TypeTree Link))
      (declaration : Option Link)

/-- What is to be seen of a declaration, down to the declarations that it refers to. -/
structure DeclTree (Link : Type) where
  kind : DeclKind
  name : Option String
  comment : Option String
  rawKind : String
  type : Option (TypeTree Link) := none
  children : List Link := []
  resultType : Option (TypeTree Link) := none
  arguments : Option (List Link) := none
  value : Option Int := none
  underlying : Option (TypeTree Link) := none

/-- What is to be seen of a declaration down to a depth, at which it is cut off. -/
def Unfolded : (depth : Nat) → Type
  | 0 => Unit
  | depth + 1 => DeclTree (Unfolded depth)

section

variable {Link : Type} (link : DeclId → Link)

namespace CType

mutual

def tree : CType → TypeTree Link
  | ⟨kind, spelling, rawKind, ownCanonical, pointee, result, arguments, declaration⟩ =>
      .node kind spelling rawKind (optionTree ownCanonical) (optionTree pointee)
        (optionTree result) (listTree arguments) (declaration.map link)

def optionTree : Option CType → Option (TypeTree Link)
  | none => none
  | some type => some (tree type)

def listTree : List CType → List (TypeTree Link)
  | [] => []
  | type :: rest => tree type :: listTree rest

end

end CType

def Decl.tree (decl : Decl) : DeclTree Link where
  kind := decl.kind
  name := decl.name
  comment := decl.comment
  rawKind := decl.rawKind
  type := CType.optionTree link decl.type
  children := decl.children.map link
  resultType := CType.optionTree link decl.resultType
  arguments := decl.arguments.map (·.map link)
  value := decl.value
  underlying := CType.optionTree link decl.underlying

end

def Header.unfold (header : Header) : (depth : Nat) → DeclId → Unfolded depth
  | 0, _ => ()
  | depth + 1, id => (header.decl id).tree (unfold header depth)

namespace CursorGraph

variable (graph : CursorGraph)

section

variable {Link : Type} (link : CursorId → Link)

mutual

/-- A type of the graph, converted by itself. -/
def typeTree : (isCanonical : Bool) → CursorType → TypeTree Link
  | isCanonical, ⟨kindName, spelling, canonical, pointee, result, arguments, declaration⟩ =>
      let kind := TypeKind.ofName kindName
      .node kind spelling kindName
        (if isCanonical then none else canonicalTree canonical)
        (if kind = .pointer then optionTree pointee else none)
        (if kind.isFunction then optionTree result else none)
        (if kind = .function then listTree arguments else [])
        ((graph.declared declaration).map link)

def canonicalTree : Option CursorType → Option (TypeTree Link)
  | none => none
  | some type => some (typeTree true type)

def optionTree : Option CursorType → Option (TypeTree Link)
  | none => none
  | some type => some (typeTree false type)

def listTree : List CursorType → List (TypeTree Link)
  | [] => []
  | type :: rest => typeTree false type :: listTree rest

end

/-- A cursor, converted by itself: it has the parts that the parser reports for its kind. -/
def declTree (cursor : Cursor) : DeclTree Link :=
  let plain : DeclTree Link :=
    { kind := cursor.kind
      name := Cursor.nameOf cursor.spelling
      comment := cursor.comment
      rawKind := cursor.kindName }
  match cursor.kind with
  | .unit => { plain with children := cursor.children.map link }
  | .struct =>
      { plain with
        children := (cursor.children.filter fun id => (graph.cursor id).kind = .field).map link }
  | .enum =>
      { plain with
        underlying := graph.optionTree link cursor.enumType
        children :=
          (cursor.children.filter fun id => (graph.cursor id).kind = .enumConstant).map link }
  | .enumConstant => { plain with value := cursor.enumValue }
  | .typedef => { plain with underlying := graph.optionTree link cursor.typedefType }
  | .function =>
      { plain with
        type := graph.optionTree link cursor.type
        resultType := graph.optionTree link cursor.resultType
        arguments := some (cursor.arguments.map link) }
  | .field | .parameter => { plain with type := graph.optionTree link cursor.type }
  | .unsupported => plain

end

/-- The conversion of a cursor that remembers nothing, down to a depth. -/
def unfold : (depth : Nat) → CursorId → Unfolded depth
  | 0, _ => ()
  | depth + 1, id => graph.declTree (unfold depth) (graph.cursor (graph.definitionOf id))

section

variable {graph} {Link : Type} {found : Found} {ofPlace : DeclId → Link} {link : CursorId → Link}

mutual

theorem tree_typeOf (isCanonical : Bool) (type : CursorType)
    (same : ∀ id ∈ graph.typeLinks isCanonical type, ofPlace (graph.placeOf found id) = link id) :
    (graph.typeOf found isCanonical type).tree ofPlace = graph.typeTree link isCanonical type := by
  match type with
  | ⟨kindName, spelling, canonical, pointee, result, arguments, declaration⟩ =>
    rw [typeLinks_eq] at same
    simp only [List.forall_mem_append] at same
    obtain ⟨inCanonical, inPointee, inResult, inArguments, inDeclaration⟩ := same
    have ownCanonical :
        CType.optionTree ofPlace (if isCanonical then none else graph.canonicalOf found canonical) =
          if isCanonical then none else graph.canonicalTree link canonical :=
      (apply_ite _ _ _ _).trans <| ite_congr rfl (fun _ => rfl) fun isOther =>
        tree_canonicalOf canonical (by rwa [if_neg isOther] at inCanonical)
    have ofPointer :
        CType.optionTree ofPlace
            (if TypeKind.ofName kindName = .pointer then graph.optionOf found pointee else none) =
          if TypeKind.ofName kindName = .pointer then graph.optionTree link pointee else none :=
      (apply_ite _ _ _ _).trans <| ite_congr rfl
        (fun isPointer => tree_optionOf pointee (by rwa [if_pos isPointer] at inPointee))
        fun _ => rfl
    have ofResult :
        CType.optionTree ofPlace
            (if (TypeKind.ofName kindName).isFunction then graph.optionOf found result else none) =
          if (TypeKind.ofName kindName).isFunction then graph.optionTree link result else none :=
      (apply_ite _ _ _ _).trans <| ite_congr rfl
        (fun isFunction => tree_optionOf result (by rwa [if_pos isFunction] at inResult))
        fun _ => rfl
    have ofArguments :
        CType.listTree ofPlace
            (if TypeKind.ofName kindName = .function then graph.listOf found arguments else []) =
          if TypeKind.ofName kindName = .function then graph.listTree link arguments else [] :=
      (apply_ite _ _ _ _).trans <| ite_congr rfl
        (fun isFunction => tree_listOf arguments (by rwa [if_pos isFunction] at inArguments))
        fun _ => rfl
    have ofDeclaration :
        ((graph.declared declaration).map (graph.placeOf found)).map ofPlace =
          (graph.declared declaration).map link := by
      rw [Option.map_map]
      exact Option.map_congr fun id isDeclared =>
        inDeclaration id (Option.mem_toList.mpr isDeclared)
    rw [typeOf, CType.tree, typeTree, ownCanonical, ofPointer, ofResult, ofArguments, ofDeclaration]

theorem tree_canonicalOf (type : Option CursorType)
    (same : ∀ id ∈ graph.canonicalLinks type, ofPlace (graph.placeOf found id) = link id) :
    CType.optionTree ofPlace (graph.canonicalOf found type) = graph.canonicalTree link type := by
  match type with
  | none => rfl
  | some type => exact congrArg some (tree_typeOf true type same)

theorem tree_optionOf (type : Option CursorType)
    (same : ∀ id ∈ graph.optionLinks type, ofPlace (graph.placeOf found id) = link id) :
    CType.optionTree ofPlace (graph.optionOf found type) = graph.optionTree link type := by
  match type with
  | none => rfl
  | some type => exact congrArg some (tree_typeOf false type same)

theorem tree_listOf (types : List CursorType)
    (same : ∀ id ∈ graph.listLinks types, ofPlace (graph.placeOf found id) = link id) :
    CType.listTree ofPlace (graph.listOf found types) = graph.listTree link types := by
  match types with
  | [] => rfl
  | type :: rest =>
    rw [listLinks, List.forall_mem_append] at same
    exact congrArg₂ _ (tree_typeOf false type same.1) (tree_listOf rest same.2)

end

theorem tree_declarationOf (cursor : Cursor)
    (same : ∀ id ∈ graph.links cursor, ofPlace (graph.placeOf found id) = link id) :
    (graph.declarationOf found cursor).tree ofPlace = graph.declTree link cursor := by
  have ofPlaces : ∀ ids : List CursorId,
      (∀ id ∈ ids, ofPlace (graph.placeOf found id) = link id) →
        (graph.placesOf found ids).map ofPlace = ids.map link := by
    intro ids same
    rw [placesOf, List.map_map]
    exact List.map_congr_left same
  unfold links membersOf at same
  unfold declarationOf declTree Decl.tree membersOf
  cases kind : cursor.kind with
  | unit | struct =>
    simp only [kind] at same ⊢
    rw [ofPlaces _ same]
    rfl
  | enum =>
    simp only [kind, List.forall_mem_append] at same ⊢
    rw [tree_optionOf _ same.1, ofPlaces _ same.2]
    rfl
  | typedef | field | parameter =>
    simp only [kind] at same ⊢
    rw [tree_optionOf _ same]
    rfl
  | function =>
    simp only [kind, List.forall_mem_append] at same ⊢
    obtain ⟨⟨ofType, ofResult⟩, ofArguments⟩ := same
    rw [tree_optionOf _ ofType, tree_optionOf _ ofResult, Option.map_some, ofPlaces _ ofArguments]
    rfl
  | enumConstant | unsupported => rfl

end

variable {graph}

/-- Where keys tell declarations apart, a reached cursor unfolds at its place as it does in the
    graph. -/
theorem unfold_placeOf {root : CursorId} (identify : graph.KeysIdentify root) (depth : Nat)
    {id : CursorId} (reached : graph.Reaches root id) :
    (graph.header root).unfold depth (graph.placeOf (graph.reachable root) id) =
      graph.unfold depth id := by
  induction depth generalizing id with
  | zero => rfl
  | succ depth ih =>
    rw [Header.unfold, unfold, identify.decl_placeOf reached]
    exact tree_declarationOf _ fun next isLink => ih (reached.link isLink)

/-- The construction in one pass ends, with one finished declaration for each key that is reached,
    and every reached cursor unfolds at its place in the memo as it does in the graph. -/
theorem memo_unfolds {root : CursorId} (identify : graph.KeysIdentify root) :
    (∀ budget, graph.cursors.size < budget →
      (graph.buildDecl budget root).run [] =
        some (rootPlace, (graph.reachable root).keys.zip (graph.header root).decls.toList)) ∧
    (graph.reachable root).keys.Nodup ∧
    (graph.header root).decls.size = (graph.reachable root).keys.length ∧
    (∀ key, key ∈ (graph.reachable root).keys ↔
      ∃ id, graph.Reaches root id ∧ graph.keyOf id = key) ∧
    graph.placeOf (graph.reachable root) root = rootPlace ∧
    ∀ id, graph.Reaches root id →
      (graph.reachable root).keys[graph.placeOf (graph.reachable root) id]? =
        some (graph.keyOf id) ∧
      (graph.header root).decl (graph.placeOf (graph.reachable root) id) =
        graph.declarationOf (graph.reachable root) (graph.cursor (graph.definitionOf id)) ∧
      ∀ depth, (graph.header root).unfold depth (graph.placeOf (graph.reachable root) id) =
        graph.unfold depth id := by
  refine ⟨fun budget enough => buildDecl_root enough, nodup_keys, ?_,
    fun key => identify.mem_keys_iff, placeOf_root root,
    fun id reached => ⟨?_, identify.decl_placeOf reached, fun depth => ?_⟩⟩
  · simp [header, Found.keys]
  · obtain ⟨entry, -, atPlace, sameKey⟩ := exists_at_placeOf (identify.keyOf_mem reached)
    rw [Found.keys, List.getElem?_map, atPlace, Option.map_some, sameKey]
  · exact unfold_placeOf identify depth reached

/-- A structure that is declared first, and then defined with a pointer to itself. -/
def listNode : CursorGraph where
  cursors := #[
    { kindName := "TRANSLATION_UNIT", children := [1, 2] },
    { kindName := "STRUCT_DECL", hash := 1, spelling := some "node", definition := some 2 },
    { kindName := "STRUCT_DECL", hash := 1, spelling := some "node", definition := some 2,
      children := [3] },
    { kindName := "FIELD_DECL", hash := 2, spelling := some "next",
      type := some { kindName := "POINTER",
                     pointee := some { kindName := "RECORD", declaration := some 1 } } }]

theorem listNode_reaches ⦃id : CursorId⦄ (reached : listNode.Reaches 0 id) : id ∈ [0, 1, 2, 3] :=
  reached.mem_of_closed (by decide) (by decide)

theorem listNode_keysIdentify : listNode.KeysIdentify 0 :=
  .of_mem listNode_reaches (by decide)

/-- The two declarations of the structure become one, whose field points back to it. -/
theorem listNode_unfolds :
    listNode.KeysIdentify 0 ∧
    (listNode.buildDecl 5 0).run [] =
      some (rootPlace, (listNode.reachable 0).keys.zip (listNode.header 0).decls.toList) ∧
    (listNode.header 0).decls.size = 3 ∧
    listNode.placeOf (listNode.reachable 0) 1 = listNode.placeOf (listNode.reachable 0) 2 ∧
    ∀ depth, (listNode.header 0).unfold depth (listNode.placeOf (listNode.reachable 0) 1) =
      listNode.unfold depth 1 := by
  obtain ⟨ends, -, -, -, -, unfolds⟩ := memo_unfolds listNode_keysIdentify
  exact ⟨listNode_keysIdentify, ends 5 (by decide), by decide, by decide,
    (unfolds 1 (.link .root (by decide))).2.2⟩

end CursorGraph

end HeaderBindings
