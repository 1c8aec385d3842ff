import HeaderBindings.Proofs.Cursor.Building
import HeaderBindings.Proofs.Cursor.Contract
import HeaderBindings.Proofs.Export.SharedTags

/-!
# Declarations of a tag before and after its definition

A structure may be declared many times around its definition, and its class still has the fields of
the definition, because every cursor of it is replaced by that of the definition. For cursors of
enumerations nothing is replaced: that one gets the class which an export meets first, and if this
is no definition the constants are lost.
-/

namespace HeaderBindings

namespace CursorGraph

variable (graph : CursorGraph) (unit : CursorId)

/-- A cursor declares a structure or an enumeration. -/
def IsTag (id : CursorId) : Prop :=
  (graph.cursor id).kind = .struct ∨ (graph.cursor id).kind = .enum

/-- The cursor of the definition of what a cursor declares, or the cursor itself if the parser
    reports no definition. -/
def definingCursor (id : CursorId) : CursorId :=
  ((graph.cursor id).definition).getD id

/-- A cursor that is reached declares the structure or enumeration that another one defines. -/
structure Declares (tag id : CursorId) : Prop where
  reached : graph.Reaches unit id
  isTag : graph.IsTag id
  defining : graph.definingCursor id = tag

/-- The parser reports with each declaration of a structure or enumeration the definition of just
    that. -/
structure DefinitionsReported : Prop where
  kindName : ∀ ⦃id : CursorId⦄, graph.Reaches unit id → graph.IsTag id →
    (graph.cursor (graph.definingCursor id)).kindName = (graph.cursor id).kindName
  name : ∀ ⦃id : CursorId⦄, graph.Reaches unit id → graph.IsTag id →
    Cursor.nameOf (graph.cursor (graph.definingCursor id)).spelling =
      Cursor.nameOf (graph.cursor id).spelling

/-- A type declaration with the name of a structure or enumeration is another declaration of the
    same one, or a type definition of it. -/
def TagsUnique : Prop :=
  ∀ ⦃id : CursorId⦄ ⦃other : DeclId⦄ ⦃name : String⦄, graph.Reaches unit id → graph.IsTag id →
    (graph.header unit).DeclaresType rootPlace other →
      Cursor.nameOf (graph.cursor id).spelling = some name →
        ((graph.header unit).decl other).properName? = some name →
          ∃ again, graph.Declares unit (graph.definingCursor id) again ∧
            (graph.placeOf (graph.reachable unit) again = other ∨
              (graph.header unit).typedefTarget? other =
                some (graph.placeOf (graph.reachable unit) again))

/-- The declarations of the members of a cursor: the fields of a structure, the constants of an
    enumeration. -/
def memberDecls (id : CursorId) : List Decl :=
  (graph.membersOf (graph.cursor id)).map fun member =>
    graph.declarationOf (graph.reachable unit) (graph.cursor member)

/-- An item is the class at a place, with all members of a cursor. -/
inductive ClassHolds (names : Renaming) (place : DeclId) (newName : String) (id : CursorId) :
    Item → Prop where
  | struct {comment : Option String} {fields : List Field} {given : GivenNames}
      (kind : (graph.cursor id).kind = .struct)
      (become : List.Forall₂ (Job.BecomesField ⟨graph.header unit, names⟩ given)
        (graph.memberDecls unit id) fields) :
      ClassHolds names place newName id (.structClass place newName comment fields)
  | enum {comment : Option String} {constants : List Constant} {owner : String}
      (kind : (graph.cursor id).kind = .enum)
      (become : (graph.memberDecls unit id).mapM (Job.constant owner) = .ok constants) :
      ClassHolds names place newName id (.enumClass place newName comment constants)

variable {graph unit}

/-! ## Cursors that stand for declarations -/

theorem kindName_of_struct {cursor : Cursor} (kind : cursor.kind = .struct) :
    cursor.kindName = "STRUCT_DECL" := by
  unfold Cursor.kind Cursor.kindOfName at kind
  split at kind <;> simp_all

theorem definitionOf_of_struct {id : CursorId} (kind : (graph.cursor id).kind = .struct) :
    graph.definitionOf id = graph.definingCursor id :=
  if_pos (kindName_of_struct kind)

theorem definitionOf_of_not_struct {id : CursorId} (kind : (graph.cursor id).kind ≠ .struct) :
    graph.definitionOf id = id :=
  if_neg fun same => kind (by rw [Cursor.kind, same]; rfl)

theorem kind_of_mem_membersOf {cursor : Cursor} {kind : DeclKind} {member : CursorId}
    (shape : cursor.kind = .struct ∧ kind = .field ∨ cursor.kind = .enum ∧ kind = .enumConstant)
    (inside : member ∈ graph.membersOf cursor) : (graph.cursor member).kind = kind := by
  unfold membersOf at inside
  rcases shape with ⟨own, rfl⟩ | ⟨own, rfl⟩ <;> simp_all

theorem children_declarationOf {found : Found} {cursor : Cursor}
    (kind : cursor.kind = .unit ∨ cursor.kind = .struct ∨ cursor.kind = .enum) :
    (graph.declarationOf found cursor).children =
      (graph.membersOf cursor).map (graph.placeOf found) := by
  unfold declarationOf
  rcases kind with kind | kind | kind <;> simp only [kind, placesOf]

theorem mem_links_of_mem_membersOf {cursor : Cursor} {member : CursorId}
    (kind : cursor.kind = .unit ∨ cursor.kind = .struct ∨ cursor.kind = .enum)
    (inside : member ∈ graph.membersOf cursor) : member ∈ graph.links cursor := by
  unfold links
  rcases kind with kind | kind | kind <;> simp [kind, inside]

/-- The children of the declaration of a reached cursor are the declarations of the members of the
    cursor that stands for it. -/
theorem KeysIdentify.childrenOfKind_placeOf (identify : graph.KeysIdentify unit) {names : Renaming}
    {id : CursorId} {kind : DeclKind} (reached : graph.Reaches unit id)
    (shape : (graph.cursor (graph.definitionOf id)).kind = .struct ∧ kind = .field ∨
      (graph.cursor (graph.definitionOf id)).kind = .enum ∧ kind = .enumConstant) :
    Job.childrenOfKind ⟨graph.header unit, names⟩ kind (graph.placeOf (graph.reachable unit) id) =
      graph.memberDecls unit (graph.definitionOf id) := by
  have own : (graph.cursor (graph.definitionOf id)).kind = .unit ∨
      (graph.cursor (graph.definitionOf id)).kind = .struct ∨
      (graph.cursor (graph.definitionOf id)).kind = .enum :=
    .inr (shape.imp And.left And.left)
  have memberKind {member : CursorId}
      (inside : member ∈ graph.membersOf (graph.cursor (graph.definitionOf id))) :
      (graph.cursor member).kind = kind :=
    kind_of_mem_membersOf shape inside
  have decls : ((graph.header unit).childrenOf (graph.placeOf (graph.reachable unit) id)).map
      (graph.header unit).decl = graph.memberDecls unit (graph.definitionOf id) := by
    rw [Header.childrenOf, identify.decl_placeOf reached, children_declarationOf own, List.map_map]
    apply List.map_congr_left
    intro member inside
    have noStruct : (graph.cursor member).kind ≠ .struct := by
      rw [memberKind inside]
      rcases shape with ⟨-, rfl⟩ | ⟨-, rfl⟩ <;> decide
    have isLink := mem_links_of_mem_membersOf own inside
    rw [Function.comp_apply, identify.decl_placeOf (reached.link isLink),
      definitionOf_of_not_struct noStruct]
  rw [Job.childrenOfKind, decls, List.filter_eq_self]
  intro decl inside
  obtain ⟨member, isMember, rfl⟩ := List.mem_map.mp inside
  simpa using memberKind isMember

/-! ## Declarations of one tag -/

namespace Declares

variable {tag id : CursorId} (declares : graph.Declares unit tag id)

include declares

theorem definitionOf_cases :
    (graph.cursor id).kind = .struct ∧ graph.definitionOf id = tag ∨
      (graph.cursor id).kind = .enum ∧ graph.definitionOf id = id := by
  rcases declares.isTag with kind | kind
  · exact .inl ⟨kind, (definitionOf_of_struct kind).trans declares.defining⟩
  · exact .inr ⟨kind, definitionOf_of_not_struct (by simp [kind])⟩

variable (reported : graph.DefinitionsReported unit)

include reported

theorem kind_eq : (graph.cursor id).kind = (graph.cursor tag).kind := by
  have same := reported.kindName declares.reached declares.isTag
  rw [declares.defining] at same
  rw [Cursor.kind, Cursor.kind, same]

theorem kind_definitionOf :
    (graph.cursor (graph.definitionOf id)).kind = (graph.cursor tag).kind := by
  rcases declares.definitionOf_cases with ⟨-, same⟩ | ⟨-, same⟩
  · rw [same]
  · rw [same, declares.kind_eq reported]

theorem name_definitionOf : Cursor.nameOf (graph.cursor (graph.definitionOf id)).spelling =
    Cursor.nameOf (graph.cursor tag).spelling := by
  rcases declares.definitionOf_cases with ⟨-, same⟩ | ⟨-, same⟩
  · rw [same]
  · rw [same, ← reported.name declares.reached declares.isTag, declares.defining]

variable (identify : graph.KeysIdentify unit)

include identify

theorem kind_decl : ((graph.header unit).decl (graph.placeOf (graph.reachable unit) id)).kind =
    (graph.cursor tag).kind := by
  rw [identify.decl_placeOf declares.reached, kind_declarationOf,
    declares.kind_definitionOf reported]

theorem properName?_decl :
    ((graph.header unit).decl (graph.placeOf (graph.reachable unit) id)).properName? =
      Cursor.nameOf (graph.cursor tag).spelling := by
  rw [identify.decl_placeOf declares.reached, properName?_declarationOf,
    declares.name_definitionOf reported]

end Declares

variable {id : CursorId} {name : String}

theorem TagsUnique.shareName (unique : graph.TagsUnique unit)
    (reported : graph.DefinitionsReported unit) (identify : graph.KeysIdentify unit)
    (reached : graph.Reaches unit id) (isTag : graph.IsTag id)
    (named : Cursor.nameOf (graph.cursor id).spelling = some name) :
    (graph.header unit).ShareName rootPlace name fun place =>
      ∃ again, graph.Declares unit (graph.definingCursor id) again ∧
        graph.placeOf (graph.reachable unit) again = place where
  named := by
    rintro _ ⟨again, declares, rfl⟩
    rw [declares.properName?_decl reported identify, reported.name reached isTag, named]
  isTag := by
    rintro _ ⟨again, declares, rfl⟩
    have kind := declares.kind_decl reported identify
    rw [← declares.kind_eq reported] at kind
    rcases declares.isTag with own | own <;> simp [Header.tagOf?, kind, own]
  namesakes := by
    intro other declaresType namedOther
    obtain ⟨again, declares, isPlace | isTarget⟩ :=
      unique reached isTag declaresType named namedOther
    · exact .inl ⟨again, declares, isPlace⟩
    · exact .inr ⟨_, isTarget, again, declares, rfl⟩

/-- What is a class with all members of the declaration at a place has those of the cursor that
    stands for it. -/
theorem ClassHolds.of_holdsMembers {names : Renaming} {newName : String} {item : Item}
    (identify : graph.KeysIdentify unit) (reached : graph.Reaches unit id)
    (isTag : graph.IsTag (graph.definitionOf id))
    (isClass : item.classOf? = some (graph.placeOf (graph.reachable unit) id, newName))
    (holds : Job.HoldsMembers ⟨graph.header unit, names⟩ item) :
    graph.ClassHolds unit names (graph.placeOf (graph.reachable unit) id) newName
      (graph.definitionOf id) item := by
  have kind : ((graph.header unit).decl (graph.placeOf (graph.reachable unit) id)).kind =
      (graph.cursor (graph.definitionOf id)).kind := by
    rw [identify.decl_placeOf reached, kind_declarationOf]
  cases item with
  | enumClass place own comment constants =>
    cases isClass
    obtain ⟨isEnum, owner, become⟩ := holds
    have own := kind.symm.trans isEnum
    rw [identify.childrenOfKind_placeOf reached (.inr ⟨own, rfl⟩)] at become
    exact .enum own become
  | structClass place own comment fields =>
    cases isClass
    obtain ⟨noEnum, given, become⟩ := holds
    have own := isTag.resolve_right fun isEnum => noEnum (kind.trans isEnum)
    rw [identify.childrenOfKind_placeOf reached (.inl ⟨own, rfl⟩)] at become
    exact .struct own become
  | _ => cases isClass

/-- The declarations of the children of a unit are the children of its declaration. -/
theorem KeysIdentify.childrenOf_rootPlace (identify : graph.KeysIdentify unit)
    (isUnit : (graph.cursor unit).kind = .unit) :
    (graph.header unit).childrenOf rootPlace =
      (graph.cursor unit).children.map (graph.placeOf (graph.reachable unit)) := by
  have own : graph.definitionOf unit = unit := definitionOf_of_not_struct (by simp [isUnit])
  rw [Header.childrenOf, ← placeOf_root unit, identify.decl_placeOf .root, own,
    children_declarationOf (.inl isUnit)]
  simp only [membersOf, isUnit]

theorem reaches_child (isUnit : (graph.cursor unit).kind = .unit)
    (inside : id ∈ (graph.cursor unit).children) : graph.Reaches unit id := by
  refine .link .root ?_
  rw [definitionOf_of_not_struct (by simp [isUnit])]
  exact mem_links_of_mem_membersOf (.inl isUnit) (by simpa only [membersOf, isUnit] using inside)

variable {names : Renaming} {className : String} {s : Progress}

/-- A declaration of a tag that is a child of the unit is asked for if its name is in scope. -/
theorem Declares.name_mem_exported {tag : CursorId} (declares : graph.Declares unit tag id)
    (reported : graph.DefinitionsReported unit) (identify : graph.KeysIdentify unit)
    (isUnit : (graph.cursor unit).kind = .unit) (inside : id ∈ (graph.cursor unit).children)
    (named : Cursor.nameOf (graph.cursor tag).spelling = some name)
    (inScope : names.inScope name = true)
    (run : (Job.exportHeader ⟨graph.header unit, names⟩ className rootPlace).Succeeds {} () s) :
    name ∈ s.exported := by
  have kind := declares.kind_decl reported identify
  rw [← declares.kind_eq reported] at kind
  have ofDecl := declares.properName?_decl reported identify
  rw [named] at ofDecl
  have asked : Job.Task.decl (graph.placeOf (graph.reachable unit) id) ∈
      Job.headerTasks ⟨graph.header unit, names⟩ rootPlace := by
    refine List.mem_append_right _ (List.mem_map_of_mem (List.mem_filter.mpr ⟨?_, ?_⟩))
    · rw [identify.childrenOf_rootPlace isUnit]
      exact List.mem_map_of_mem inside
    · simp only [Job.inScope, ofDecl, Option.any_some, inScope, kind]
      rcases declares.isTag with own | own <;> simp [own, DeclKind.declaresType]
  exact (Job.originates_of_exportHeader Job.closedUnderExport_declaresType
    (fun _ wanted => wanted.declaresType) run).2.1 _ asked name ofDecl

/-- After a successful run each structure or enumeration with a declaration in scope has one class.
    For a structure, and for an enumeration without other declarations, it has all members of the
    definition. Otherwise it has all constants of the declaration that got the class. -/
theorem tags_classed (isUnit : (graph.cursor unit).kind = .unit)
    (identify : graph.KeysIdentify unit) (reported : graph.DefinitionsReported unit)
    (unique : graph.TagsUnique unit) (fit : (graph.header unit).TypesFit rootPlace)
    (run : (Job.exportHeader ⟨graph.header unit, names⟩ className rootPlace).Succeeds {} () s)
    (inside : id ∈ (graph.cursor unit).children) (isTag : graph.IsTag id)
    (named : Cursor.nameOf (graph.cursor id).spelling = some name)
    (inScope : names.inScope name = true) :
    let tag := graph.definingCursor id
    ∃ met newName item, graph.Declares unit tag met ∧
      let place := graph.placeOf (graph.reachable unit) met
      s.classes.find? place = some newName ∧ item ∈ s.items ∧
        ((graph.cursor id).kind = .struct ∨ (∀ other, graph.Declares unit tag other → other = tag) →
          graph.ClassHolds unit names place newName tag item) ∧
        ((graph.cursor id).kind = .enum →
          graph.ClassHolds unit names place newName met item) ∧
        ∀ other, graph.Declares unit tag other →
          s.classes.find? (graph.placeOf (graph.reachable unit) other) ≠ none →
            graph.placeOf (graph.reachable unit) other = place := by
  intro tag
  have reached := reaches_child isUnit inside
  have own : graph.Declares unit tag id := ⟨reached, isTag, rfl⟩
  have share := unique.shareName reported identify reached isTag named
  have isMarked := own.name_mem_exported reported identify isUnit inside
    ((reported.name reached isTag).trans named) inScope run
  obtain ⟨_, newName, item, ⟨met, declares, rfl⟩, classed, written, isClass, holds, only⟩ :=
    Job.exists_class_of_tag fit share run isMarked
  have sameKind : (graph.cursor met).kind = (graph.cursor id).kind :=
    (declares.kind_eq reported).trans (own.kind_eq reported).symm
  have isTagDefinition : graph.IsTag (graph.definitionOf met) := by
    rw [IsTag, declares.kind_definitionOf reported, ← own.kind_eq reported]
    exact isTag
  have holdsClass :=
    ClassHolds.of_holdsMembers identify declares.reached isTagDefinition isClass holds
  refine ⟨met, newName, item, declares, classed, written, fun settled => ?_, fun kind => ?_,
    fun other again => only _ ⟨other, again, rfl⟩⟩
  · have isDefinition : graph.definitionOf met = tag := by
      rcases declares.definitionOf_cases with ⟨-, same⟩ | ⟨kind, same⟩
      · exact same
      · refine same.trans (settled.resolve_left ?_ met declares)
        simp [← sameKind, kind]
    rwa [isDefinition] at holdsClass
  · rwa [definitionOf_of_not_struct (by simp [sameKind, kind])] at holdsClass

/-- `struct S; struct S { int x; }; enum E; enum E { A };` -/
def forwardDeclared : CursorGraph where
  cursors := #[
    { kindName := "TRANSLATION_UNIT", children := [1, 2, 4, 5] },
    { kindName := "STRUCT_DECL", hash := 1, spelling := some "S", definition := some 2 },
    { kindName := "STRUCT_DECL", hash := 2, spelling := some "S", definition := some 2,
      children := [3] },
    { kindName := "FIELD_DECL", hash := 3, spelling := some "x",
      type := some { kindName := "INT", spelling := "int" } },
    { kindName := "ENUM_DECL", hash := 4, spelling := some "E", definition := some 5,
      enumType := some { kindName := "UINT", spelling := "unsigned int" } },
    { kindName := "ENUM_DECL", hash := 5, spelling := some "E", definition := some 5,
      enumType := some { kindName := "UINT", spelling := "unsigned int" }, children := [6] },
    { kindName := "ENUM_CONSTANT_DECL", hash := 6, spelling := some "A", enumValue := some 0 }]

namespace ForwardDeclared

def int : CType := { kind := .scalar .int, spelling := "int", rawKind := "INT" }

def unsigned : CType :=
  { kind := .scalar .unsignedInt, spelling := "unsigned int", rawKind := "UINT" }

theorem header_eq : forwardDeclared.header 0 = ⟨#[
    { kind := .unit, rawKind := "TRANSLATION_UNIT", children := [1, 1, 3, 4] },
    { kind := .struct, rawKind := "STRUCT_DECL", name := some "S", children := [2] },
    { kind := .field, rawKind := "FIELD_DECL", name := some "x", type := some int },
    { kind := .enum, rawKind := "ENUM_DECL", name := some "E", underlying := some unsigned },
    { kind := .enum, rawKind := "ENUM_DECL", name := some "E", underlying := some unsigned,
      children := [5] },
    { kind := .enumConstant, rawKind := "ENUM_CONSTANT_DECL", name := some "A",
      value := some 0 }]⟩ :=
  rfl

theorem mem_of_reaches ⦃id : CursorId⦄ (reached : forwardDeclared.Reaches 0 id) :
    id ∈ [0, 1, 2, 3, 4, 5, 6] :=
  reached.mem_of_closed (by decide) (by decide)

theorem among_of_reaches {node : Node}
    (reaches : (forwardDeclared.header 0).Reaches rootPlace node) :
    node.Among [0, 1, 2, 3, 4, 5] [int, unsigned] := by
  have declLinks : [0, 1, 2, 3, 4, 5].map (fun id => (forwardDeclared.header 0).links (.decl id)) =
      [[.decl 1, .decl 1, .decl 3, .decl 4], [.decl 2], [.type int], [.type unsigned],
        [.decl 5, .type unsigned], []] := rfl
  have typeLinks : [int, unsigned].map (fun type => (forwardDeclared.header 0).links (.type type)) =
      [[], []] := rfl
  exact reaches.among_of_links declLinks typeLinks (by decide) (by simp [Node.Among])

theorem keysIdentify : forwardDeclared.KeysIdentify 0 :=
  .of_mem mem_of_reaches (by decide)

theorem definitionsReported : forwardDeclared.DefinitionsReported 0 where
  kindName id reached _ := by
    have same : ∀ id ∈ [0, 1, 2, 3, 4, 5, 6],
        (forwardDeclared.cursor (forwardDeclared.definingCursor id)).kindName =
          (forwardDeclared.cursor id).kindName := by
      decide
    exact same id (mem_of_reaches reached)
  name id reached _ := by
    have same : ∀ id ∈ [0, 1, 2, 3, 4, 5, 6],
        (forwardDeclared.cursor (forwardDeclared.definingCursor id)).spelling =
          (forwardDeclared.cursor id).spelling := by
      decide
    rw [same id (mem_of_reaches reached)]

/-- No type of the header is declared. -/
theorem typesFit : (forwardDeclared.header 0).TypesFit rootPlace := by
  have undeclared : ∀ type : CType, (forwardDeclared.header 0).Reaches rootPlace (.type type) →
      type.declaration = none := by
    intro type reaches
    have among : type ∈ [int, unsigned] := among_of_reaches reaches
    simp only [List.mem_cons, List.not_mem_nil, or_false] at among
    rcases among with rfl | rfl <;> rfl
  constructor
  all_goals
    intro type id reaches _ declared
    cases (undeclared type reaches).symm.trans declared

theorem declares_of_child {tag id : CursorId} (isChild : id ∈ [1, 2, 4, 5])
    (defining : forwardDeclared.definingCursor id = tag) : forwardDeclared.Declares 0 tag id where
  reached := reaches_child rfl isChild
  isTag := by
    have tags : ∀ id ∈ [1, 2, 4, 5], (forwardDeclared.cursor id).kind = .struct ∨
        (forwardDeclared.cursor id).kind = .enum := by
      decide
    exact tags id isChild
  defining := defining

theorem tagsUnique : forwardDeclared.TagsUnique 0 := by
  intro id other name reached isTag declares named namedOther
  have again : ∀ id ∈ [0, 1, 2, 3, 4, 5, 6],
      (forwardDeclared.cursor id).kind = .struct ∨ (forwardDeclared.cursor id).kind = .enum →
        ∀ other ∈ [0, 1, 2, 3, 4, 5],
          Cursor.nameOf (forwardDeclared.cursor id).spelling =
              ((forwardDeclared.header 0).decl other).properName? →
            ∃ again ∈ [1, 2, 4, 5],
              forwardDeclared.definingCursor again = forwardDeclared.definingCursor id ∧
                forwardDeclared.placeOf (forwardDeclared.reachable 0) again = other := by
    rw [header_eq]
    decide
  obtain ⟨again, isChild, defining, isPlace⟩ :=
    again id (mem_of_reaches reached) isTag other (among_of_reaches declares.1)
      (named.trans namedOther.symm)
  exact ⟨again, declares_of_child isChild defining, .inl isPlace⟩

def job : Job :=
  ⟨forwardDeclared.header 0, .prefixing⟩

def exported : Progress :=
  ((job.exportHeader "Lib" rootPlace).outcome {}).2

theorem run : (job.exportHeader "Lib" rootPlace).Succeeds {} () exported :=
  .of_fst (by
    rw [job, header_eq]
    cbv)

/-- The class of the structure has the field of the definition, although the structure is declared
    before it. -/
theorem fields_exported :
    forwardDeclared.memberDecls 0 1 = [] ∧ (forwardDeclared.memberDecls 0 2).length = 1 ∧
      ∃ place newName item, item ∈ exported.items ∧
        forwardDeclared.ClassHolds 0 .prefixing place newName 2 item := by
  obtain ⟨met, newName, item, -, -, written, holds, -⟩ :=
    tags_classed rfl keysIdentify definitionsReported tagsUnique typesFit run
      (show 1 ∈ (forwardDeclared.cursor 0).children by decide) (.inl rfl)
      (show Cursor.nameOf (forwardDeclared.cursor 1).spelling = some "S" by decide) (by decide)
  exact ⟨rfl, rfl, _, newName, item, written, holds (.inl rfl)⟩

/-- The enumeration is declared before its definition, which is reported with both declarations, and
    no class has the constant of the definition. -/
theorem constants_lost :
    (forwardDeclared.cursor 0).kind = .unit ∧ forwardDeclared.KeysIdentify 0 ∧
      forwardDeclared.DefinitionsReported 0 ∧ forwardDeclared.TagsUnique 0 ∧
      (forwardDeclared.header 0).TypesFit rootPlace ∧
      (job.exportHeader "Lib" rootPlace).Succeeds {} () exported ∧
      (∀ id ∈ [4, 5], id ∈ (forwardDeclared.cursor 0).children ∧
        (forwardDeclared.cursor id).kind = .enum ∧
        (forwardDeclared.cursor id).definition = some 5 ∧
        Cursor.nameOf (forwardDeclared.cursor id).spelling = some "E") ∧
      job.names.inScope "E" = true ∧
      ¬∃ place newName item, item ∈ exported.items ∧
        forwardDeclared.ClassHolds 0 .prefixing place newName 5 item := by
  refine ⟨rfl, keysIdentify, definitionsReported, tagsUnique, typesFit, run, by decide, by decide,
    ?_⟩
  rintro ⟨place, newName, item, written, holds⟩
  have unfilled : exported.items.all (fun
      | .enumClass _ _ _ constants => constants.isEmpty
      | _ => true) = true := by
    rw [exported, job, header_eq]
    cbv
  have fits := List.all_eq_true.mp unfilled item written
  cases holds with
  | struct kind => cases kind
  | enum kind become =>
    rw [List.isEmpty_iff.mp fits] at become
    have one : forwardDeclared.memberDecls 0 5 =
        [{ kind := .enumConstant, rawKind := "ENUM_CONSTANT_DECL", name := some "A",
           value := some 0 }] :=
      rfl
    rw [one, List.mapM_cons] at become
    cases become

end ForwardDeclared

end CursorGraph

end HeaderBindings
