import HeaderBindings.Proofs.Cursor.Discovery
import HeaderBindings.Proofs.Export.Nesting
import HeaderBindings.Proofs.Export.Run

/-!
# What exports can rely on

Exports fail on a declaration that lacks what one of its kind must have. Declarations that come from
cursors lack nothing but names, provided that the parser reports with each cursor what belongs to
its kind: every declaration of the table was made by the case for its own kind, and the arguments of
a function are parameters, also where another cursor with the same key stands for them.
-/

namespace HeaderBindings

/-- A spelling gives no empty name. -/
theorem Cursor.nameOf_ne_empty {spelling : Option String} {name : String}
    (named : Cursor.nameOf spelling = some name) : name ≠ "" := by
  unfold Cursor.nameOf at named
  dsimp only at named
  split at named
  · cases named
  · rename_i isName
    cases named
    intro isEmpty
    have text := congrArg String.toList isEmpty
    rw [String.toList_ofList] at text
    simp [text] at isName

namespace CursorGraph

variable (graph : CursorGraph)

/-- The parser reports with a cursor what belongs to its kind, and a function's arguments are
    parameters. -/
structure IsComplete (cursor : Cursor) : Prop where
  value : cursor.kind = .enumConstant → cursor.enumValue ≠ none
  typedefType : cursor.kind = .typedef → cursor.typedefType ≠ none
  resultType : cursor.kind = .function → cursor.resultType ≠ none
  type : cursor.kind = .field ∨ cursor.kind = .parameter → cursor.type ≠ none
  arguments : cursor.kind = .function →
    ∀ id ∈ cursor.arguments, (graph.cursor id).kindName = "PARM_DECL"

def Complete : Prop :=
  ∀ cursor ∈ graph.cursors, graph.IsComplete cursor

variable {graph} {root : CursorId}

theorem Complete.cursor (complete : graph.Complete) (id : CursorId) :
    graph.IsComplete (graph.cursor id) := by
  rw [CursorGraph.cursor, Array.getD_eq_getD_getElem?]
  cases place : graph.cursors[id]? with
  | some cursor => exact complete cursor (Array.mem_of_getElem? place)
  | none =>
    have kind : ({ kindName := Cursor.noDeclaration } : Cursor).kind = .unsupported := by decide
    constructor <;> simp [kind]

/-! ## The declarations of the table -/

@[simp] theorem kind_declarationOf (found : Found) (cursor : Cursor) :
    (graph.declarationOf found cursor).kind = cursor.kind := by
  unfold declarationOf
  cases cursor.kind <;> rfl

@[simp] theorem name_declarationOf (found : Found) (cursor : Cursor) :
    (graph.declarationOf found cursor).name = Cursor.nameOf cursor.spelling := by
  unfold declarationOf
  cases cursor.kind <;> rfl

theorem properName?_declarationOf (found : Found) (cursor : Cursor) :
    (graph.declarationOf found cursor).properName? = Cursor.nameOf cursor.spelling := by
  rw [Decl.properName?, name_declarationOf]
  cases named : Cursor.nameOf cursor.spelling with
  | none => rfl
  | some name => simpa using Cursor.nameOf_ne_empty named

namespace IsComplete

variable {cursor : Cursor} (complete : graph.IsComplete cursor) (found : Found)

include complete

theorem decl_value (kind : cursor.kind = .enumConstant) :
    (graph.declarationOf found cursor).value ≠ none := by
  have value := complete.value kind
  unfold declarationOf
  simpa only [kind] using value

theorem decl_underlying (kind : cursor.kind = .typedef) :
    (graph.declarationOf found cursor).underlying ≠ none := by
  have type := complete.typedefType kind
  unfold declarationOf
  simpa only [kind, optionOf_eq_map, ne_eq, Option.map_eq_none_iff] using type

theorem decl_resultType (kind : cursor.kind = .function) :
    (graph.declarationOf found cursor).resultType ≠ none := by
  have type := complete.resultType kind
  unfold declarationOf
  simpa only [kind, optionOf_eq_map, ne_eq, Option.map_eq_none_iff] using type

theorem decl_type (kind : cursor.kind = .field ∨ cursor.kind = .parameter) :
    (graph.declarationOf found cursor).type ≠ none := by
  have type := complete.type kind
  unfold declarationOf
  rcases kind with kind | kind <;>
    simpa only [kind, optionOf_eq_map, ne_eq, Option.map_eq_none_iff] using type

end IsComplete

theorem arguments_declarationOf (found : Found) {cursor : Cursor}
    (kind : cursor.kind = .function) :
    (graph.declarationOf found cursor).arguments =
      some (graph.placesOf found cursor.arguments) := by
  unfold declarationOf
  simp only [kind]

/-- A declaration of a supported kind was made from a cursor that was found. -/
theorem exists_entry_of_kind {id : DeclId}
    (kind : ((graph.header root).decl id).kind ≠ .unsupported) :
    ∃ entry ∈ graph.reachable root, (graph.header root).decl id =
      graph.declarationOf (graph.reachable root) (graph.cursor entry.2) := by
  have isDecl : (graph.header root).decl id = (((graph.reachable root)[id]?).map fun entry =>
      graph.declarationOf (graph.reachable root) (graph.cursor entry.2)).getD {} := by
    simp [header, Header.decl, Array.getD_eq_getD_getElem?]
  cases place : (graph.reachable root)[id]? with
  | none => exact absurd (by rw [isDecl, place]; rfl) kind
  | some entry => exact ⟨entry, List.mem_of_getElem? place, by rw [isDecl, place]; rfl⟩

theorem exists_entry_of_mem {job : Job} (isHeader : job.header = graph.header root)
    {kind : DeclKind} (supported : kind ≠ .unsupported) {id : DeclId} {decl : Decl}
    (inside : decl ∈ job.childrenOfKind kind id) :
    ∃ entry ∈ graph.reachable root, (graph.cursor entry.2).kind = kind ∧
      decl = graph.declarationOf (graph.reachable root) (graph.cursor entry.2) := by
  simp only [Job.childrenOfKind, List.mem_filter, List.mem_map, decide_eq_true_eq] at inside
  obtain ⟨⟨child, -, rfl⟩, rfl⟩ := inside
  rw [isHeader] at supported ⊢
  obtain ⟨entry, isFound, isDecl⟩ := exists_entry_of_kind supported
  exact ⟨entry, isFound, by rw [isDecl, kind_declarationOf], isDecl⟩

/-- A parameter of a complete function has a type, even if another cursor stands for it: that one is
    of the same kind. -/
theorem Complete.argument_type (complete : graph.Complete) {entry : Cursor.Key × CursorId}
    (isFound : entry ∈ graph.reachable root) (kind : (graph.cursor entry.2).kind = .function)
    {argument : Decl}
    (inside : argument ∈ (graph.header root).argumentsOf
      (graph.declarationOf (graph.reachable root) (graph.cursor entry.2))) :
    argument.type ≠ none := by
  rw [Header.argumentsOf, arguments_declarationOf _ kind, Option.getD_some, placesOf,
    List.map_map] at inside
  obtain ⟨id, isArgument, rfl⟩ := List.mem_map.mp inside
  have isLink : id ∈ graph.links (graph.cursor entry.2) := by
    unfold links
    simp [kind, isArgument]
  obtain ⟨other, otherFound, sameKey, isDecl⟩ := decl_placeOf (link_mem_keys isFound isLink)
  have isParameter : (graph.cursor other.2).kind = .parameter := by
    obtain ⟨otherId, -, rfl⟩ := exists_of_mem_reachable otherFound
    have kindName := (complete.cursor entry.2).arguments kind id isArgument
    have same : (graph.cursor (graph.definitionOf otherId)).kindName =
        (graph.cursor (graph.definitionOf id)).kindName := congrArg Cursor.Key.kindName sameKey
    have own : graph.definitionOf id = id := if_neg (by simp [kindName])
    rw [entryOf, Cursor.kind, same, own, kindName]
    rfl
  rw [Function.comp_apply, isDecl]
  exact (complete.cursor other.2).decl_type _ (.inr isParameter)

/-- The functions that are bound were made from functions. -/
theorem exists_entry_of_bound {job : Job} (isHeader : job.header = graph.header root)
    {place : DeclId} {id : DeclId} (bound : id ∈ job.childrenInScope place (· = .function)) :
    ∃ entry ∈ graph.reachable root, (graph.cursor entry.2).kind = .function ∧
      job.header.decl id = graph.declarationOf (graph.reachable root) (graph.cursor entry.2) := by
  have kind := (List.mem_filter.mp bound).2
  simp only [Bool.and_eq_true, decide_eq_true_eq] at kind
  rw [isHeader] at kind ⊢
  obtain ⟨entry, isFound, isDecl⟩ := exists_entry_of_kind (by rw [kind.1]; decide)
  rw [isDecl, kind_declarationOf] at kind
  exact ⟨entry, isFound, kind.1, isDecl⟩

/-- What an export of the declarations of a complete graph can fail on: a name that is missing. -/
theorem exportHeader_outcome {unit : CursorId} {names : Renaming} (complete : graph.Complete)
    (expands : ∃ pieces, Template.pieces names.pattern names.template.toList = .ok pieces)
    (className : String) (s : Progress) :
    let job : Job := ⟨graph.header unit, names⟩
    let outcome := (job.exportHeader className rootPlace).outcome s
    outcome.1 = .ok () ∨
      ∃ owner fault id, outcome.1 = .error (.malformed (some owner) fault) ∧
        graph.Reaches unit id ∧
        Cursor.nameOf (graph.cursor (graph.definitionOf id)).spelling = none ∧
        ((graph.cursor (graph.definitionOf id)).kind = .field ∧ fault = .fieldName ∨
          (graph.cursor (graph.definitionOf id)).kind = .enumConstant ∧ fault = .constant) := by
  intro job outcome
  cases comes : outcome.1 with
  | ok _ => exact .inl rfl
  | error failure =>
    right
    cases Job.cause_of_exportHeader comes with
    | template fails =>
      obtain ⟨pieces, isOk⟩ := expands
      cases isOk.symm.trans fails
    | constant inside lacks =>
      obtain ⟨entry, isFound, kind, rfl⟩ := exists_entry_of_mem rfl (by decide) inside
      obtain ⟨id, reached, rfl⟩ := exists_of_mem_reachable isFound
      rw [properName?_declarationOf] at lacks
      have nameless := lacks.resolve_right ((complete.cursor _).decl_value _ kind)
      exact ⟨_, _, id, rfl, reached, nameless, .inr ⟨kind, rfl⟩⟩
    | fieldName inside lacks =>
      obtain ⟨entry, isFound, kind, rfl⟩ := exists_entry_of_mem rfl (by decide) inside
      obtain ⟨id, reached, rfl⟩ := exists_of_mem_reachable isFound
      rw [properName?_declarationOf] at lacks
      exact ⟨_, _, id, rfl, reached, lacks, .inl ⟨kind, rfl⟩⟩
    | fieldType inside lacks =>
      obtain ⟨entry, isFound, kind, rfl⟩ := exists_entry_of_mem rfl (by decide) inside
      exact absurd lacks ((complete.cursor _).decl_type _ (.inl kind))
    | typedefTarget kind lacks =>
      obtain ⟨entry, isFound, isDecl⟩ := exists_entry_of_kind (by rw [kind]; decide)
      rw [isDecl] at lacks
      rw [isDecl, kind_declarationOf] at kind
      exact absurd lacks ((complete.cursor _).decl_underlying _ kind)
    | functionResult bound lacks =>
      obtain ⟨entry, isFound, kind, isDecl⟩ := exists_entry_of_bound rfl bound
      rw [isDecl] at lacks
      exact absurd lacks ((complete.cursor _).decl_resultType _ kind)
    | functionArguments bound lacks =>
      obtain ⟨entry, isFound, kind, isDecl⟩ := exists_entry_of_bound rfl bound
      rw [isDecl, arguments_declarationOf _ kind] at lacks
      cases lacks
    | functionArgument bound inside lacks | argument bound inside lacks =>
      obtain ⟨entry, isFound, kind, isDecl⟩ := exists_entry_of_bound rfl bound
      rw [isDecl] at inside
      exact absurd lacks (complete.argument_type isFound kind inside)

/-- A structure with a field without a name. -/
def namelessField : CursorGraph where
  cursors := #[
    { kindName := "TRANSLATION_UNIT", children := [1] },
    { kindName := "STRUCT_DECL", hash := 1, spelling := some "point", children := [2] },
    { kindName := "FIELD_DECL", hash := 2, type := some { kindName := "INT", spelling := "int" } }]

theorem namelessField_complete : namelessField.Complete := by
  intro cursor inside
  simp only [namelessField, List.mem_toArray, List.mem_cons, List.not_mem_nil, or_false] at inside
  rcases inside with rfl | rfl | rfl <;> constructor <;> decide

theorem namelessField_header : namelessField.header 0 = ⟨#[
    { kind := .unit, rawKind := "TRANSLATION_UNIT", children := [1] },
    { kind := .struct, rawKind := "STRUCT_DECL", name := some "point", children := [2] },
    { kind := .field, rawKind := "FIELD_DECL",
      type := some { kind := .scalar .int, spelling := "int", rawKind := "INT" } }]⟩ :=
  rfl

/-- The export fails, and it does so on the field. -/
theorem namelessField_outcome :
    let job : Job := ⟨namelessField.header 0, .prefixing⟩
    namelessField.Complete ∧
    (∃ pieces, Template.pieces job.names.pattern job.names.template.toList = .ok pieces) ∧
    ((job.exportHeader "Lib" rootPlace).outcome {}).1 =
      .error (.malformed (some "point") .fieldName) ∧
    ∃ id, namelessField.Reaches 0 id ∧
      Cursor.nameOf (namelessField.cursor (namelessField.definitionOf id)).spelling = none ∧
      (namelessField.cursor (namelessField.definitionOf id)).kind = .field := by
  intro job
  have expands : ∃ pieces,
      Template.pieces job.names.pattern job.names.template.toList = .ok pieces :=
    ⟨[.char 'X', .char '_', .group 0], by cbv⟩
  have fails : ((job.exportHeader "Lib" rootPlace).outcome {}).1 =
      .error (.malformed (some "point") .fieldName) := by
    simp only [job, namelessField_header]
    cbv
  rcases exportHeader_outcome namelessField_complete expands "Lib" {} with
    succeeds | ⟨owner, fault, id, failed, reached, nameless, field | constant⟩
  · cases fails.symm.trans succeeds
  · exact ⟨namelessField_complete, expands, fails, id, reached, nameless, field.1⟩
  · obtain ⟨-, rfl⟩ := constant
    cases fails.symm.trans failed

end CursorGraph

end HeaderBindings
