import HeaderBindings.Proofs.Export.Lookups
import HeaderBindings.Proofs.Export.NameMap

/-!
# The classes of structures

Classes are recorded by declaration and looked up by name. The two meet for a type that names a
declaration with a name, if that was exported. They do not for the canonical type of a structure
without a name, even if the structure has a class by a type definition of it.
-/

namespace HeaderBindings

namespace Job

variable {job : Job} {root : DeclId} {s : Progress}

/-- A structure type resolves to a name of the class of its structure: to the class itself or to
    another name that the text has for it. -/
def ResolvesToClass (job : Job) (s : Progress) (native : Bool) (type : CType)
    (className : String) : Prop :=
  ∃ newName, job.header.resolve s.given native type = .record newName ∧
    (newName = className ∨ ∃ comment, Item.alias newName className comment ∈ s.items)

theorem resolve_eq_record {type : CType} {native : Bool} {newName : String}
    (kind : type.canonical.kind = .record) :
    job.header.resolve s.given native type = .record newName ↔
      job.header.recordName s.given type = .given newName := by
  rw [Header.resolve_eq, Header.assemble, Header.scalar?_of_record kind]
  simp only [kind, Header.recordType]
  cases job.header.recordName s.given type <;> simp

/-- After a successful run, a structure that has a class is referred to by a name of that class just
    when the declaration that the type names has a name that was exported. -/
theorem resolvesToClass_iff (coherent : job.header.Coherent root)
    (unambiguous : job.header.Unambiguous root) {libraryClass : String}
    (run : (job.exportHeader libraryClass root).Succeeds {} () s) {type : CType} {tag : DeclId}
    {className : String} (reaches : job.header.Reaches root (.type type))
    (kind : type.canonical.kind = .record) (declared : type.canonical.declaration = some tag)
    (classed : s.classes.find? tag = some className) (native : Bool) :
    job.ResolvesToClass s native type className ↔
      ∃ name, (job.header.declarationOf? type).bind (·.properName?) = some name ∧
        name ∈ s.exported := by
  have agree := (sound_of_exportHeader coherent.tagTypes unambiguous run).agree
  constructor
  · rintro ⟨newName, resolves, -⟩
    have given := (resolve_eq_record kind).mp resolves
    unfold Header.recordName at given
    cases named : (job.header.declarationOf? type).bind (·.properName?) with
    | none =>
      rw [named] at given
      cases given
    | some name =>
      cases known : s.given.find? name with
      | none =>
        simp only [named, known] at given
        cases given
      | some _ => exact ⟨name, rfl, agree.exported_of_given known⟩
  · rintro ⟨name, named, marked⟩
    obtain ⟨newName, classOfTag, other, given, declaredOther, calls⟩ :=
      recordName_of_marked coherent agree reaches kind named marked
    rw [declared, Option.some.injEq] at declaredOther
    subst declaredOther
    have same : classOfTag = className := Option.some.inj (calls.classed.symm.trans classed)
    subst same
    exact ⟨newName, (resolve_eq_record kind).mpr given, calls.declared⟩

end Job

/-!
A function with a pointer to a structure without a name, and with a callback that has one. The
structure has the class of its type definition. The callback is resolved canonically, and so without
the type definition.
-/

namespace UnnamedRecord

def void : CType := { kind := .scalar .void, spelling := "void" }

def record : CType := { kind := .record, spelling := "P", declaration := some 3 }

def definition : CType :=
  { kind := .typedef, spelling := "P", ownCanonical := some record, declaration := some 2 }

def canonicalPointer : CType := { kind := .pointer, spelling := "P *", pointee := some record }

def pointer : CType :=
  { kind := .pointer, spelling := "P *", ownCanonical := some canonicalPointer,
    pointee := some definition }

def canonicalPrototype : CType :=
  { kind := .function, spelling := "void (P *)", result := some void,
    arguments := [canonicalPointer] }

def prototype : CType :=
  { kind := .function, spelling := "void (P *)", ownCanonical := some canonicalPrototype,
    result := some void, arguments := [pointer] }

def canonicalCallback : CType :=
  { kind := .pointer, spelling := "void (*)(P *)", pointee := some canonicalPrototype }

def callback : CType :=
  { kind := .pointer, spelling := "void (*)(P *)", ownCanonical := some canonicalCallback,
    pointee := some prototype }

def types : List CType :=
  [void, record, definition, canonicalPointer, pointer, canonicalPrototype, prototype,
    canonicalCallback, callback]

/-- `typedef struct {} P; void f(P *p, void (*cb)(P *));` -/
def job : Job :=
  ⟨⟨#[{ kind := .unit, children := [1, 2, 3] },
    { kind := .function, name := some "f", resultType := some void, arguments := some [4, 5] },
    { kind := .typedef, name := some "P", underlying := some record },
    { kind := .struct },
    { kind := .parameter, name := some "p", type := some pointer },
    { kind := .parameter, name := some "cb", type := some callback }]⟩, .prefixing⟩

def exported : Progress :=
  ((job.exportHeader "Lib" 0).outcome {}).2

theorem outcome : ((job.exportHeader "Lib" 0).outcome {}).1 = .ok () ∧
    exported.exported = ["P"] ∧ exported.classes.find? 3 = some "X_P" ∧
    job.header.resolve exported.given true record = .anonymous ∧
    exported.callbacks.map (·.2.references) = [[.none, .none]] := by
  refine ⟨?_, ?_, ?_, ?_, ?_⟩ <;> cbv

theorem run : (job.exportHeader "Lib" 0).Succeeds {} () exported :=
  .of_fst outcome.1

theorem reaches_among {node : Node} (reaches : job.header.Reaches 0 node) :
    node.Among [0, 1, 2, 3, 4, 5] types := by
  have declLinks : [0, 1, 2, 3, 4, 5].map (fun id => job.header.links (.decl id)) =
      [[.decl 1, .decl 2, .decl 3], [.decl 4, .decl 5, .type void], [.type record], [],
        [.type pointer], [.type callback]] := rfl
  have typeLinks : types.map (fun type => job.header.links (.type type)) =
      [[], [.decl 3], [.type record, .decl 2], [.type record],
        [.type canonicalPointer, .type definition], [.type void, .type canonicalPointer],
        [.type canonicalPrototype, .type void, .type pointer], [.type canonicalPrototype],
        [.type canonicalCallback, .type prototype]] := rfl
  exact reaches.among_of_links declLinks typeLinks (by decide) (by simp [Node.Among, types])

theorem coherent : job.header.Coherent 0 := by
  intro type reaches
  have among : type ∈ types := reaches_among reaches
  simp only [types, List.mem_cons, List.not_mem_nil, or_false] at among
  rcases among with rfl | rfl | rfl | rfl | rfl | rfl | rfl | rfl | rfl
  all_goals
    refine ⟨⟨?_, ?_⟩, ?_, ?_, ?_, ?_, ?_, ?_, ?_, ?_⟩ <;>
      simp [Header.decl, job, Header.IsDefined, CType.IsTagged, CType.parts, CType.canonical,
        TypeKind.isFunction, Decl.properName?, void, record, definition, canonicalPointer, pointer,
        canonicalPrototype, prototype, canonicalCallback, callback]

theorem unambiguous : job.header.Unambiguous 0 :=
  .of_distinct (fun _ reaches => reaches_among reaches) (by decide)

theorem reaches_pointer : job.header.Reaches 0 (.type pointer) := by
  have function : job.header.Reaches 0 (.decl 1) := .child .refl (by decide)
  have parameter : job.header.Reaches 0 (.decl 4) :=
    function.argument (by simp [Header.decl, job])
  exact parameter.ownType rfl

theorem reaches_record : job.header.Reaches 0 (.type record) :=
  reaches_pointer.canonical.part (CType.mem_parts_pointee rfl)

/-- The type definition of the structure resolves to the class of the structure. -/
theorem definition_resolvesToClass : job.ResolvesToClass exported true definition "X_P" := by
  have reaches := reaches_pointer.part (CType.mem_parts_pointee rfl)
  obtain ⟨-, marked, classed, -⟩ := outcome
  exact (Job.resolvesToClass_iff coherent unambiguous run reaches rfl rfl classed true).mpr
    ⟨"P", rfl, by simp [marked]⟩

/-- In a coherent header with unambiguous names, a callback in the library class may refer to a
    structure that has a class as to one without a name. -/
theorem record_not_resolvesToClass :
    job.header.Coherent 0 ∧ job.header.Unambiguous 0 ∧
      (job.exportHeader "Lib" 0).Succeeds {} () exported ∧
      job.header.Reaches 0 (.type record) ∧ record.canonical.kind = .record ∧
      record.canonical.declaration = some 3 ∧ exported.classes.find? 3 = some "X_P" ∧
      ¬ job.ResolvesToClass exported true record "X_P" ∧
      ∃ entry ∈ exported.callbacks, .none ∈ entry.2.references := by
  obtain ⟨-, -, classed, unnamed, references⟩ := outcome
  refine ⟨coherent, unambiguous, run, reaches_record, rfl, rfl, classed, ?_, ?_⟩
  · rintro ⟨newName, resolves, -⟩
    rw [unnamed] at resolves
    cases resolves
  · have inside : [.none, .none] ∈ exported.callbacks.map (·.2.references) := by simp [references]
    obtain ⟨entry, isCallback, same⟩ := List.mem_map.mp inside
    exact ⟨entry, isCallback, by simp [same]⟩

end UnnamedRecord

end HeaderBindings
