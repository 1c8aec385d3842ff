import HeaderBindings.Proofs.Export.Wanted

/-!
# Declarations that share a name

A header knows its type declarations by their plain names, tags and type definitions alike, and of
those that share a name only the one that it comes to first is exported. A declaration in scope is
sure to be exported if it owns its name, and may be lost if it does not.
-/

namespace HeaderBindings

namespace Header

variable (header : Header) (root : DeclId)

/-- No other type declaration has the name of a declaration, except for type definitions of it. -/
def OwnsName (id : DeclId) : Prop :=
  ∀ ⦃other : DeclId⦄ ⦃name : String⦄, header.DeclaresType root other → other ≠ id →
    (header.decl id).properName? = some name → (header.decl other).properName? = some name →
      header.typedefTarget? other = some id

/-- What a type definition names is no type definition. -/
def TargetsAreTags : Prop :=
  ∀ ⦃id target : DeclId⦄, header.DeclaresType root id → header.typedefTarget? id = some target →
    (header.decl target).kind ≠ .typedef

end Header

namespace Job

/-- Tags in scope have different names, and so have type definitions in scope. -/
def ObeysNameSpaces (job : Job) (root : DeclId) : Prop :=
  ((job.childrenInScope root fun kind => kind = .struct || kind = .enum).map
      fun id => (job.header.decl id).name).Nodup ∧
    ((job.childrenInScope root (· = .typedef)).map fun id => (job.header.decl id).name).Nodup

variable {job : Job} {root : DeclId} {s s' : Progress}

/-- What a declared type is, or names as a type definition, is declared and no type definition. -/
theorem kind_of_tagOf? (targets : job.header.TargetsAreTags root) {id tag : DeclId}
    (declares : job.header.DeclaresType root id) (isTag : job.header.tagOf? id = some tag) :
    job.header.DeclaresType root tag ∧ (job.header.decl tag).kind ≠ .typedef := by
  unfold Header.tagOf? at isTag
  split at isTag
  case h_1 kind | h_2 kind =>
    cases isTag
    exact ⟨declares, by simp [kind]⟩
  case h_3 =>
    obtain ⟨-, underlying, record, names, tagged⟩ := Header.exists_of_typedefTarget? isTag
    refine ⟨?_, targets declares isTag⟩
    exact (declares.1.underlying names).canonical.declaration (Header.tagTarget?_eq_some tagged).2

/-- A declaration that owns a marked name was exported itself, or it has a class. -/
theorem exported_or_classed (targets : job.header.TargetsAreTags root) {id : DeclId} {name : String}
    (owns : job.header.OwnsName root id) (named : (job.header.decl id).properName? = some name)
    (origin : job.MarkOrigin (job.header.DeclaresType root) s name) :
    job.WasExported (job.header.DeclaresType root) s id ∨
      ∃ className, s.classes.find? id = some className := by
  obtain ⟨other, was, namedOther | ⟨tag, className, isTag, namedTag, classed⟩⟩ := origin
  · by_cases same : other = id
    · exact .inl (same ▸ was)
    · have ofOther := owns was.isMember same named namedOther
      exact .inr (was.classed_of_namesake ofOther namedOther named)
  · by_cases same : tag = id
    · exact .inr ⟨className, same ▸ classed⟩
    · obtain ⟨declaresTag, noTypedef⟩ := kind_of_tagOf? targets was.isMember isTag
      have ofTag := owns declaresTag same named namedTag
      exact absurd (Header.exists_of_typedefTarget? ofTag).1 noTypedef

theorem kind_of_classed (targets : job.header.TargetsAreTags root) {id : DeclId}
    (origin : job.ClassOrigin (job.header.DeclaresType root) s id) :
    (job.header.decl id).kind ≠ .typedef := by
  obtain ⟨record, ⟨-, kind⟩ | ⟨definition, underlying, declares, kind, names, tagged⟩, -⟩ := origin
  · cases record <;> simp [kind]
  · refine targets declares ?_
    rw [Header.typedefTarget?_eq kind names, tagged, Option.map_some]

/-- After a successful run every type declaration in scope that owns its name is in the text: a
    structure or enumeration by its class, and a type definition of a function, or of a pointer to
    one, by two lines and as a callback of the library class. -/
theorem ownName_exported (targets : job.header.TargetsAreTags root) {className : String}
    (run : (job.exportHeader className root).Succeeds {} () s) {id : DeclId}
    (inside : id ∈ job.childrenInScope root (·.declaresType)) (owns : job.header.OwnsName root id) :
    ((job.header.decl id).kind = .struct ∨ (job.header.decl id).kind = .enum →
      ∃ newName, s.classes.find? id = some newName ∧
        ∃ item ∈ s.items, item.classOf? = some (id, newName)) ∧
      ∀ underlying prototype, (job.header.decl id).kind = .typedef →
        (job.header.decl id).underlying = some underlying →
          callbackPrototype? underlying = some prototype →
            ∃ name newName given, (job.header.decl id).properName? = some name ∧
              job.names.apply name = .ok newName ∧
              let binding := job.header.bindPrototype given prototype (some name)
                (job.header.decl id).comment
              (newName, binding) ∈ s.callbacks ∧
              .line ("typedef " ++ newName ++ "Native = " ++ binding.native.text ++ ";") ∈
                s.items.flatMap Item.chunks ∧
              .line ("typedef " ++ newName ++ " = " ++ binding.logical.text ++ ";") ∈
                s.items.flatMap Item.chunks := by
  obtain ⟨origins, asked, written⟩ := originates_of_exportHeader closedUnderExport_declaresType
    (fun _ wanted => wanted.declaresType) run
  obtain ⟨-, -, name, named⟩ := exists_name_of_mem_childrenInScope inside
  have isTask : .decl id ∈ job.headerTasks root :=
    List.mem_append_right _ (List.mem_map_of_mem inside)
  have exported := exported_or_classed targets owns named (origins.marks (asked _ isTask _ named))
  constructor
  · intro kind
    have classed : ∃ newName, s.classes.find? id = some newName := by
      rcases exported with was | classed
      · exact was.classed_self (by rcases kind with kind | kind <;> simp [Header.tagOf?, kind])
      · exact classed
    obtain ⟨newName, classed⟩ := classed
    exact ⟨newName, classed, written id newName classed⟩
  · intro underlying prototype kind names calls
    have was : job.WasExported (job.header.DeclaresType root) s id := by
      rcases exported with was | ⟨className, classed⟩
      · exact was
      · exact absurd kind (kind_of_classed targets (origins.classes classed))
    have noTag := tagOf?_of_untagged kind names (isFunction_of_callbackPrototype? calls).2
    obtain ⟨own, newName, given, namedOwn, renamed, isItem, isCallback⟩ :=
      (was.plain ⟨kind, noTag⟩).2 underlying prototype names calls
    refine ⟨own, newName, given, namedOwn, renamed, isCallback, ?_, ?_⟩
    all_goals exact List.mem_flatMap.mpr ⟨_, isItem, by simp [Item.chunks]⟩

end Job

/-!
A structure with a type definition of the same name, and a callback.
-/

namespace SharedTag

def void : CType := { kind := .scalar .void, spelling := "void" }

def record : CType := { kind := .record, spelling := "struct A", declaration := some 2 }

def prototype : CType := { kind := .function, spelling := "void (void)", result := some void }

def pointer : CType :=
  { kind := .pointer, spelling := "void (*)(void)", pointee := some prototype }

/-- `typedef struct A A; struct A {}; typedef void (*Cb)(void);` -/
def job : Job :=
  ⟨⟨#[{ kind := .unit, children := [1, 2, 3] },
    { kind := .typedef, name := some "A", underlying := some record },
    { kind := .struct, name := some "A" },
    { kind := .typedef, name := some "Cb", underlying := some pointer }]⟩, .prefixing⟩

def exported : Progress :=
  ((job.exportHeader "Lib" 0).outcome {}).2

theorem run : (job.exportHeader "Lib" 0).Succeeds {} () exported :=
  .of_fst (by cbv)

theorem reaches_among {node : Node} (reaches : job.header.Reaches 0 node) :
    node.Among [0, 1, 2, 3] [void, record, prototype, pointer] := by
  have declLinks : [0, 1, 2, 3].map (fun id => job.header.links (.decl id)) =
      [[.decl 1, .decl 2, .decl 3], [.type record], [], [.type pointer]] := rfl
  have typeLinks : [void, record, prototype, pointer].map (fun type => job.header.links (.type type)) =
      [[], [.decl 2], [.type void], [.type prototype]] := rfl
  exact reaches.among_of_links declLinks typeLinks (by decide) (by simp [Node.Among])

theorem targetsAreTags : job.header.TargetsAreTags 0 := by
  intro id target declares names
  have among : id ∈ [0, 1, 2, 3] := reaches_among declares.1
  simp only [List.mem_cons, List.not_mem_nil, or_false] at among
  rcases among with rfl | rfl | rfl | rfl
  all_goals cases names
  decide

/-- The type definition of the structure does not take its name from it. -/
theorem ownsName {id : DeclId} (isOther : id = 2 ∨ id = 3) : job.header.OwnsName 0 id := by
  intro other name declares different named namedOther
  have among : other ∈ [0, 1, 2, 3] := reaches_among declares.1
  simp only [List.mem_cons, List.not_mem_nil, or_false] at among
  rcases isOther with rfl | rfl <;> rcases among with rfl | rfl | rfl | rfl
  all_goals first
    | rfl
    | exact absurd rfl different
    | exact absurd (named.trans namedOther.symm) (by decide)

theorem structure_and_callback_exported :
    (∃ newName, exported.classes.find? 2 = some newName ∧
        ∃ item ∈ exported.items, item.classOf? = some (2, newName)) ∧
      ∃ newName binding, job.names.apply "Cb" = .ok newName ∧
        (newName, binding) ∈ exported.callbacks := by
  have inScope : job.childrenInScope 0 (·.declaresType) = [1, 2, 3] := by cbv
  have structure_inScope : 2 ∈ job.childrenInScope 0 (·.declaresType) := by simp [inScope]
  have callback_inScope : 3 ∈ job.childrenInScope 0 (·.declaresType) := by simp [inScope]
  constructor
  · exact (Job.ownName_exported targetsAreTags run structure_inScope
      (ownsName (.inl rfl))).1 (.inl rfl)
  · obtain ⟨name, newName, given, named, renamed, isCallback, -⟩ :=
      (Job.ownName_exported targetsAreTags run callback_inScope
        (ownsName (.inr rfl))).2 pointer prototype rfl rfl rfl
    cases named
    exact ⟨newName, _, renamed, isCallback⟩

end SharedTag

/-!
Three headers that obey the name spaces of C and lose a declaration in scope: to a type definition
or a tag of the same name, to a structure that is declared in a parameter list, and to a type
definition that another one names like a tag.
-/

namespace LostNamesakes

open SharedTag (void prototype pointer)

def int : CType := { kind := .scalar .int, spelling := "int" }

/-- `typedef int A; struct A {}; struct B {}; typedef void (*B)(void);` -/
def unrelated : Job :=
  ⟨⟨#[{ kind := .unit, children := [1, 2, 3, 4] },
    { kind := .typedef, name := some "A", underlying := some int },
    { kind := .struct, name := some "A" },
    { kind := .struct, name := some "B" },
    { kind := .typedef, name := some "B", underlying := some pointer }]⟩, .prefixing⟩

def parameterRecord : CType :=
  { kind := .record, spelling := "struct A", declaration := some 3 }

def parameterPointer : CType :=
  { kind := .pointer, spelling := "struct A *", pointee := some parameterRecord }

/-- `void f(struct A *a); struct A {};` -/
def outOfScope : Job :=
  ⟨⟨#[{ kind := .unit, children := [1, 2] },
    { kind := .function, name := some "f", resultType := some void, arguments := some [4] },
    { kind := .struct, name := some "A" },
    { kind := .struct, name := some "A" },
    { kind := .parameter, name := some "a", type := some parameterPointer }]⟩, .prefixing⟩

def definedRecord : CType := { kind := .record, spelling := "A", declaration := some 2 }

def ownRecord : CType := { kind := .record, spelling := "struct A", declaration := some 3 }

/-- A type definition that names another one, of a structure with the same name, as its tag. -/
def definitionAsTag : Job :=
  ⟨⟨#[{ kind := .unit, children := [1, 3] },
    { kind := .typedef, name := some "T", underlying := some definedRecord },
    { kind := .typedef, name := some "A", underlying := some ownRecord },
    { kind := .struct, name := some "A" }]⟩, .prefixing⟩

def exported (job : Job) : Progress :=
  ((job.exportHeader "Lib" 0).outcome {}).2

/-- A header obeys the name spaces of C, and a structure or enumeration in scope gets no class. -/
structure LosesClass (job : Job) (id : DeclId) : Prop where
  nameSpaces : job.ObeysNameSpaces 0
  run : (job.exportHeader "Lib" 0).Succeeds {} () (exported job)
  inScope : id ∈ job.childrenInScope 0 fun kind => kind = .struct || kind = .enum
  unclassed : (exported job).classes.find? id = none

theorem LosesClass.of_inScope {job : Job} {id : DeclId} (tags definitions : List DeclId)
    (isTag : (job.childrenInScope 0 fun kind => kind = .struct || kind = .enum) = tags)
    (isDefinition : job.childrenInScope 0 (· = .typedef) = definitions)
    (distinct : (tags.map fun id => (job.header.decl id).name).Nodup ∧
      (definitions.map fun id => (job.header.decl id).name).Nodup)
    (succeeds : ((job.exportHeader "Lib" 0).outcome {}).1 = .ok ()) (inScope : id ∈ tags)
    (unclassed : (exported job).classes.find? id = none) : LosesClass job id where
  nameSpaces := by
    rw [Job.ObeysNameSpaces, isTag, isDefinition]
    exact distinct
  run := .of_fst succeeds
  inScope := by
    rw [isTag]
    exact inScope
  unclassed := unclassed

/-- The definition that is named like a tag is one of the structure that is lost. -/
theorem ownsName : definitionAsTag.header.OwnsName 0 3 := by
  have reaches_among : ∀ {node : Node}, definitionAsTag.header.Reaches 0 node →
      node.Among [0, 1, 2, 3] [definedRecord, ownRecord] := by
    intro node reaches
    have declLinks : [0, 1, 2, 3].map (fun id => definitionAsTag.header.links (.decl id)) =
        [[.decl 1, .decl 3], [.type definedRecord], [.type ownRecord], []] := rfl
    have typeLinks : [definedRecord, ownRecord].map (fun type => definitionAsTag.header.links (.type type)) =
        [[.decl 2], [.decl 3]] := rfl
    exact reaches.among_of_links declLinks typeLinks (by decide) (by simp [Node.Among])
  intro other name declares different named namedOther
  have among : other ∈ [0, 1, 2, 3] := reaches_among declares.1
  simp only [List.mem_cons, List.not_mem_nil, or_false] at among
  rcases among with rfl | rfl | rfl | rfl
  all_goals first
    | rfl
    | exact absurd rfl different
    | exact absurd (named.trans namedOther.symm) (by decide)

/-- Obeying the name spaces of C keeps neither structures nor callbacks from being lost to their
    namesakes. -/
theorem namesakes_lost :
    LosesClass unrelated 2 ∧ 4 ∈ unrelated.childrenInScope 0 (· = .typedef) ∧
      (unrelated.header.decl 4).underlying = some pointer ∧
      Job.callbackPrototype? pointer = some prototype ∧ (exported unrelated).callbacks = [] ∧
      LosesClass outOfScope 2 ∧
      LosesClass definitionAsTag 3 ∧ definitionAsTag.header.OwnsName 0 3 := by
  have lostTag : LosesClass unrelated 2 := by
    refine .of_inScope [2, 3] [1, 4] ?_ ?_ (by decide) ?_ (by decide) ?_
    all_goals cbv
  have lostToParameter : LosesClass outOfScope 2 := by
    refine .of_inScope [2] [] ?_ ?_ (by decide) ?_ (by decide) ?_
    all_goals cbv
  have lostToDefinition : LosesClass definitionAsTag 3 := by
    refine .of_inScope [3] [1] ?_ ?_ (by decide) ?_ (by decide) ?_
    all_goals cbv
  refine ⟨lostTag, by decide +kernel, rfl, rfl, ?_, lostToParameter, lostToDefinition, ownsName⟩
  cbv

end LostNamesakes

end HeaderBindings
