import HeaderBindings.Proofs.Export.Wanted

/-!
# The exported set

After a successful run the exported names are those of the wanted declarations, and the structures
and enumerations with a class are the wanted ones. The order of the traversal, the names that a type
definition claims and the two passes over the header leave no trace in either set.
-/

namespace HeaderBindings

namespace Job

variable (job : Job) (root : DeclId)

/-- A declaration is known by its marked name, or it has a class. -/
def Kept (s : Progress) (id : DeclId) : Prop :=
  (∃ name, (job.header.decl id).properName? = some name ∧ name ∈ s.exported) ∨
    ∃ className, s.classes.find? id = some className

/-- Functions in scope have different names. -/
def DistinctFunctions : Prop :=
  ∀ function ∈ job.childrenInScope root (· = .function),
    ∀ other ∈ job.childrenInScope root (· = .function),
      (job.header.decl function).name = (job.header.decl other).name → function = other

variable {job root} {s s₁ : Progress}

theorem Covers.kept {type : CType} {id : DeclId} (covers : Covers s (job.header.mentions type))
    (needs : job.header.Needs type id) : job.Kept s id := by
  obtain ⟨mention, inside, rfl⟩ := Header.needs_iff.mp needs
  exact .inl ⟨mention.name, job.header.properName?_of_mem_mentions type inside, covers _ inside⟩

theorem Covers.kept_prototype {prototype : CType} {id : DeclId}
    (covers : Covers s (job.header.prototypeMentions prototype))
    (kind : prototype.kind.isFunction = true) (needs : job.header.Needs prototype id) :
    job.Kept s id := by
  rw [← job.header.mentions_of_function kind] at covers
  exact covers.kept needs

theorem Covers.kept_field {tag id : DeclId} {field : Decl} {type : CType}
    (covers : Covers s (job.fieldMentions tag)) (inside : field ∈ job.childrenOfKind .field tag)
    (own : field.type = some type) (needs : job.header.Needs type id) : job.Kept s id := by
  have ofField : Covers s (job.header.mentions type) := by
    intro mention isMention
    have isType := List.mem_filterMap.mpr ⟨field, inside, own⟩
    exact covers mention (List.mem_flatMap.mpr ⟨type, isType, isMention⟩)
  exact ofField.kept needs

namespace Originates

variable (origins : job.Originates (job.Wanted root) s)

include origins

theorem marked_of_kept {id : DeclId} {name : String} (kept : job.Kept s id)
    (named : (job.header.decl id).properName? = some name) : name ∈ s.exported := by
  rcases kept with ⟨own, same, marked⟩ | ⟨className, classed⟩
  · rw [named] at same
    cases same
    exact marked
  · exact origins.namesMarked.classes classed named

theorem wanted_of_classed {id : DeclId} {className : String}
    (classed : s.classes.find? id = some className) : job.Wanted root id := by
  obtain ⟨record, ⟨wanted, -⟩ | ⟨definition, underlying, wanted, kind, names, tagged⟩, -⟩ :=
    origins.classes classed
  · exact wanted
  · exact .tag wanted kind names tagged

theorem wanted_of_marked {name : String} (marked : name ∈ s.exported) :
    ∃ id, job.Wanted root id ∧ (job.header.decl id).properName? = some name := by
  obtain ⟨id, was, named | ⟨tag, className, -, named, classed⟩⟩ := origins.marks marked
  · exact ⟨id, was.isMember, named⟩
  · exact ⟨tag, origins.wanted_of_classed classed, named⟩

variable (tags : job.header.TagsDeclared root)

include tags

theorem kind_of_classed {id : DeclId} {className : String}
    (classed : s.classes.find? id = some className) :
    (job.header.decl id).kind ≠ .typedef := by
  obtain ⟨record, ⟨-, kind⟩ | ⟨definition, underlying, wanted, -, names, tagged⟩, -⟩ :=
    origins.classes classed
  · cases record <;> simp [kind]
  · exact tags.target_kind (wanted.declaresType.1.underlying names) tagged

/-- All names that the fields of a structure with a class mention are marked. -/
theorem covers_of_classed {id : DeclId} {className : String}
    (classed : s.classes.find? id = some className)
    (isStruct : (job.header.decl id).kind = .struct) : Covers s (job.fieldMentions id) := by
  obtain ⟨record, gives, covers⟩ := origins.classes classed
  cases record with
  | true => exact covers rfl
  | false =>
    obtain ⟨-, kind⟩ | ⟨definition, underlying, wanted, -, names, tagged⟩ := gives
    · simp [isStruct] at kind
    · obtain ⟨kind, declared⟩ := Header.tagTarget?_eq_some tagged
      have reaches := (wanted.declaresType.1.underlying names).canonical
      have isEnum := tags.enum reaches kind declared
      simp [isStruct] at isEnum

variable (unambiguous : job.header.Unambiguous root)

include unambiguous

/-- The name of a declaration is marked by its own export, or by that of a type definition of it, or
    when it gets a class; the name of a type definition also by what it names. -/
theorem of_marked {id : DeclId} {name : String} (wanted : job.Wanted root id)
    (named : (job.header.decl id).properName? = some name) (marked : name ∈ s.exported) :
    job.WasExported (job.Wanted root) s id ∨
      (∃ other, job.WasExported (job.Wanted root) s other ∧
        (job.header.decl other).properName? = some name ∧
        job.header.typedefTarget? other = some id) ∨
      (∃ className, s.classes.find? id = some className) ∨
      ∃ target, job.header.typedefTarget? id = some target ∧ job.Kept s target := by
  obtain ⟨other, was, namedOther | ⟨tag, className, isTag, namedTag, classed⟩⟩ :=
    origins.marks marked
  · by_cases same : other = id
    · exact .inl (same ▸ was)
    · rcases unambiguous was.isMember.declaresType wanted.declaresType same namedOther named
        with ofOther | ofId
      · exact .inr (.inl ⟨other, was, namedOther, ofOther⟩)
      · exact .inr (.inr (.inr ⟨other, ofId, .inl ⟨name, namedOther, marked⟩⟩))
  · by_cases same : tag = id
    · exact .inr (.inr (.inl ⟨className, same ▸ classed⟩))
    · have wantedTag := origins.wanted_of_classed classed
      rcases unambiguous wantedTag.declaresType wanted.declaresType same namedTag named
        with ofTag | ofId
      · exact absurd (Header.exists_of_typedefTarget? ofTag).1 (origins.kind_of_classed tags classed)
      · exact .inr (.inr (.inr ⟨tag, ofId, .inr ⟨className, classed⟩⟩))

/-- A wanted structure or enumeration that is known has a class. -/
theorem classed_of_kept {id : DeclId} (wanted : job.Wanted root id)
    (isTag : (job.header.decl id).kind = .struct ∨ (job.header.decl id).kind = .enum)
    (kept : job.Kept s id) : ∃ className, s.classes.find? id = some className := by
  rcases kept with ⟨name, named, marked⟩ | classed
  · rcases origins.of_marked tags unambiguous wanted named marked with
      was | ⟨other, was, namedOther, ofOther⟩ | classed | ⟨target, ofId, -⟩
    · exact was.classed_self (by rcases isTag with kind | kind <;> simp [Header.tagOf?, kind])
    · exact was.classed_of_namesake ofOther namedOther named
    · exact classed
    · have isTypedef := (Header.exists_of_typedefTarget? ofId).1
      simp [isTypedef] at isTag
  · exact classed

/-- A wanted type definition that is known was exported, or what it names is known. -/
theorem exported_of_kept {id : DeclId} (wanted : job.Wanted root id)
    (kind : (job.header.decl id).kind = .typedef) (kept : job.Kept s id) :
    job.WasExported (job.Wanted root) s id ∨
      ∃ target, job.header.typedefTarget? id = some target ∧ job.Kept s target := by
  rcases kept with ⟨name, named, marked⟩ | ⟨className, classed⟩
  · rcases origins.of_marked tags unambiguous wanted named marked with
      was | ⟨other, wasOther, -, ofOther⟩ | ⟨className, classed⟩ | ofTarget
    · exact .inl was
    · obtain ⟨-, underlying, record, names, tagged⟩ := Header.exists_of_typedefTarget? ofOther
      exact absurd kind
        (tags.target_kind (wasOther.isMember.declaresType.1.underlying names) tagged)
    · exact absurd kind (origins.kind_of_classed tags classed)
    · exact .inr ofTarget
  · exact absurd kind (origins.kind_of_classed tags classed)

/-- What a wanted type definition names is known, if the type definition is. -/
theorem kept_target {id target : DeclId} {underlying : CType} {record : Bool}
    (wanted : job.Wanted root id) (kind : (job.header.decl id).kind = .typedef)
    (names : (job.header.decl id).underlying = some underlying)
    (tagged : tagTarget? underlying = some (record, target)) (kept : job.Kept s id) :
    job.Kept s target := by
  rcases origins.exported_of_kept tags unambiguous wanted kind kept with was | ⟨other, ofId, kept⟩
  · rcases was.classed (Header.tagOf?_of_tagged kind names tagged) with classed | ⟨name, own, named, -, -, marked⟩
    · exact .inr classed
    · exact .inl ⟨name, named, marked⟩
  · rw [Header.typedefTarget?_eq kind names, tagged] at ofId
    cases ofId
    exact kept

/-- What a wanted type definition of anything else follows is marked, if the type definition is
    known. -/
theorem covers_follows {id : DeclId} {underlying : CType} (wanted : job.Wanted root id)
    (kind : (job.header.decl id).kind = .typedef)
    (names : (job.header.decl id).underlying = some underlying)
    (untagged : tagTarget? underlying = none) (kept : job.Kept s id) :
    Covers s (job.follows id) := by
  rcases origins.exported_of_kept tags unambiguous wanted kind kept with was | ⟨other, ofId, -⟩
  · exact (was.plain ⟨kind, tagOf?_of_untagged kind names untagged⟩).1
  · rw [Header.typedefTarget?_eq kind names, untagged] at ofId
    cases ofId

end Originates

theorem mem_headerTasks_of_function (distinct : job.DistinctFunctions root) {function : DeclId}
    {task : Task} (inside : function ∈ job.childrenInScope root (· = .function))
    (asks : task ∈ job.signatureTasks (job.header.decl function)) :
    task ∈ job.headerTasks root := by
  refine List.mem_append_left _ (mem_functionTasks_of_distinct ?_ List.not_mem_nil inside asks)
  intro other isOther same
  obtain ⟨-, -, name, named⟩ := exists_name_of_mem_childrenInScope inside
  obtain ⟨-, -, nameOther, namedOther⟩ := exists_name_of_mem_childrenInScope isOther
  refine distinct other isOther function inside ?_
  rw [Decl.name_of_properName? named, Decl.name_of_properName? namedOther] at same ⊢
  exact congrArg some same

/-- When all that a header asks for is marked, every wanted declaration is known. -/
theorem Wanted.kept (origins : job.Originates (job.Wanted root) s) (tags : job.header.TagsDeclared root)
    (unambiguous : job.header.Unambiguous root) (distinct : job.DistinctFunctions root)
    (asked : ∀ task ∈ job.headerTasks root, ∀ name, task.Names job.header name →
      name ∈ s.exported) {id : DeclId} (wanted : job.Wanted root id) : job.Kept s id := by
  have covers : ∀ {list : List Mention}, .mentions list ∈ job.headerTasks root → Covers s list :=
    fun isTask mention isMention => asked _ isTask _ ⟨mention, isMention, rfl⟩
  induction wanted with
  | child inside =>
    obtain ⟨-, -, name, named⟩ := exists_name_of_mem_childrenInScope inside
    have isTask : .decl _ ∈ job.headerTasks root :=
      List.mem_append_right _ (List.mem_map_of_mem inside)
    exact .inl ⟨name, named, asked _ isTask name named⟩
  | @result function _ type inside returns needs =>
    have asks : .mentions (job.header.mentions type) ∈
        job.signatureTasks (job.header.decl function) :=
      List.mem_append_left _ (List.mem_map.mpr ⟨type, Option.mem_toList.mpr returns, rfl⟩)
    exact (covers (mem_headerTasks_of_function distinct inside asks)).kept needs
  | @argument function _ argument type inside takes own noCallback needs =>
    have asks : job.argumentTask type ∈ job.signatureTasks (job.header.decl function) :=
      List.mem_append_right _ (List.mem_map_of_mem (List.mem_filterMap.mpr ⟨_, takes, own⟩))
    rw [argumentTask, noCallback] at asks
    exact (covers (mem_headerTasks_of_function distinct inside asks)).kept needs
  | @callback function _ argument type prototype inside takes own calls needs =>
    have asks : job.argumentTask type ∈ job.signatureTasks (job.header.decl function) :=
      List.mem_append_right _ (List.mem_map_of_mem (List.mem_filterMap.mpr ⟨_, takes, own⟩))
    rw [argumentTask, calls] at asks
    exact (covers (mem_headerTasks_of_function distinct inside asks)).kept_prototype
      (isFunction_of_functionPointee? calls) needs
  | field wanted kind inside own needs ih =>
    obtain ⟨className, classed⟩ :=
      origins.classed_of_kept tags unambiguous wanted (.inl kind) ih
    exact (origins.covers_of_classed tags classed kind).kept_field inside own needs
  | tag wanted kind names tagged ih =>
    exact origins.kept_target tags unambiguous wanted kind names tagged ih
  | prototype wanted kind names calls needs ih =>
    obtain ⟨isFunction, untagged⟩ := isFunction_of_callbackPrototype? calls
    have follows := origins.covers_follows tags unambiguous wanted kind names untagged ih
    rw [follows_callback names (tagOf?_of_untagged kind names untagged) calls] at follows
    exact follows.kept_prototype isFunction needs
  | underlying wanted kind names untagged uncalled needs ih =>
    have follows := origins.covers_follows tags unambiguous wanted kind names untagged ih
    rw [follows_plain names (tagOf?_of_untagged kind names untagged) uncalled] at follows
    exact follows.kept needs

end Job

namespace CallbackCycle

/-- Only the prototype of the callback that the function returns asks for the second structure. -/
theorem wanted_recordB : job.Wanted 0 4 := by
  have function : 1 ∈ job.childrenInScope 0 (· = .function) := by decide +kernel
  have needsCallback : job.header.Needs callback 2 := .declared (by decide) rfl rfl rfl
  have callback : job.Wanted 0 2 := .result function rfl needsCallback
  have needsRecord : job.header.Needs recordB 4 := .declared (by decide) rfl rfl rfl
  have needsPointer : job.header.Needs pointerB 4 := .pointer rfl rfl needsRecord
  have needs : job.header.Needs prototype 4 := .argument rfl (by simp [prototype]) needsPointer
  exact .prototype callback rfl rfl rfl needs

theorem distinctFunctions : job.DistinctFunctions 0 := by
  have functions : job.childrenInScope 0 (· = .function) = [1] := by cbv
  intro function inside other isOther _
  rw [functions, List.mem_singleton] at inside isOther
  rw [inside, isOther]

end CallbackCycle

/-!
A structure type that is declared by a type definition, which is one of another structure. The type
definition of the first claims the name of the second, and so keeps it from being exported.
-/

namespace ClaimedDefinition

def recordS : CType := { kind := .record, spelling := "struct S", declaration := some 3 }

def recordN : CType := { kind := .record, spelling := "n", declaration := some 2 }

def job : Job :=
  ⟨⟨#[{ kind := .unit, children := [1] },
    { kind := .typedef, name := some "T", underlying := some recordN },
    { kind := .typedef, name := some "n", underlying := some recordS },
    { kind := .struct, name := some "S" }]⟩, .prefixing⟩

def exported : Progress :=
  ((job.exportHeader "Lib" 0).outcome {}).2

theorem outcome : ((job.exportHeader "Lib" 0).outcome {}).1 = .ok () ∧
    exported.exported = ["n", "T"] ∧ exported.classes.find? 3 = none := by
  refine ⟨?_, ?_, ?_⟩ <;> cbv

theorem reaches_among {node : Node} (reaches : job.header.Reaches 0 node) :
    node.Among [0, 1, 2, 3] [recordN, recordS] := by
  have declLinks : [0, 1, 2, 3].map (fun id => job.header.links (.decl id)) =
      [[.decl 1], [.type recordN], [.type recordS], []] := rfl
  have typeLinks : [recordN, recordS].map (fun type => job.header.links (.type type)) =
      [[.decl 2], [.decl 3]] := rfl
  exact reaches.among_of_links declLinks typeLinks (by decide) (by simp [Node.Among])

theorem wanted_structure : job.Wanted 0 3 := by
  have first : job.Wanted 0 1 := .child (by decide +kernel)
  have second : job.Wanted 0 2 := .tag first rfl rfl rfl
  exact .tag second rfl rfl rfl

end ClaimedDefinition

end HeaderBindings
