import Mathlib
import HeaderBindings.Export.Header
import HeaderBindings.Proofs.Export.Coverage
import HeaderBindings.Proofs.Export.Soundness

/-!
# Runs

A successful export of a header as steps from one progress to the next. Each step is made between
exports, when no declaration is half exported. What every step keeps holds of the progress that the
run leaves.
-/

namespace HeaderBindings

namespace Job

open Exporter

variable (job : Job) (root : DeclId)

/-- What the resolution of a type needs has been exported: what the type mentions or, if it points
    to a function, what the prototype mentions. -/
def CoversType (s : Progress) (type : CType) : Prop :=
  Covers s (job.header.mentions type) ∨
    ∃ prototype, type.functionPointee? = some prototype ∧
      Covers s (job.header.prototypeMentions prototype)

/-- A run goes from one progress to the next. -/
inductive Step (s : Progress) : Progress → Prop where
  | exports {task : Task} {s' : Progress} (within : task.Within job.header root)
      (exports : job.Exports task s s') : Step s s'
  | reported {records : List Log.Record} (quiet : ¬ Log.HasError records) :
      Step s (s.reported records)
  /-- An item is written that is the same in every text, or the class of the library. -/
  | wrote {item : Item}
      (frame : item = .ffiImport ∨ item = .blank ∨ ∃ cls, item = .library cls) :
      Step s (s.emitted item)
  | bound (name : String) : Step s { s with bound := name :: s.bound }
  /-- A parameter of a function becomes a callback. -/
  | calledBack {type prototype : CType} (label : String)
      (reaches : job.header.Reaches root (.type type))
      (calls : type.functionPointee? = some prototype)
      (covers : Covers s (job.header.prototypeMentions prototype)) :
      Step s ((s.reported (job.header.bindPrototypeReport s.given prototype)).calledBack label
        (job.header.bindPrototype s.given prototype none none))
  /-- A function becomes a member of the library class. -/
  | called {decl : Decl} {binding : Binding} (newName : String)
      (reaches : ∀ type ∈ job.header.signatureTypes decl, job.header.Reaches root (.type type))
      (covers : ∀ type ∈ job.header.signatureTypes decl, job.CoversType s type)
      (bound : job.header.bindFunction s.given decl = .ok binding) :
      Step s { s.reported (job.header.bindFunctionReport s.given decl) with
        calls := s.calls ++ [(newName, binding)] }

/-- Steps lead from one progress to another. -/
def Steps : Progress → Progress → Prop :=
  Relation.ReflTransGen (job.Step root)

variable {job root} {s s₁ s' : Progress}

theorem Step.exported (step : job.Step root s s') : ∀ name ∈ s.exported, name ∈ s'.exported := by
  cases step with
  | exports within exports => exact exports.exported
  | reported | wrote | bound | calledBack | called => exact fun _ marked => marked

theorem Steps.exported (steps : job.Steps root s s') :
    ∀ name ∈ s.exported, name ∈ s'.exported := by
  induction steps with
  | refl => exact fun _ marked => marked
  | tail _ step ih => exact fun name marked => step.exported name (ih name marked)

theorem CoversType.mono {type : CType} (covers : job.CoversType s type)
    (exported : ∀ name ∈ s.exported, name ∈ s₁.exported) : job.CoversType s₁ type := by
  rcases covers with own | ⟨prototype, calls, covers⟩
  · exact .inl (own.mono exported)
  · exact .inr ⟨prototype, calls, covers.mono exported⟩

theorem Step.said {level : Log.Level} (message : String) (quiet : level ≠ .error) :
    job.Step root s (s.said level message) :=
  .reported (by simpa [Log.HasError] using quiet)

/-- Exporting what the parameters of a function mention covers their types. A pointer to a function
    resolves through its prototype, so only that is exported. -/
theorem BindsArguments.steps {newName : String} {unnamed : Nat} {arguments : List Decl}
    (binds : job.BindsArguments newName unnamed arguments s s')
    (reaches : ∀ argument ∈ arguments, ∀ type, argument.type = some type →
      job.header.Reaches root (.type type)) :
    job.Steps root s s' ∧
      ∀ argument ∈ arguments, ∀ type, argument.type = some type → job.CoversType s' type := by
  induction binds with
  | nil => exact ⟨.refl, List.forall_mem_nil _⟩
  | callback own calls exports _ ih =>
    obtain ⟨reachesOwn, reachesRest⟩ := List.forall_mem_cons.mp reaches
    have reachesType := reachesOwn _ own
    obtain ⟨stepsRest, coversRest⟩ := ih reachesRest
    have first := Step.exports
      (within_prototypeMentions (reaches_functionPointee? reachesType calls)) exports
    have steps := Relation.ReflTransGen.head
      (.calledBack _ reachesType calls exports.covers) stepsRest
    refine ⟨.head first steps, List.forall_mem_cons.mpr ⟨fun _ isType => ?_, coversRest⟩⟩
    cases own.symm.trans isType
    exact CoversType.mono (.inr ⟨_, calls, exports.covers⟩) (Steps.exported steps)
  | plain own calls exports _ ih =>
    obtain ⟨reachesOwn, reachesRest⟩ := List.forall_mem_cons.mp reaches
    obtain ⟨stepsRest, coversRest⟩ := ih reachesRest
    refine ⟨.head (.exports (within_mentions (reachesOwn _ own)) exports) stepsRest,
      List.forall_mem_cons.mpr ⟨fun _ isType => ?_, coversRest⟩⟩
    cases own.symm.trans isType
    exact CoversType.mono (.inl exports.covers) (Steps.exported stepsRest)

theorem BindsFunction.steps {id : DeclId} {name : String}
    (binds : job.BindsFunction (job.header.decl id) name s s')
    (reaches : job.header.Reaches root (.decl id)) : job.Steps root s s' := by
  cases binds with
  | again => exact .head (.said _ (by simp)) (.single (.said _ (by simp)))
  | first fresh isResult areArguments renamed exports binds bound =>
    have reachesArgument : ∀ argument ∈ job.header.argumentsOf (job.header.decl id), ∀ type,
        argument.type = some type → job.header.Reaches root (.type type) := by
      intro argument inside type own
      obtain ⟨child, isChild, rfl⟩ := List.mem_map.mp inside
      exact (reaches.argument isChild).ownType own
    rw [Header.argumentsOf, areArguments, Option.getD_some] at reachesArgument
    obtain ⟨stepsArguments, coversArguments⟩ := binds.steps reachesArgument
    refine .head (.said _ (by simp)) (.head (.bound _) (.head
      (.exports (within_mentions (reaches.resultType isResult)) exports)
      (stepsArguments.tail (.called _ ?_ ?_ bound))))
    · intro type inside
      rcases (Header.mem_signatureTypes isResult areArguments).mp inside with
        rfl | ⟨argument, inside, own⟩
      · exact reaches.resultType isResult
      · exact reachesArgument argument inside type own
    · intro type inside
      rcases (Header.mem_signatureTypes isResult areArguments).mp inside with
        rfl | ⟨argument, inside, own⟩
      · exact CoversType.mono (.inl exports.covers) (Steps.exported stepsArguments)
      · exact coversArguments argument inside type own

theorem steps_of_forM {visit : DeclId → Exporter Unit} {ids : List DeclId}
    (steps : ∀ id ∈ ids, ∀ {s s' : Progress}, (visit id).Succeeds s () s' → job.Steps root s s')
    (run : (ids.forM visit).Succeeds s () s') : job.Steps root s s' := by
  induction ids generalizing s with
  | nil =>
    rw [succeeds_forM_nil] at run
    subst run
    exact .refl
  | cons id rest ih =>
    obtain ⟨middle, first, others⟩ := succeeds_forM_cons.mp run
    exact (steps id List.mem_cons_self first).trans
      (ih (fun other inside => steps other (List.mem_cons_of_mem _ inside)) others)

/-- A successful export of a header is made of steps. -/
theorem steps_of_exportHeader {className : String}
    (run : (job.exportHeader className root).Succeeds {} () s') : job.Steps root {} s' := by
  simp only [exportHeader, exportHeaderVia, addLibraryClass, succeeds_bind, emit_succeeds,
    succeeds_get] at run
  obtain ⟨_, _, rfl, _, _, rfl, _, s₁, functions, _, s₂, declarations, _, _, ⟨got, same⟩, rfl⟩ :=
    run
  rw [same, got]
  have bindsFunctions : job.Steps root ((Progress.emitted {} .ffiImport).emitted .blank) s₁ := by
    refine steps_of_forM (fun id inside _ _ run => ?_) functions
    obtain ⟨isChild, -, name, named⟩ := exists_name_of_mem_childrenInScope inside
    obtain ⟨-, -, binds⟩ := bindsFunction_of_run (Decl.name_of_properName? named) run
    exact binds.steps (.child .refl isChild)
  have exportsTypes : job.Steps root s₁ s₂ := by
    refine steps_of_forM (fun id inside _ _ run => ?_) declarations
    obtain ⟨isChild, kind, name, named⟩ := exists_name_of_mem_childrenInScope inside
    have within : Task.Within job.header root (.decl id) :=
      ⟨Header.Reaches.child .refl isChild, .inl kind⟩
    exact .single (.exports within (exports_of_exportDecl named run))
  have frame : job.Steps root {} s₁ :=
    .head (.wrote (.inl rfl)) (.head (.wrote (.inr (.inl rfl))) bindsFunctions)
  exact (frame.trans exportsTypes).tail (.wrote (.inr (.inr ⟨_, rfl⟩)))

variable (job root) in
/-- What holds between exports: names and classes agree, every class is written, and every type
    definition has been exported to its end. -/
structure Sound (s : Progress) : Prop where
  agree : job.NamesAgree root s
  written : ∀ {id : DeclId} {className : String}, s.classes.find? id = some className →
    ∃ item ∈ s.items, item.classOf? = some (id, className)
  closed : job.ClosedExcept root (fun _ => False) s

theorem Sound.start : job.Sound root {} where
  agree := .start
  written known := by cases known
  closed _ _ _ := .inr fun _ _ marked => by cases marked

/-- What holds between exports still holds when a step changes no names and no classes. -/
theorem Sound.of_same (sound : job.Sound root s) (given : s₁.given = s.given)
    (classes : s₁.classes = s.classes) (exported : s₁.exported = s.exported)
    (items : ∀ item ∈ s.items, item ∈ s₁.items) : job.Sound root s₁ ∧ s.Extends s₁ := by
  have grows : s.Extends s₁ := .of_same given classes (fun _ marked => exported ▸ marked) items
  refine ⟨⟨?_, ?_, sound.closed.same exported⟩, grows⟩
  · exact sound.agree.of_same grows given classes fun _ marked => .inl (exported ▸ marked)
  · intro id className known
    rw [classes] at known
    obtain ⟨item, inside, isClass⟩ := sound.written known
    exact ⟨item, items item inside, isClass⟩

section

variable (tagTypes : job.header.TagTypes root) (unambiguous : job.header.Unambiguous root)

include tagTypes unambiguous

theorem Step.sound (step : job.Step root s s') (sound : job.Sound root s) :
    job.Sound root s' ∧ s.Extends s' := by
  cases step with
  | exports within exports =>
    obtain ⟨agree, grows⟩ := exports.agree tagTypes unambiguous within sound.agree
    refine ⟨⟨agree, ?_, ?_⟩, grows⟩
    · intro id className known
      rcases exports.written id className known with before | written
      · obtain ⟨item, inside, isClass⟩ := sound.written before
        exact ⟨item, exports.items item inside, isClass⟩
      · exact written
    · exact exports.closedExcept tagTypes unambiguous _ within sound.agree
        (sound.closed.awaiting _)
  | wrote => exact sound.of_same rfl rfl rfl fun _ => List.mem_append_left _
  | reported | bound | calledBack | called =>
    exact sound.of_same rfl rfl rfl fun _ written => written

theorem Steps.sound (steps : job.Steps root s s') (sound : job.Sound root s) :
    job.Sound root s' ∧ s.Extends s' := by
  induction steps with
  | refl => exact ⟨sound, .refl s⟩
  | tail _ step ih =>
    obtain ⟨soundBefore, grows⟩ := ih
    obtain ⟨soundAfter, growsAgain⟩ := step.sound tagTypes unambiguous soundBefore
    exact ⟨soundAfter, grows.trans growsAgain⟩

end

end Job

/-- Every name is in scope and gets a prefix. -/
def Renaming.prefixing : Renaming :=
  ⟨⟨"", .empty, 0, [], {}⟩, "X_\\g<0>"⟩

/-!
A structure with a field of a callback type, whose prototype mentions the structure again and a
second one. Exporting the callback first leaves it open while the class of the structure is written.
-/

namespace CallbackCycle

def void : CType := { kind := .scalar .void, spelling := "void" }

def recordA : CType := { kind := .record, spelling := "struct A", declaration := some 3 }

def recordB : CType := { kind := .record, spelling := "struct B", declaration := some 4 }

def pointerA : CType := { kind := .pointer, spelling := "struct A *", pointee := some recordA }

def pointerB : CType := { kind := .pointer, spelling := "struct B *", pointee := some recordB }

def prototype : CType :=
  { kind := .function, spelling := "void (struct A *, struct B *)",
    result := some void, arguments := [pointerA, pointerB] }

def pointer : CType :=
  { kind := .pointer, spelling := "void (*)(struct A *, struct B *)", pointee := some prototype }

def callback : CType :=
  { kind := .typedef, spelling := "Cb", ownCanonical := some pointer, declaration := some 2 }

def types : List CType :=
  [void, recordA, recordB, pointerA, pointerB, prototype, pointer, callback]

/-- `Cb f(void); typedef void (*Cb)(struct A *, struct B *); struct A { Cb cb; }; struct B {};` -/
def header : Header :=
  ⟨#[{ kind := .unit, children := [1, 2, 3, 4] },
    { kind := .function, name := some "f", resultType := some callback, arguments := some [] },
    { kind := .typedef, name := some "Cb", underlying := some pointer },
    { kind := .struct, name := some "A", children := [5] },
    { kind := .struct, name := some "B" },
    { kind := .field, name := some "cb", type := some callback }]⟩

def job : Job :=
  ⟨header, .prefixing⟩

def exported : Progress :=
  ((job.exportHeader "Lib" 0).outcome {}).2

theorem outcome : ((job.exportHeader "Lib" 0).outcome {}).1 = .ok () ∧
    exported.given.find? "B" = some "X_B" ∧
    exported.calls.map (·.2.references) =
      [[.given "X_A", .given "X_B", .given "X_A", .given "X_B"]] := by
  refine ⟨?_, ?_, ?_⟩ <;> cbv

theorem run : (job.exportHeader "Lib" 0).Succeeds {} () exported :=
  .of_fst outcome.1

theorem reaches_among {node : Node} (reaches : job.header.Reaches 0 node) :
    node.Among [0, 1, 2, 3, 4, 5] types := by
  have declLinks : [0, 1, 2, 3, 4, 5].map (fun id => job.header.links (.decl id)) =
      [[.decl 1, .decl 2, .decl 3, .decl 4], [.type callback], [.type pointer], [.decl 5], [],
        [.type callback]] := rfl
  have typeLinks : types.map (fun type => job.header.links (.type type)) =
      [[], [.decl 3], [.decl 4], [.type recordA], [.type recordB],
        [.type void, .type pointerA, .type pointerB], [.type prototype], [.type pointer, .decl 2]] := rfl
  exact reaches.among_of_links declLinks typeLinks (by decide) (by simp [Node.Among, types])

theorem coherent : job.header.Coherent 0 := by
  intro type reaches
  have among : type ∈ types := reaches_among reaches
  simp only [types, List.mem_cons, List.not_mem_nil, or_false] at among
  rcases among with rfl | rfl | rfl | rfl | rfl | rfl | rfl | rfl
  all_goals
    refine ⟨⟨?_, ?_⟩, ?_, ?_, ?_, ?_, ?_, ?_, ?_, ?_⟩ <;>
      simp [Header.decl, job, header, Header.IsDefined, CType.IsTagged, CType.parts,
        CType.canonical, TypeKind.isFunction, Decl.properName?, void, recordA, recordB, pointerA,
        pointerB, prototype, pointer, callback]

theorem unambiguous : job.header.Unambiguous 0 :=
  .of_distinct (fun _ reaches => reaches_among reaches) (by decide)

theorem grounded : job.header.TypesGrounded 0 := by
  refine .of_size fun type id underlying reaches declared names kind => ?_
  have among : type ∈ types := reaches_among reaches
  simp only [types, List.mem_cons, List.not_mem_nil, or_false] at among
  have isCallback : type = callback ∧ underlying = pointer := by
    rcases among with rfl | rfl | rfl | rfl | rfl | rfl | rfl | rfl
    all_goals cases declared
    all_goals first | exact absurd kind (by decide) | exact ⟨rfl, (Option.some.inj names).symm⟩
  obtain ⟨rfl, rfl⟩ := isCallback
  exact CType.sizeOf_parts (CType.mem_parts_canonical rfl)

theorem pointers : job.header.PointeesOfPointers 0 := by
  intro type pointee reaches points
  have among : type ∈ types := reaches_among reaches
  simp only [types, List.mem_cons, List.not_mem_nil, or_false] at among
  rcases among with rfl | rfl | rfl | rfl | rfl | rfl | rfl | rfl
  all_goals first | rfl | cases points

theorem recordsNamed : job.header.RecordsNamed 0 := by
  intro type id reaches kind declared
  have among : type ∈ types := reaches_among reaches
  simp only [types, List.mem_cons, List.not_mem_nil, or_false] at among
  rcases among with rfl | rfl | rfl | rfl | rfl | rfl | rfl | rfl
  all_goals first | exact absurd kind (by decide) | (cases declared; decide)

end CallbackCycle

end HeaderBindings
