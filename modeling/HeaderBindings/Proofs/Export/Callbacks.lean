import HeaderBindings.Proofs.Export.Contributions
import HeaderBindings.Proofs.Export.Functions

/-!
# The callbacks of the library class

Callbacks come from two sources: the parameters of functions, and type definitions that are reached
through anything that is exported in between. Each source adds its callbacks in an order of its own,
and the library class has those of both, one after another as they were reached.
-/

namespace HeaderBindings

/-- A list has the members of two lists, each in their order. -/
inductive Interleaves {α : Type} : List α → List α → List α → Prop where
  | nil : Interleaves [] [] []
  | left {first second list : List α} (x : α) (rest : Interleaves first second list) :
      Interleaves (x :: first) second (x :: list)
  | right {first second list : List α} (x : α) (rest : Interleaves first second list) :
      Interleaves first (x :: second) (x :: list)

namespace Interleaves

variable {α : Type} {first second list others : List α}

theorem append_right (interleaves : Interleaves first others list) (second : List α) :
    Interleaves first (second ++ others) (second ++ list) := by
  induction second with
  | nil => exact interleaves
  | cons x _ ih => exact .right x ih

theorem perm (interleaves : Interleaves first second list) : list.Perm (first ++ second) := by
  induction interleaves with
  | nil => exact .nil
  | left x _ ih => exact ih.cons x
  | right x _ ih => exact (ih.cons x).trans List.perm_middle.symm

end Interleaves

namespace Job

variable (job : Job)

/-- A callback of the library class is that of a parameter, with the new name of its function and
    its label. -/
def IsParameterCallback (parameter : CallbackParameter) (entry : String × Binding) : Prop :=
  ∃ newName given, job.names.apply parameter.function = .ok newName ∧
    entry = (newName ++ "_" ++ parameter.label,
      job.header.bindPrototype given parameter.prototype none none)

/-- The parameters of a function that are callbacks, after those that come before them. -/
def callbacksAmong (function : String) : (before : List Decl) → List Decl → List CallbackParameter
  | _, [] => []
  | before, argument :: rest =>
      (argument.callbackParameter? function before).toList ++
        callbacksAmong function (before ++ [argument]) rest

/-- The callbacks among the parameters of the functions that exporting a header binds. -/
def callbackParameters (root : DeclId) : List CallbackParameter :=
  (job.boundFunctions root).flatMap fun id =>
    callbacksAmong ((job.header.decl id).name.getD "") []
      (job.header.argumentsOf (job.header.decl id))

/-- The callback that an action adds to the library class. -/
def Action.callback? : Action → Option CallbackParameter
  | .callback parameter => some parameter
  | .task _ | .call _ => none

variable {job} {s s₁ s' : Progress}

theorem filterMap_callback?_argumentActions {function : String} {before arguments : List Decl} :
    (job.argumentActions function before arguments).filterMap Action.callback? =
      callbacksAmong function before arguments := by
  induction arguments generalizing before with
  | nil => rfl
  | cons argument rest ih =>
    simp only [argumentActions, callbacksAmong, List.filterMap_append, ih]
    cases argument.type <;> cases argument.callbackParameter? function before <;> rfl

theorem filterMap_callback?_functionActions {id : DeclId} :
    (job.functionActions id).filterMap Action.callback? =
      callbacksAmong ((job.header.decl id).name.getD "") []
        (job.header.argumentsOf (job.header.decl id)) := by
  simp only [functionActions, List.filterMap_append, filterMap_callback?_argumentActions]
  cases (job.header.decl id).resultType <;> simp [List.filterMap_cons, Action.callback?]

theorem filterMap_callback?_headerActions {root : DeclId} :
    (job.headerActions root).filterMap Action.callback? = job.callbackParameters root := by
  simp only [headerActions, callbackParameters, List.filterMap_append, List.filterMap_flatMap,
    filterMap_callback?_functionActions, List.filterMap_map, Function.comp_def, Action.callback?]
  simp

/-- Actions that are taken add the items of the declarations that are admitted, with their callbacks,
    and the callbacks of parameters between these. -/
theorem Takes.leaves {actions : List Action} {admitted : List DeclId}
    (takes : job.Takes actions s s' admitted) :
    ∃ items ofParameters added, s'.items = s.items ++ items ∧
      s'.callbacks = s.callbacks ++ added ∧
      Interleaves ofParameters (items.filterMap Item.callback?) added ∧
      List.Forall₂ job.IsParameterCallback (actions.filterMap Action.callback?) ofParameters ∧
      job.Leaves admitted items := by
  induction takes with
  | nil => exact ⟨[], [], [], (List.append_nil _).symm, (List.append_nil _).symm, .nil, .nil, .nil⟩
  | quietly log bound _ ih => exact ih
  | task first _ ih =>
    obtain ⟨items, grows, leaves⟩ := first.leaves
    obtain ⟨later, ofParameters, added, written, calledBack, interleaves, areParameters,
      leavesLater⟩ := ih
    refine ⟨items ++ later, ofParameters, items.filterMap Item.callback? ++ added, ?_, ?_, ?_,
      areParameters, leaves.append leavesLater⟩
    · rw [written, grows.items, List.append_assoc]
    · rw [calledBack, grows.callbacks, List.append_assoc]
    · rw [List.filterMap_append]
      exact interleaves.append_right _
  | @callback parameter newName _ s _ _ renamed _ ih =>
    obtain ⟨items, ofParameters, added, written, calledBack, interleaves, areParameters,
      leaves⟩ := ih
    have own : job.IsParameterCallback parameter (newName ++ "_" ++ parameter.label,
        job.header.bindPrototype s.given parameter.prototype none none) :=
      ⟨newName, _, renamed, rfl⟩
    refine ⟨items, _ :: ofParameters, _ :: added, written, ?_, .left _ interleaves,
      .cons own areParameters, leaves⟩
    rw [calledBack]
    exact List.append_assoc _ _ _
  | call renamed binds _ ih => exact ih

/-- What the items of a whole text give is what those between its frame give. -/
theorem filterMap_emitted {α : Type} {give : Item → Option α} {items : List Item}
    {cls : LibraryClass} (written : s.items = opened.items ++ items)
    (atImport : give .ffiImport = none) (atBlank : give .blank = none)
    (atClass : give (.library cls) = none) :
    (s.emitted (.library cls)).items.filterMap give = items.filterMap give := by
  simp [written, opened, atImport, atBlank, atClass]

theorem Takes.hasName {actions : List Action} {admitted : List DeclId}
    (takes : job.Takes actions s s' admitted) :
    ∀ name ∈ s'.exported,
      name ∈ s.exported ∨ ∃ id ∈ admitted, job.header.HasName id name := by
  induction takes with
  | nil => exact fun _ => .inl
  | quietly _ _ _ ih | callback _ _ ih | call _ _ _ ih => exact ih
  | task first _ ih =>
    intro name marked
    rcases ih name marked with before | ⟨id, inside, hasName⟩
    · rcases first.hasName name before with before | ⟨id, inside, hasName⟩
      · exact .inl before
      · exact .inr ⟨id, List.mem_append_left _ inside, hasName⟩
    · exact .inr ⟨id, List.mem_append_right _ inside, hasName⟩

/-- After a successful run the callbacks of the library class are an interleaving of two lists. One
    has a callback for each parameter of a bound function that points to a function, in the order of
    the header. The other one has the callbacks of the text, one for each admitted type definition of
    a function or of a pointer to one. Declarations are admitted once for a name, and every exported
    name is one of theirs. -/
theorem callbacks_accounted {root : DeclId} {className : String}
    (run : (job.exportHeader className root).Succeeds {} () s) :
    ∃ s₁ admitted ofParameters,
      job.Takes (job.headerActions root) opened s₁ admitted ∧
      s = s₁.emitted (.library ⟨className, s₁.callbacks, s₁.calls⟩) ∧
      job.AdmitsNew {} s admitted ∧
      (∀ name ∈ s.exported, ∃ id ∈ admitted, job.header.HasName id name) ∧
      Interleaves ofParameters (s.items.filterMap Item.callback?) s.callbacks ∧
      List.Forall₂ job.IsParameterCallback (job.callbackParameters root) ofParameters ∧
      List.Forall₂ job.IsDefinedCallback
        (admitted.filter fun id => (job.header.definedPrototype? id).isSome)
        (s.items.filterMap Item.callback?) := by
  obtain ⟨s₁, admitted, takes, rfl⟩ := takes_of_exportHeader run
  obtain ⟨items, ofParameters, added, written, calledBack, interleaves, areParameters, leaves⟩ :=
    takes.leaves
  obtain rfl : s₁.callbacks = added := calledBack
  rw [filterMap_callback?_headerActions] at areParameters
  have isNew := takes.isNew.1
  have hasName : ∀ name ∈ s₁.exported, ∃ id ∈ admitted, job.header.HasName id name :=
    fun name marked => (takes.hasName name marked).resolve_left List.not_mem_nil
  refine ⟨s₁, admitted, ofParameters, takes, rfl, ⟨isNew.isNew, isNew.distinct⟩, hasName, ?_,
    areParameters, ?_⟩
  · rw [filterMap_emitted written rfl rfl rfl]
    exact interleaves
  · rw [filterMap_emitted written rfl rfl rfl]
    exact leaves.definitions

end Job

namespace NestedCallbacks

/-- The callbacks of the parameters, each with its label, are in the library class between those of
    the type definitions. -/
theorem callbacks_interleaved : ∃ ofParameters,
    Interleaves ofParameters (exported.items.filterMap Item.callback?) exported.callbacks ∧
      List.Forall₂ job.IsParameterCallback
        [⟨"f", "listener", prototype⟩, ⟨"f", "cb0", plain⟩, ⟨"f", "cb1", plain⟩] ofParameters := by
  obtain ⟨_, _, ofParameters, -, -, -, -, interleaves, areParameters, -⟩ :=
    Job.callbacks_accounted run
  exact ⟨ofParameters, interleaves, areParameters⟩

end NestedCallbacks

end HeaderBindings
