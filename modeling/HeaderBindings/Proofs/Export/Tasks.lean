import HeaderBindings.Proofs.Export.Actions
import HeaderBindings.Proofs.Export.Run

/-!
# The tasks of a run

Which tasks a successful export of a header performs, one after another. The header alone tells: the
functions in scope ask for what their results and parameters mention, once for every name, and then
the type declarations in scope are asked for. Between two tasks no names, classes or items change.
-/

namespace HeaderBindings

namespace Progress

/-- Names, classes and items stay as they were, and callbacks are only added. -/
structure SameNames (s s₁ : Progress) : Prop where
  exported : s₁.exported = s.exported
  given : s₁.given = s.given
  classes : s₁.classes = s.classes
  items : s₁.items = s.items
  callbacks : ∀ entry ∈ s.callbacks, entry ∈ s₁.callbacks

end Progress

namespace Job

open Exporter

variable (job : Job)

/-- What binding a function asks for. -/
def signatureTasks (decl : Decl) : List Task :=
  decl.resultType.toList.map (fun type => .mentions (job.header.mentions type)) ++
    ((job.header.argumentsOf decl).filterMap (·.type)).map job.argumentTask

/-- What functions ask for, those with a bound name left out. -/
def functionTasks : (bound : List String) → List DeclId → List Task
  | _, [] => []
  | bound, id :: rest =>
      let name := (job.header.decl id).name.getD ""
      if name ∈ bound then functionTasks bound rest
      else job.signatureTasks (job.header.decl id) ++ functionTasks (name :: bound) rest

/-- What exporting a header asks for. -/
def headerTasks (root : DeclId) : List Task :=
  job.functionTasks [] (job.childrenInScope root (· = .function)) ++
    (job.childrenInScope root (·.declaresType)).map .decl

/-- Tasks are performed one after another. -/
inductive Performs : List Task → Progress → Progress → Prop where
  | nil {s : Progress} : Performs [] s s
  | between {tasks : List Task} {s s₁ s' : Progress} (same : s.SameNames s₁)
      (rest : Performs tasks s₁ s') : Performs tasks s s'
  | task {task : Task} {tasks : List Task} {s s₁ s' : Progress} (first : job.Exports task s s₁)
      (rest : Performs tasks s₁ s') : Performs (task :: tasks) s s'

variable {job} {s s₁ s' : Progress}

theorem Performs.exported {tasks : List Task} (performs : job.Performs tasks s s') :
    ∀ name ∈ s.exported, name ∈ s'.exported := by
  induction performs with
  | nil => exact fun _ marked => marked
  | between same _ ih => exact fun name marked => ih name (same.exported ▸ marked)
  | task first _ ih => exact fun name marked => ih name (first.exported name marked)

theorem Performs.items {tasks : List Task} (performs : job.Performs tasks s s') :
    ∀ item ∈ s.items, item ∈ s'.items := by
  induction performs with
  | nil => exact fun _ written => written
  | between same _ ih => exact fun item written => ih item (same.items ▸ written)
  | task first _ ih => exact fun item written => ih item (first.items item written)

/-- Classes that performed tasks recorded are written. -/
theorem Performs.written {tasks : List Task} (performs : job.Performs tasks s s') :
    ∀ id className, s'.classes.find? id = some className →
      s.classes.find? id = some className ∨
        ∃ item ∈ s'.items, item.classOf? = some (id, className) := by
  induction performs with
  | nil => exact fun _ _ => .inl
  | between same _ ih =>
    rw [← same.classes]
    exact ih
  | task first rest ih =>
    intro id className known
    rcases ih id className known with before | written
    · rcases first.written id className before with before | ⟨item, inside, isClass⟩
      · exact .inl before
      · exact .inr ⟨item, rest.items item inside, isClass⟩
    · exact .inr written

/-- The names that performed tasks ask for are marked. -/
theorem Performs.marks {tasks : List Task} (performs : job.Performs tasks s s') {task : Task}
    {name : String} (inside : task ∈ tasks) (asks : task.Names job.header name) :
    name ∈ s'.exported := by
  induction performs with
  | nil => cases inside
  | between _ _ ih => exact ih inside
  | task first rest ih =>
    rcases List.mem_cons.mp inside with rfl | later
    · exact rest.exported name (first.marks name asks)
    · exact ih later

theorem mem_functionTasks {bound : List String} {ids : List DeclId} {task : Task}
    (inside : task ∈ job.functionTasks bound ids) :
    ∃ id ∈ ids, task ∈ job.signatureTasks (job.header.decl id) := by
  induction ids generalizing bound with
  | nil => cases inside
  | cons id rest ih =>
    have ofRest : ∀ {bound}, task ∈ job.functionTasks bound rest →
        ∃ other ∈ id :: rest, task ∈ job.signatureTasks (job.header.decl other) := by
      intro bound inside
      obtain ⟨other, later, asks⟩ := ih inside
      exact ⟨other, List.mem_cons_of_mem _ later, asks⟩
    simp only [functionTasks] at inside
    split at inside
    · exact ofRest inside
    · rcases List.mem_append.mp inside with own | later
      · exact ⟨id, List.mem_cons_self, own⟩
      · exact ofRest later

/-- A function with a name of its own asks for what its signature mentions. -/
theorem mem_functionTasks_of_distinct {bound : List String} {ids : List DeclId} {id : DeclId}
    {task : Task}
    (distinct : ∀ other ∈ ids,
      (job.header.decl other).name.getD "" = (job.header.decl id).name.getD "" → other = id)
    (unbound : (job.header.decl id).name.getD "" ∉ bound) (inside : id ∈ ids)
    (asks : task ∈ job.signatureTasks (job.header.decl id)) :
    task ∈ job.functionTasks bound ids := by
  induction ids generalizing bound with
  | nil => cases inside
  | cons first rest ih =>
    have later : ∀ other ∈ rest,
        (job.header.decl other).name.getD "" = (job.header.decl id).name.getD "" → other = id :=
      fun other inside => distinct other (List.mem_cons_of_mem _ inside)
    simp only [functionTasks]
    by_cases same : first = id
    · subst same
      rw [if_neg unbound]
      exact List.mem_append_left _ asks
    · have inRest : id ∈ rest := (List.mem_cons.mp inside).resolve_left (Ne.symm same)
      split
      · exact ih later unbound inRest
      · refine List.mem_append_right _ (ih later ?_ inRest)
        rw [List.mem_cons, not_or]
        exact ⟨fun equal => same (distinct first List.mem_cons_self equal.symm), unbound⟩

/-- The task that an action performs. -/
def Action.task? : Action → Option Task
  | .task asked => some asked
  | .callback _ | .call _ => none

theorem filterMap_argumentActions {function : String} {before arguments : List Decl} :
    (job.argumentActions function before arguments).filterMap Action.task? =
      (arguments.filterMap (·.type)).map job.argumentTask := by
  induction arguments generalizing before with
  | nil => rfl
  | cons argument rest ih =>
    have noTask : ((argument.callbackParameter? function before).toList.map
        Action.callback).filterMap Action.task? = [] := by
      cases argument.callbackParameter? function before <;> rfl
    simp only [argumentActions, List.filterMap_append, noTask, List.append_nil, ih,
      List.filterMap_cons]
    cases argument.type <;> simp [Action.task?]

theorem filterMap_functionActions {id : DeclId} :
    (job.functionActions id).filterMap Action.task? =
      job.signatureTasks (job.header.decl id) := by
  simp only [functionActions, List.filterMap_append, filterMap_argumentActions, signatureTasks]
  cases (job.header.decl id).resultType <;> simp [Action.task?]

theorem functionTasks_eq {bound : List String} {ids : List DeclId} :
    job.functionTasks bound ids =
      (job.firstNamed bound ids).flatMap fun id => job.signatureTasks (job.header.decl id) := by
  induction ids generalizing bound with
  | nil => rfl
  | cons id rest ih =>
    simp only [functionTasks, firstNamed]
    split
    · exact ih
    · rw [List.flatMap_cons, ih]

theorem filterMap_headerActions {root : DeclId} :
    (job.headerActions root).filterMap Action.task? = job.headerTasks root := by
  simp only [headerActions, boundFunctions, headerTasks, functionTasks_eq, List.filterMap_append,
    List.filterMap_flatMap, filterMap_functionActions, List.filterMap_map, Function.comp_def,
    Action.task?, List.filterMap_eq_map']

/-- Actions that are taken perform their tasks. -/
theorem Takes.performs {actions : List Action} {admitted : List DeclId}
    (takes : job.Takes actions s s' admitted) :
    job.Performs (actions.filterMap Action.task?) s s' := by
  induction takes with
  | nil => exact .nil
  | quietly log bound _ ih =>
    refine .between ?_ ih
    exact ⟨rfl, rfl, rfl, rfl, fun _ inside => inside⟩
  | task first _ ih =>
    simp only [List.filterMap_cons, Action.task?]
    exact .task first.exports ih
  | callback renamed _ ih =>
    simp only [List.filterMap_cons, Action.task?]
    refine .between ?_ ih
    exact ⟨rfl, rfl, rfl, rfl, fun _ => List.mem_append_left _⟩
  | call renamed binds _ ih =>
    simp only [List.filterMap_cons, Action.task?]
    refine .between ?_ ih
    exact ⟨rfl, rfl, rfl, rfl, fun _ inside => inside⟩

/-- A successful export of a header performs its tasks after the first two lines of the text, and
    closes the text with the class of the library. -/
theorem performs_of_exportHeader {root : DeclId} {className : String}
    (run : (job.exportHeader className root).Succeeds {} () s') :
    ∃ s₁, job.Performs (job.headerTasks root)
        ((Progress.emitted {} .ffiImport).emitted .blank) s₁ ∧
      s' = s₁.emitted (.library ⟨className, s₁.callbacks, s₁.calls⟩) := by
  obtain ⟨s₁, admitted, takes, rfl⟩ := takes_of_exportHeader run
  have performs := takes.performs
  rw [filterMap_headerActions] at performs
  exact ⟨s₁, performs, rfl⟩

end Job

end HeaderBindings
