import HeaderBindings.Proofs.Export.Admissions
import HeaderBindings.Proofs.Export.Soundness

/-!
# The actions of a run

What a successful export of a header does, one action after another. The header alone tells: of the
functions in scope with one name the first is bound, and no other. To bind it is to export what its
result mentions, then for each parameter to export what that mentions and to add a callback if it is
one, and last to add the function. The type declarations in scope are exported after the functions.
-/

namespace HeaderBindings

namespace Decl

variable (decl : Decl)

/-- The prototype of a parameter that is a callback: its type points to a function. -/
def functionPointee? : Option CType :=
  decl.type.bind (·.functionPointee?)

def isUnnamedCallback : Bool :=
  decl.functionPointee?.isSome && decl.properName?.isNone

/-- What a callback is called among the parameters of its function: by its name, or else by the
    number of callbacks without a name that come before it. -/
def callbackLabel (before : List Decl) : String :=
  decl.properName?.getD ("cb" ++ toString (before.countP (·.isUnnamedCallback)))

end Decl

/-- A parameter that is a callback, with the source name of its function. -/
structure CallbackParameter where
  function : String
  label : String
  prototype : CType

/-- The callback that a parameter of a function is, after the parameters that come before it. -/
def Decl.callbackParameter? (function : String) (before : List Decl) (decl : Decl) :
    Option CallbackParameter :=
  decl.functionPointee?.map fun prototype => ⟨function, decl.callbackLabel before, prototype⟩

namespace Job

open Exporter

variable (job : Job)

/-- One thing that a run does. -/
inductive Action where
  | task (task : Task)
  | callback (parameter : CallbackParameter)
  | call (id : DeclId)

/-- What a parameter of a function asks for: what its prototype mentions, if it points to a
    function, and else what its type mentions. -/
def argumentTask (type : CType) : Task :=
  match type.functionPointee? with
  | some prototype => .mentions (job.header.prototypeMentions prototype)
  | none => .mentions (job.header.mentions type)

/-- What binding does for the parameters of a function, after those that come before them. -/
def argumentActions (function : String) : (before : List Decl) → List Decl → List Action
  | _, [] => []
  | before, argument :: rest =>
      argument.type.toList.map (fun type => .task (job.argumentTask type)) ++
        (argument.callbackParameter? function before).toList.map .callback ++
        argumentActions function (before ++ [argument]) rest

/-- What binding a function does. -/
def functionActions (id : DeclId) : List Action :=
  let decl := job.header.decl id
  decl.resultType.toList.map (fun type => .task (.mentions (job.header.mentions type))) ++
    job.argumentActions (decl.name.getD "") [] (job.header.argumentsOf decl) ++ [.call id]

/-- The first declaration of each name, those with a bound name left out. -/
def firstNamed : (bound : List String) → List DeclId → List DeclId
  | _, [] => []
  | bound, id :: rest =>
      let name := (job.header.decl id).name.getD ""
      if name ∈ bound then firstNamed bound rest else id :: firstNamed (name :: bound) rest

/-- The functions that exporting a header binds, in order. -/
def boundFunctions (root : DeclId) : List DeclId :=
  job.firstNamed [] (job.childrenInScope root (· = .function))

/-- What exporting a header does. -/
def headerActions (root : DeclId) : List Action :=
  (job.boundFunctions root).flatMap job.functionActions ++
    (job.childrenInScope root (·.declaresType)).map fun id => .task (.decl id)

/-- Actions are taken one after another, and the declarations of a list are admitted. -/
inductive Takes : List Action → Progress → Progress → List DeclId → Prop where
  | nil {s : Progress} : Takes [] s s []
  /-- Between two actions messages are reported and names of functions are marked. -/
  | quietly {actions : List Action} {s s' : Progress} {admitted : List DeclId}
      (log : List Log.Record) (bound : List String)
      (rest : Takes actions { s with log, bound } s' admitted) : Takes actions s s' admitted
  | task {task : Task} {actions : List Action} {s s₁ s' : Progress} {admitted later : List DeclId}
      (first : job.Admits task s s₁ admitted) (rest : Takes actions s₁ s' later) :
      Takes (.task task :: actions) s s' (admitted ++ later)
  | callback {parameter : CallbackParameter} {newName : String} {actions : List Action}
      {s s' : Progress} {admitted : List DeclId}
      (renamed : job.names.apply parameter.function = .ok newName)
      (rest : Takes actions (s.calledBack (newName ++ "_" ++ parameter.label)
        (job.header.bindPrototype s.given parameter.prototype none none)) s' admitted) :
      Takes (.callback parameter :: actions) s s' admitted
  | call {id : DeclId} {newName : String} {binding : Binding} {actions : List Action}
      {s s' : Progress} {admitted : List DeclId}
      (renamed : job.names.apply ((job.header.decl id).name.getD "") = .ok newName)
      (binds : job.header.bindFunction s.given (job.header.decl id) = .ok binding)
      (rest : Takes actions { s with calls := s.calls ++ [(newName, binding)] } s' admitted) :
      Takes (.call id :: actions) s s' admitted

variable {job} {s s₁ s' : Progress}

theorem Takes.reported {actions : List Action} {admitted : List DeclId}
    (records : List Log.Record) (takes : job.Takes actions (s.reported records) s' admitted) :
    job.Takes actions s s' admitted :=
  .quietly _ _ takes

theorem Takes.append {actions others : List Action} {admitted later : List DeclId}
    (first : job.Takes actions s s₁ admitted) (second : job.Takes others s₁ s' later) :
    job.Takes (actions ++ others) s s' (admitted ++ later) := by
  induction first with
  | nil => exact second
  | quietly log bound _ ih => exact .quietly log bound (ih second)
  | task first _ ih =>
    rw [List.append_assoc]
    exact .task first (ih second)
  | callback renamed _ ih => exact .callback renamed (ih second)
  | call renamed binds _ ih => exact .call renamed binds (ih second)

theorem Takes.isNew {actions : List Action} {admitted : List DeclId}
    (takes : job.Takes actions s s' admitted) :
    job.AdmitsNew s s' admitted ∧ ∀ name ∈ s.exported, name ∈ s'.exported := by
  induction takes with
  | nil => exact ⟨.nil, fun _ marked => marked⟩
  | quietly _ _ _ ih | callback _ _ ih | call _ _ _ ih =>
    exact ⟨⟨ih.1.isNew, ih.1.distinct⟩, ih.2⟩
  | task first _ ih =>
    have grows := first.exports.exported
    exact ⟨first.isNew.append ih.1 grows ih.2, fun name marked => ih.2 name (grows name marked)⟩

/-- Binding the parameters of a function numbers its callbacks without a name. -/
theorem BindsArguments.takes {name newName : String} {before arguments : List Decl} {unnamed : Nat}
    (binds : job.BindsArguments newName unnamed arguments s s')
    (renamed : job.names.apply name = .ok newName)
    (counts : before.countP (·.isUnnamedCallback) = unnamed) :
    ∃ admitted, job.Takes (job.argumentActions name before arguments) s s' admitted ∧
      s'.bound = s.bound := by
  induction binds generalizing before with
  | nil => exact ⟨[], .nil, rfl⟩
  | @callback unnamed argument rest type prototype s s₁ s' own calls exports _ ih =>
    have isCallback : argument.functionPointee? = some prototype := by
      rw [Decl.functionPointee?, own, Option.bind_some, calls]
    have countsNext : (before ++ [argument]).countP (·.isUnnamedCallback) =
        if argument.properName?.isSome then unnamed else unnamed + 1 := by
      rw [List.countP_append, counts]
      cases named : argument.properName? <;> simp [Decl.isUnnamedCallback, isCallback, named]
    have label : argument.callbackLabel before =
        argument.properName?.getD ("cb" ++ toString unnamed) := by
      rw [Decl.callbackLabel, counts]
    obtain ⟨admitted, admits⟩ := exports.admits
    obtain ⟨later, takes, bound⟩ := ih countsNext
    rw [← label] at takes
    refine ⟨admitted ++ later, ?_, bound.trans exports.keepsBindings.bound⟩
    simp only [argumentActions, argumentTask, Decl.callbackParameter?, own, calls, isCallback,
      Option.map_some, Option.toList_some, List.map_cons, List.map_nil, List.cons_append,
      List.nil_append]
    exact .task admits (.reported _ (.callback renamed takes))
  | @plain unnamed argument rest type s s₁ s' own calls exports _ ih =>
    have noCallback : argument.functionPointee? = none := by
      rw [Decl.functionPointee?, own, Option.bind_some, calls]
    have countsNext : (before ++ [argument]).countP (·.isUnnamedCallback) = unnamed := by
      rw [List.countP_append, counts]
      simp [Decl.isUnnamedCallback, noCallback]
    obtain ⟨admitted, admits⟩ := exports.admits
    obtain ⟨later, takes, bound⟩ := ih countsNext
    refine ⟨admitted ++ later, ?_, bound.trans exports.keepsBindings.bound⟩
    simp only [argumentActions, argumentTask, Decl.callbackParameter?, own, calls, noCallback,
      Option.map_none, Option.toList_some, Option.toList_none, List.map_cons, List.map_nil,
      List.cons_append, List.nil_append]
    exact .task admits takes

/-- Binding a function takes its actions, unless its name was bound before. -/
theorem takes_of_bindFunction {id : DeclId} {name : String}
    (named : (job.header.decl id).name = some name)
    (run : (job.bindFunction (job.header.decl id)).Succeeds s () s') :
    if name ∈ s.bound then job.Takes [] s s' [] ∧ s'.bound = s.bound
    else ∃ admitted, job.Takes (job.functionActions id) s s' admitted ∧
      s'.bound = name :: s.bound := by
  obtain ⟨-, -, binds⟩ := bindsFunction_of_run named run
  cases binds with
  | again known =>
    rw [if_pos known]
    exact ⟨.reported _ (.reported _ .nil), rfl⟩
  | first fresh isResult areArguments renamed exports binds bound =>
    obtain ⟨admitted, admits⟩ := exports.admits
    obtain ⟨later, takes, boundArguments⟩ := binds.takes renamed List.countP_nil
    have isName : (job.header.decl id).name.getD "" = name := by rw [named, Option.getD_some]
    rw [← isName] at renamed
    rw [if_neg fresh]
    refine ⟨admitted ++ (later ++ []), ?_, boundArguments.trans exports.keepsBindings.bound⟩
    simp only [functionActions, Header.argumentsOf, isResult, areArguments, named,
      Option.toList_some, Option.getD_some, List.map_cons, List.map_nil, List.cons_append,
      List.nil_append]
    exact .quietly _ _ (.task admits (takes.append (.reported _ (.call renamed bound .nil))))

theorem takes_of_bindFunctions {ids : List DeclId}
    (named : ∀ id ∈ ids, ∃ name, (job.header.decl id).properName? = some name)
    (run : (ids.forM fun id => job.bindFunction (job.header.decl id)).Succeeds s () s') :
    ∃ admitted, job.Takes ((job.firstNamed s.bound ids).flatMap job.functionActions) s s'
      admitted := by
  induction ids generalizing s with
  | nil =>
    rw [succeeds_forM_nil] at run
    subst run
    exact ⟨[], .nil⟩
  | cons id rest ih =>
    obtain ⟨middle, first, others⟩ := succeeds_forM_cons.mp run
    obtain ⟨⟨name, own⟩, namedRest⟩ := List.forall_mem_cons.mp named
    have isName := Decl.name_of_properName? own
    have binds := takes_of_bindFunction isName first
    obtain ⟨later, takesRest⟩ := ih namedRest others
    by_cases known : name ∈ s.bound
    · rw [if_pos known] at binds
      obtain ⟨takes, bound⟩ := binds
      rw [bound] at takesRest
      simp only [firstNamed, isName, Option.getD_some, if_pos known]
      exact ⟨[] ++ later, takes.append takesRest⟩
    · rw [if_neg known] at binds
      obtain ⟨admitted, takes, bound⟩ := binds
      rw [bound] at takesRest
      simp only [firstNamed, isName, Option.getD_some, if_neg known, List.flatMap_cons]
      exact ⟨admitted ++ later, takes.append takesRest⟩

theorem takes_of_exportDecls {ids : List DeclId}
    (named : ∀ id ∈ ids, ∃ name, (job.header.decl id).properName? = some name)
    (run : (ids.forM job.exportDecl).Succeeds s () s') :
    ∃ admitted, job.Takes (ids.map fun id => .task (.decl id)) s s' admitted := by
  induction ids generalizing s with
  | nil =>
    rw [succeeds_forM_nil] at run
    subst run
    exact ⟨[], .nil⟩
  | cons id rest ih =>
    obtain ⟨middle, first, others⟩ := succeeds_forM_cons.mp run
    obtain ⟨name, own⟩ := named id List.mem_cons_self
    obtain ⟨admitted, admits⟩ := (exports_of_exportDecl own first).admits
    obtain ⟨later, takes⟩ :=
      ih (fun other inside => named other (List.mem_cons_of_mem _ inside)) others
    exact ⟨admitted ++ later, .task admits takes⟩

/-- The progress after the first two lines of the text. -/
def opened : Progress :=
  ((Progress.emitted {} .ffiImport).emitted .blank)

/-- A successful export of a header takes its actions after the first two lines of the text, and
    closes the text with the class of the library. -/
theorem takes_of_exportHeader {root : DeclId} {className : String}
    (run : (job.exportHeader className root).Succeeds {} () s') :
    ∃ s₁ admitted, job.Takes (job.headerActions root) opened s₁ admitted ∧
      s' = s₁.emitted (.library ⟨className, s₁.callbacks, s₁.calls⟩) := by
  simp only [exportHeader, exportHeaderVia, addLibraryClass, succeeds_bind, emit_succeeds,
    succeeds_get] at run
  obtain ⟨_, _, rfl, _, _, rfl, _, s₁, functions, _, s₂, declarations, _, _, ⟨rfl, rfl⟩, rfl⟩ :=
    run
  obtain ⟨admitted, binds⟩ := takes_of_bindFunctions
    (fun id inside => (exists_name_of_mem_childrenInScope inside).2.2) functions
  obtain ⟨later, exports⟩ := takes_of_exportDecls
    (fun id inside => (exists_name_of_mem_childrenInScope inside).2.2) declarations
  exact ⟨_, admitted ++ later, binds.append exports, rfl⟩

end Job

end HeaderBindings
