import HeaderBindings.Proofs.Export.Derivation
import HeaderBindings.Proofs.Header.Parts

/-!
# Successful exports have derivations

Each part of an export, when it succeeds, does what the rules of a derivation say. Parts that export
mentioned declarations take the way to do so as an argument, and here they assume that this way has
derivations; the budget of an export then gives the induction. The binding of a function has rules
of its own.
-/

namespace HeaderBindings

namespace Exporter

variable {s s' : Progress} {value : Unit}

@[simp] theorem reportAll_succeeds {records : List Log.Record} :
    (reportAll records).Succeeds s value s' ↔ s' = s.reported records :=
  succeeds_modify

@[simp] theorem report_succeeds {level : Log.Level} {message : String} :
    (report level message).Succeeds s value s' ↔ s' = s.said level message :=
  succeeds_modify

@[simp] theorem emit_succeeds {item : Item} :
    (emit item).Succeeds s value s' ↔ s' = s.emitted item :=
  succeeds_modify

@[simp] theorem give_succeeds {name newName : String} :
    (give name newName).Succeeds s value s' ↔ s' = s.named name newName :=
  succeeds_modify

@[simp] theorem setClass_succeeds {id : DeclId} {newName : String} :
    (setClass id newName).Succeeds s value s' ↔ s' = s.classed id newName :=
  succeeds_modify

@[simp] theorem addCallback_succeeds {name : String} {binding : Binding} :
    (addCallback name binding).Succeeds s value s' ↔ s' = s.calledBack name binding :=
  succeeds_modify

@[simp] theorem addCall_succeeds {name : String} {binding : Binding} :
    (addCall name binding).Succeeds s value s' ↔
      s' = { s with calls := s.calls ++ [(name, binding)] } :=
  succeeds_modify

theorem exportOnce_succeeds {name : String} {isNew : Bool} :
    (exportOnce name).Succeeds s isNew s' ↔
      if name ∈ s.exported then isNew = false ∧ s' = s else isNew = true ∧ s' = s.marked name := by
  by_cases known : name ∈ s.exported <;>
    simp [exportOnce, succeeds_bind, known, and_comm]

theorem bindOnce_succeeds {name : String} {isNew : Bool} :
    (bindOnce name).Succeeds s isNew s' ↔
      if name ∈ s.bound then isNew = false ∧ s' = s
      else isNew = true ∧ s' = { s with bound := name :: s.bound } := by
  by_cases known : name ∈ s.bound <;>
    simp [bindOnce, succeeds_bind, known, and_comm]

/-- A part that goes on only if a name is new either stops, or goes on with the name marked. -/
theorem succeeds_of_exportOnce {name : String} {next : Exporter Unit}
    (run : (do
      let isNew ← exportOnce name
      if isNew = true then next else pure ()).Succeeds s () s') :
    (name ∈ s.exported ∧ s' = s) ∨ (name ∉ s.exported ∧ next.Succeeds (s.marked name) () s') := by
  simp only [succeeds_bind, exportOnce_succeeds] at run
  obtain ⟨isNew, middle, marks, run⟩ := run
  by_cases known : name ∈ s.exported
  · rw [if_pos known] at marks
    obtain ⟨rfl, rfl⟩ := marks
    exact .inl ⟨known, by simpa using run⟩
  · rw [if_neg known] at marks
    obtain ⟨rfl, rfl⟩ := marks
    exact .inr ⟨known, run⟩

end Exporter

theorem Decl.name_of_properName? {decl : Decl} {name : String}
    (named : decl.properName? = some name) : decl.name = some name :=
  (Option.filter_eq_some_iff.mp named).1

theorem Decl.name_ne_empty {decl : Decl} {name : String} (named : decl.properName? = some name) :
    decl.name ≠ some "" := by
  intro isEmpty
  simp [properName?, isEmpty] at named

namespace Job

open Exporter

variable {job : Job} {s s' : Progress} {value : Unit}

theorem exists_name_of_mem_childrenInScope {root id : DeclId} {test : DeclKind → Bool}
    (inside : id ∈ job.childrenInScope root test) :
    id ∈ job.header.childrenOf root ∧ test (job.header.decl id).kind = true ∧
      ∃ name, (job.header.decl id).properName? = some name := by
  obtain ⟨isChild, passes⟩ := List.mem_filter.mp inside
  simp only [Bool.and_eq_true, inScope, Option.any_eq_true] at passes
  obtain ⟨kind, name, named, -⟩ := passes
  exact ⟨isChild, kind, name, named⟩

theorem newName_succeeds {name newName : String} :
    (job.newName name).Succeeds s newName s' ↔ job.names.apply name = .ok newName ∧ s' = s := by
  unfold Job.newName
  cases job.names.apply name with
  | error failure => simp
  | ok newName => simp [eq_comm]

theorem existingName?_succeeds {id : DeclId} {existing : Option String} :
    (job.existingName? id).Succeeds s existing s' ↔ existing = job.existing? s id ∧ s' = s := by
  simp [existingName?, existing?, and_comm]

theorem exportEnum_succeeds {owner newName : String} {id : DeclId} {comment : Option String} :
    (job.exportEnum owner newName id comment).Succeeds s value s' ↔
      ∃ constants, (job.childrenOfKind .enumConstant id).mapM (constant owner) = .ok constants ∧
        s' = (s.said .info (asText "Translate enum" owner newName)).emitted
          (.enumClass id newName (comment.filter (· ≠ "")) constants) := by
  simp [exportEnum, succeeds_bind]

theorem exportField_succeeds {owner : String} {decl : Decl} {field : Field} :
    (job.exportField owner decl).Succeeds s field s' ↔
      job.BecomesField s.given decl field ∧ s' = s.reported (job.fieldReport s.given decl) := by
  unfold exportField BecomesField fieldReport
  cases decl.properName? with
  | none => simp
  | some name =>
    cases decl.type with
    | none => simp
    | some type => simp [succeeds_bind, and_comm]

theorem exportFields_succeeds {owner : String} {decls : List Decl} {fields : List Field} :
    (decls.mapM (job.exportField owner)).Succeeds s fields s' ↔
      List.Forall₂ (job.BecomesField s.given) decls fields ∧
        s' = s.reported (decls.flatMap (job.fieldReport s.given)) := by
  induction decls generalizing s s' fields with
  | nil => cases fields <;> simp
  | cons decl rest ih =>
    simp only [List.mapM_cons, succeeds_bind, exportField_succeeds, ih, succeeds_pure]
    constructor
    · rintro ⟨field, _, ⟨becomes, rfl⟩, others, _, ⟨become, rfl⟩, rfl, rfl⟩
      exact ⟨.cons becomes become, by simp⟩
    · rintro ⟨become, rfl⟩
      cases become with
      | cons becomes become => exact ⟨_, _, ⟨becomes, rfl⟩, _, _, ⟨become, rfl⟩, rfl, by simp⟩

theorem exportStruct_succeeds {visit : DeclId → Exporter Unit} {name newName : String}
    {id : DeclId} {comment : Option String} :
    (job.exportStruct visit name newName id comment).Succeeds s value s' ↔
      ∃ s₁ fields,
        (followAll visit (job.fieldMentions id)).Succeeds
          (s.said .info (asText "Translate struct" name newName)) () s₁ ∧
        List.Forall₂ (job.BecomesField s₁.given) (job.childrenOfKind .field id) fields ∧
        s' = (s₁.reported
            ((job.childrenOfKind .field id).flatMap (job.fieldReport s₁.given))).emitted
          (.structClass id newName (comment.filter (· ≠ "")) fields) := by
  simp only [exportStruct, followAll, succeeds_bind, succeeds_forM_flatMap, report_succeeds,
    emit_succeeds, exportFields_succeeds]
  constructor
  · rintro ⟨_, _, rfl, _, s₁, inside, fields, _, ⟨become, rfl⟩, rfl⟩
    exact ⟨s₁, fields, inside, become, rfl⟩
  · rintro ⟨s₁, fields, inside, become, rfl⟩
    exact ⟨(), _, rfl, (), s₁, inside, fields, _, ⟨become, rfl⟩, rfl⟩

/-- Whenever a way to export declarations succeeds on a declaration with a name, there is a
    derivation. -/
def HasDerivations (job : Job) (visit : DeclId → Exporter Unit) : Prop :=
  ∀ {id : DeclId} {name : String} {s s' : Progress},
    (job.header.decl id).properName? = some name → (visit id).Succeeds s () s' →
      job.Exports (.decl id) s s'

variable {visit : DeclId → Exporter Unit}

theorem exports_of_followAll (derives : job.HasDerivations visit) {mentions : List Mention}
    (named : ∀ mention ∈ mentions,
      (job.header.decl mention.decl).properName? = some mention.name)
    (run : (followAll visit mentions).Succeeds s () s') :
    job.Exports (.mentions mentions) s s' := by
  unfold followAll at run
  induction mentions generalizing s with
  | nil =>
    rw [succeeds_forM_nil] at run
    subst run
    exact .done
  | cons mention rest ih =>
    obtain ⟨middle, first, others⟩ := succeeds_forM_cons.mp run
    simp only [follow, succeeds_bind, report_succeeds] at first
    obtain ⟨_, _, rfl, first⟩ := first
    have own := named mention List.mem_cons_self
    exact .next own (derives own first)
      (ih (fun other member => named other (List.mem_cons_of_mem _ member)) others)

theorem properName?_of_mem_fieldMentions {id : DeclId} :
    ∀ mention ∈ job.fieldMentions id,
      (job.header.decl mention.decl).properName? = some mention.name := by
  intro mention member
  obtain ⟨type, -, inside⟩ := List.mem_flatMap.mp member
  exact job.header.properName?_of_mem_mentions type inside

theorem properName?_of_mem_prototypeMentions {prototype : CType} :
    ∀ mention ∈ job.header.prototypeMentions prototype,
      (job.header.decl mention.decl).properName? = some mention.name := by
  intro mention member
  obtain ⟨part, -, inside⟩ := job.header.mem_prototypeMentions.mp member
  exact job.header.properName?_of_mem_mentions part inside

/-- Writing the class that an export has begun ends its derivation. -/
theorem exports_of_class (derives : job.HasDerivations visit) {id : DeclId} {opening : Opening}
    {s₁ : Progress} (opens : job.Opens id s opening s₁)
    (run : (if opening.record then
        job.exportStruct visit opening.owner opening.newName opening.target opening.comment
      else
        job.exportEnum opening.owner opening.newName opening.target opening.comment).Succeeds
      s₁ () s') : job.Exports (.decl id) s s' := by
  cases record : opening.record with
  | true =>
    rw [record, if_pos rfl, exportStruct_succeeds] at run
    obtain ⟨s₂, fields, inside, become, rfl⟩ := run
    exact .structClass opens record
      (exports_of_followAll derives properName?_of_mem_fieldMentions inside) become
  | false =>
    rw [record, if_neg (by decide), exportEnum_succeeds] at run
    obtain ⟨constants, exported, rfl⟩ := run
    exact .enumClass opens record exported

/-- A class claims the name of its tag, and then the export goes on. -/
theorem claims {tag : Option String} {newName : String} {next : Exporter Unit}
    (run : (match tag with
      | some tag => do
          let isNew ← exportOnce tag
          if isNew = true then do
            give tag newName
            next
          else next
      | _ => next).Succeeds s () s') : next.Succeeds (s.claimed tag newName) () s' := by
  cases tag with
  | none => exact run
  | some tag =>
    simp only [succeeds_bind, exportOnce_succeeds] at run
    obtain ⟨isNew, middle, marks, run⟩ := run
    by_cases known : tag ∈ s.exported
    · rw [if_pos known] at marks
      obtain ⟨rfl, rfl⟩ := marks
      simpa [Progress.claimed, known] using run
    · rw [if_neg known] at marks
      obtain ⟨rfl, rfl⟩ := marks
      simpa [Progress.claimed, known, succeeds_bind] using run

section

variable {id : DeclId} {name newName : String}

theorem exports_of_exportTagTypedef (derives : job.HasDerivations visit)
    {underlying : CType} {record : Bool} {target : DeclId}
    (named : (job.header.decl id).properName? = some name) (fresh : name ∉ s.exported)
    (renamed : job.names.apply name = .ok newName) (kind : (job.header.decl id).kind = .typedef)
    (names : (job.header.decl id).underlying = some underlying)
    (tagged : tagTarget? underlying = some (record, target))
    (run : (job.exportTagTypedef visit name newName (job.header.decl id) record target).Succeeds
      (s.marked name) () s') : job.Exports (.decl id) s s' := by
  simp only [exportTagTypedef, succeeds_bind, existingName?_succeeds] at run
  obtain ⟨found, _, ⟨same, rfl⟩, run⟩ := run
  cases known : job.existing? s target with
  | some existing =>
    obtain rfl : found = some existing := same.trans known
    simp only [succeeds_bind, report_succeeds, give_succeeds, emit_succeeds] at run
    obtain ⟨_, _, rfl, _, _, rfl, rfl⟩ := run
    exact .otherName named fresh renamed kind names tagged known
  | none =>
    obtain rfl : found = none := same.trans known
    simp only [succeeds_bind, give_succeeds, setClass_succeeds] at run
    obtain ⟨_, _, rfl, _, _, rfl, run⟩ := run
    have begun := claims run
    have opens := Opens.typedef named fresh renamed kind names tagged known
    cases record with
    | true =>
      simp only [if_true, succeeds_bind, report_succeeds] at begun
      obtain ⟨_, _, rfl, write⟩ := begun
      exact exports_of_class derives opens write
    | false =>
      simp only [Bool.false_eq_true, if_false, succeeds_bind, report_succeeds] at begun
      obtain ⟨_, _, rfl, write⟩ := begun
      exact exports_of_class derives opens write

theorem exports_of_exportCallbackTypedef (derives : job.HasDerivations visit)
    {underlying prototype : CType}
    (named : (job.header.decl id).properName? = some name) (fresh : name ∉ s.exported)
    (renamed : job.names.apply name = .ok newName) (kind : (job.header.decl id).kind = .typedef)
    (names : (job.header.decl id).underlying = some underlying)
    (untagged : tagTarget? underlying = none)
    (calls : callbackPrototype? underlying = some prototype)
    (run : (job.exportCallbackTypedef visit name newName (job.header.decl id) prototype).Succeeds
      (s.marked name) () s') : job.Exports (.decl id) s s' := by
  simp only [exportCallbackTypedef, succeeds_bind, report_succeeds, succeeds_get,
    reportAll_succeeds, emit_succeeds, addCallback_succeeds] at run
  obtain ⟨_, _, rfl, _, s₁, inside, _, _, ⟨rfl, rfl⟩, _, _, rfl, _, _, rfl, rfl⟩ := run
  exact .callback named fresh renamed kind names untagged calls
    (exports_of_followAll derives properName?_of_mem_prototypeMentions inside)

theorem exports_of_exportPlainTypedef (derives : job.HasDerivations visit) {underlying : CType}
    (named : (job.header.decl id).properName? = some name) (fresh : name ∉ s.exported)
    (renamed : job.names.apply name = .ok newName) (kind : (job.header.decl id).kind = .typedef)
    (names : (job.header.decl id).underlying = some underlying)
    (untagged : tagTarget? underlying = none) (uncalled : callbackPrototype? underlying = none)
    (run : (job.exportPlainTypedef visit name newName underlying).Succeeds
      (s.marked name) () s') : job.Exports (.decl id) s s' := by
  simp only [exportPlainTypedef, succeeds_bind] at run
  obtain ⟨_, s₁, inside, run⟩ := run
  have derivation := exports_of_followAll derives
    (fun _ => job.header.properName?_of_mem_mentions underlying) inside
  split at run
  · rw [report_succeeds] at run
    subst run
    exact .plain named fresh renamed kind names untagged uncalled derivation (by simp)
  · rw [report_succeeds] at run
    subst run
    exact .plain named fresh renamed kind names untagged uncalled derivation (by simp)

theorem exports_of_exportTypedef (derives : job.HasDerivations visit)
    (named : (job.header.decl id).properName? = some name) (fresh : name ∉ s.exported)
    (renamed : job.names.apply name = .ok newName) (kind : (job.header.decl id).kind = .typedef)
    (run : (job.exportTypedef visit name newName id).Succeeds (s.marked name) () s') :
    job.Exports (.decl id) s s' := by
  unfold exportTypedef at run
  cases names : (job.header.decl id).underlying with
  | none =>
    simp only [names] at run
    exact absurd run not_succeeds_throw
  | some underlying =>
    simp only [names] at run
    cases tagged : tagTarget? underlying with
    | some target =>
      obtain ⟨record, target⟩ := target
      simp only [tagged] at run
      exact exports_of_exportTagTypedef derives named fresh renamed kind names tagged run
    | none =>
      simp only [tagged] at run
      cases calls : callbackPrototype? underlying with
      | some prototype =>
        simp only [calls] at run
        exact exports_of_exportCallbackTypedef derives named fresh renamed kind names tagged
          calls run
      | none =>
        simp only [calls] at run
        exact exports_of_exportPlainTypedef derives named fresh renamed kind names tagged calls run

theorem exports_of_exportNew (derives : job.HasDerivations visit)
    (named : (job.header.decl id).properName? = some name) (fresh : name ∉ s.exported)
    (run : (job.exportNew visit name id).Succeeds (s.marked name) () s') :
    job.Exports (.decl id) s s' := by
  simp only [exportNew, succeeds_bind, newName_succeeds] at run
  obtain ⟨newName, _, ⟨renamed, rfl⟩, run⟩ := run
  split at run
  case h_1 kind =>
    simp only [succeeds_bind, give_succeeds, setClass_succeeds] at run
    obtain ⟨_, _, rfl, _, _, rfl, write⟩ := run
    have opens : job.Opens id s ⟨id, false, name, newName, _⟩ _ := .tag named fresh renamed kind
    exact exports_of_class derives opens write
  case h_2 kind =>
    simp only [succeeds_bind, give_succeeds, setClass_succeeds] at run
    obtain ⟨_, _, rfl, _, _, rfl, write⟩ := run
    have opens : job.Opens id s ⟨id, true, name, newName, _⟩ _ := .tag named fresh renamed kind
    exact exports_of_class derives opens write
  case h_3 kind =>
    exact exports_of_exportTypedef derives named fresh renamed kind run
  case h_4 noEnum noStruct noTypedef =>
    rw [report_succeeds] at run
    subst run
    refine .other named fresh renamed ?_
    cases kind : (job.header.decl id).kind <;> simp_all [DeclKind.declaresType]

end

/-- An export that succeeds within a budget has a derivation. -/
theorem exports_of_exportWithin (budget : Nat) : job.HasDerivations (job.exportWithin budget) := by
  induction budget with
  | zero =>
    intro id name s s' named run
    rw [exportWithin, ifNamed_of_name (Decl.name_of_properName? named)] at run
    rcases succeeds_of_exportOnce run with ⟨known, rfl⟩ | ⟨fresh, run⟩
    · exact .known named known
    · exact absurd run not_succeeds_throw
  | succ budget ih =>
    intro id name s s' named run
    rw [exportWithin, ifNamed_of_name (Decl.name_of_properName? named)] at run
    rcases succeeds_of_exportOnce run with ⟨known, rfl⟩ | ⟨fresh, run⟩
    · exact .known named known
    · exact exports_of_exportNew ih named fresh run

theorem exports_of_exportDecl : job.HasDerivations job.exportDecl :=
  exports_of_exportWithin job.nestingBudget

theorem exports_of_exportType {type : CType} (run : (job.exportType type).Succeeds s () s') :
    job.Exports (.mentions (job.header.mentions type)) s s' :=
  exports_of_followAll exports_of_exportDecl
    (fun _ => job.header.properName?_of_mem_mentions type) run

theorem exports_of_exportPrototype {prototype : CType}
    (run : (job.exportPrototype prototype).Succeeds s () s') :
    job.Exports (.mentions (job.header.prototypeMentions prototype)) s s' :=
  exports_of_followAll exports_of_exportDecl properName?_of_mem_prototypeMentions run

/-! ## Functions -/

variable (job) in
/-- The parameters of a function are bound one after another. The callbacks that have no name are
    counted. -/
inductive BindsArguments (newName : String) : Nat → List Decl → Progress → Progress → Prop where
  | nil {unnamed : Nat} {s : Progress} : BindsArguments newName unnamed [] s s
  | callback {unnamed : Nat} {argument : Decl} {rest : List Decl} {type prototype : CType}
      {s s₁ s' : Progress} (own : argument.type = some type)
      (calls : type.functionPointee? = some prototype)
      (exports : job.Exports (.mentions (job.header.prototypeMentions prototype)) s s₁)
      (others : BindsArguments newName
        (if argument.properName?.isSome then unnamed else unnamed + 1) rest
        ((s₁.reported (job.header.bindPrototypeReport s₁.given prototype)).calledBack
          (newName ++ "_" ++ argument.properName?.getD ("cb" ++ toString unnamed))
          (job.header.bindPrototype s₁.given prototype none none)) s') :
      BindsArguments newName unnamed (argument :: rest) s s'
  | plain {unnamed : Nat} {argument : Decl} {rest : List Decl} {type : CType}
      {s s₁ s' : Progress} (own : argument.type = some type)
      (calls : type.functionPointee? = none)
      (exports : job.Exports (.mentions (job.header.mentions type)) s s₁)
      (others : BindsArguments newName unnamed rest s₁ s') :
      BindsArguments newName unnamed (argument :: rest) s s'

theorem bindsArguments_of_run {name newName : String} {unnamed : Nat} {arguments : List Decl}
    (run : (job.bindArguments job.exportDecl name newName unnamed arguments).Succeeds s () s') :
    job.BindsArguments newName unnamed arguments s s' := by
  induction arguments generalizing unnamed s with
  | nil =>
    rw [bindArguments, succeeds_pure] at run
    obtain ⟨-, rfl⟩ := run
    exact .nil
  | cons argument rest ih =>
    rw [bindArguments] at run
    cases own : argument.type with
    | none =>
      simp only [own] at run
      exact absurd run not_succeeds_throw
    | some type =>
      cases calls : type.functionPointee? with
      | some prototype =>
        simp only [own, calls, succeeds_bind, succeeds_get, reportAll_succeeds,
          addCallback_succeeds] at run
        obtain ⟨_, s₁, inside, _, _, ⟨rfl, rfl⟩, _, _, rfl, _, _, rfl, run⟩ := run
        exact .callback own calls (exports_of_exportPrototype inside) (ih run)
      | none =>
        simp only [own, calls, succeeds_bind] at run
        obtain ⟨_, s₁, inside, run⟩ := run
        exact .plain own calls (exports_of_exportType inside) (ih run)

variable (job) in
/-- A function is bound: either its name was bound before, or what its signature mentions is exported
    and it becomes a call of the library. -/
inductive BindsFunction (decl : Decl) (name : String) (s : Progress) : Progress → Prop where
  | again (known : name ∈ s.bound) :
      BindsFunction decl name s ((s.said .info ("Parse function: `" ++ name ++ "`")).said .debug
        ("Function `" ++ name ++ "` already bound"))
  | first {result : CType} {arguments : List DeclId} {newName : String} {binding : Binding}
      {s₁ s₂ : Progress} (fresh : name ∉ s.bound) (isResult : decl.resultType = some result)
      (areArguments : decl.arguments = some arguments)
      (renamed : job.names.apply name = .ok newName)
      (exports : job.Exports (.mentions (job.header.mentions result))
        { s.said .info ("Parse function: `" ++ name ++ "`") with bound := name :: s.bound } s₁)
      (binds : job.BindsArguments newName 0 (arguments.map job.header.decl) s₁ s₂)
      (bound : job.header.bindFunction s₂.given decl = .ok binding) :
      BindsFunction decl name s
        { s₂.reported (job.header.bindFunctionReport s₂.given decl) with
          calls := s₂.calls ++ [(newName, binding)] }

theorem bindsFunction_of_run {decl : Decl} {name : String} (named : decl.name = some name)
    (run : (job.bindFunction decl).Succeeds s () s') :
    decl.resultType.isSome ∧ decl.arguments.isSome ∧ job.BindsFunction decl name s s' := by
  simp only [bindFunction, bindFunctionVia, ifNamed_of_name named, succeeds_bind,
    report_succeeds] at run
  obtain ⟨_, _, rfl, run⟩ := run
  rw [named, Option.getD_some] at run
  cases result : decl.resultType with
  | none =>
    simp only [result] at run
    exact absurd run not_succeeds_throw
  | some resultType =>
    cases parameters : decl.arguments with
    | none =>
      simp only [result, parameters] at run
      exact absurd run not_succeeds_throw
    | some arguments =>
      refine ⟨rfl, rfl, ?_⟩
      simp only [result, parameters, succeeds_bind, bindOnce_succeeds] at run
      obtain ⟨isNew, middle, marks, run⟩ := run
      by_cases known : name ∈ s.bound
      · rw [if_pos (by exact known)] at marks
        obtain ⟨rfl, rfl⟩ := marks
        simp only [Bool.false_eq_true, if_false, report_succeeds] at run
        subst run
        exact .again known
      · rw [if_neg (by exact known)] at marks
        obtain ⟨rfl, rfl⟩ := marks
        simp only [if_true, succeeds_bind, newName_succeeds, succeeds_get, reportAll_succeeds,
          succeeds_liftM, addCall_succeeds] at run
        obtain ⟨newName, _, ⟨renamed, rfl⟩, _, s₁, exportsResult, _, s₂, binds, _, _, ⟨rfl, rfl⟩,
          _, _, rfl, binding, _, ⟨bound, rfl⟩, rfl⟩ := run
        exact .first known result parameters renamed (exports_of_exportType exportsResult)
          (bindsArguments_of_run binds) bound

end Job

end HeaderBindings
