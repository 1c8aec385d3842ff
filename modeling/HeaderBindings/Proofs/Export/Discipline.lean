import HeaderBindings.Proofs.Export.Actions
import HeaderBindings.Proofs.Export.Requests

/-!
# What every part of an export keeps

A part of an export may fail anywhere, at any depth, and what it did before stays. So whatever is
said of the progress that exports leave has to be kept by each of their steps, and a failure has to
be traced to its cause wherever it arises. Both are done once here: a discipline relates the
progress that a part finds to the one that it leaves, whether it succeeds or fails, and says which
failures may arise. Each part of an export holds to a discipline as soon as its steps do.
-/

namespace HeaderBindings

namespace Progress

/-- Nothing but the log, the bound functions and the ends of the text and of the library class
    differs. -/
structure Adds (s s' : Progress) : Prop where
  exported : s'.exported = s.exported
  given : s'.given = s.given
  classes : s'.classes = s.classes
  calls : s.calls <+: s'.calls
  callbacks : s.callbacks <+: s'.callbacks
  items : s.items <+: s'.items

namespace Adds

variable (s : Progress)

theorem reported (records : List Log.Record) : s.Adds (s.reported records) :=
  ⟨rfl, rfl, rfl, List.prefix_rfl, List.prefix_rfl, List.prefix_rfl⟩

theorem emitted (item : Item) : s.Adds (s.emitted item) :=
  ⟨rfl, rfl, rfl, List.prefix_rfl, List.prefix_rfl, List.prefix_append _ _⟩

theorem calledBack (name : String) (binding : Binding) : s.Adds (s.calledBack name binding) :=
  ⟨rfl, rfl, rfl, List.prefix_rfl, List.prefix_append _ _, List.prefix_rfl⟩

theorem called (entry : String × Binding) : s.Adds { s with calls := s.calls ++ [entry] } :=
  ⟨rfl, rfl, rfl, List.prefix_append _ _, List.prefix_rfl, List.prefix_rfl⟩

theorem bound (names : List String) : s.Adds { s with bound := names } :=
  ⟨rfl, rfl, rfl, List.prefix_rfl, List.prefix_rfl, List.prefix_rfl⟩

end Adds

end Progress

namespace Job

/-- What a failure comes from: a template without a meaning, or a declaration that lacks something.
    The functions among them are those that are bound. -/
inductive Cause (job : Job) (isBound : DeclId → Prop) : Failure → Prop where
  | template {name : String} {error : Pattern.Error}
      (fails : Template.pieces job.names.pattern job.names.template.toList = .error error) :
      Cause job isBound (.badTemplate name job.names.template error)
  | constant {owner : String} {id : DeclId} {constant : Decl}
      (inside : constant ∈ job.childrenOfKind .enumConstant id)
      (lacks : constant.properName? = none ∨ constant.value = none) :
      Cause job isBound (.malformed (some owner) .constant)
  | fieldName {owner : String} {id : DeclId} {field : Decl}
      (inside : field ∈ job.childrenOfKind .field id) (lacks : field.properName? = none) :
      Cause job isBound (.malformed (some owner) .fieldName)
  | fieldType {owner name : String} {id : DeclId} {field : Decl}
      (inside : field ∈ job.childrenOfKind .field id) (lacks : field.type = none) :
      Cause job isBound (.malformed (some owner) (.fieldType name))
  | typedefTarget {name : String} {id : DeclId} (kind : (job.header.decl id).kind = .typedef)
      (lacks : (job.header.decl id).underlying = none) :
      Cause job isBound (.malformed (some name) .typedefTarget)
  | functionResult {id : DeclId} (bound : isBound id)
      (lacks : (job.header.decl id).resultType = none) :
      Cause job isBound (.malformed (job.header.decl id).name .functionResult)
  | functionArguments {id : DeclId} (bound : isBound id)
      (lacks : (job.header.decl id).arguments = none) :
      Cause job isBound (.malformed (job.header.decl id).name .functionArguments)
  | functionArgument {id : DeclId} {label : String} {argument : Decl} (bound : isBound id)
      (inside : argument ∈ job.header.argumentsOf (job.header.decl id))
      (lacks : argument.type = none) :
      Cause job isBound (.malformed (job.header.decl id).name (.functionArgument label))
  | argument {id : DeclId} {argument : Decl} (bound : isBound id)
      (inside : argument ∈ job.header.argumentsOf (job.header.decl id))
      (lacks : argument.type = none) :
      Cause job isBound (.malformed argument.name .argument)

/-- A discipline of exports: what a part may lead to, and how it may fail. -/
structure Discipline (job : Job) (isBound : DeclId → Prop) where
  Leads : Progress → Progress → Prop
  Fails : Progress → Failure → Prop
  refl : ∀ s, Leads s s
  trans : ∀ {s s₁ s₂}, Leads s s₁ → Leads s₁ s₂ → Leads s s₂
  adds : ∀ {s s'}, s.Adds s' → Leads s s'
  before : ∀ {s s' failure}, Leads s s' → Fails s' failure → Fails s failure
  caused : ∀ {s failure}, job.Cause isBound failure → Fails s failure

namespace Discipline

open Exporter

variable {job : Job} {isBound : DeclId → Prop} (discipline : job.Discipline isBound)
  {α β : Type}

/-- A part that goes on from `s` holds to a discipline, seen from where the export started. -/
structure Holds (part : Exporter α) (start s : Progress) : Prop where
  leads : discipline.Leads start (part.outcome s).2
  fails : ∀ {failure}, (part.outcome s).1 = .error failure → discipline.Fails start failure

/-- A way to export declarations holds to a discipline on every declaration with a name. -/
def Visits (visit : DeclId → Exporter Unit) : Prop :=
  ∀ {id : DeclId} {name : String} {s : Progress},
    (job.header.decl id).properName? = some name → discipline.Holds (visit id) s s

variable {discipline} {start s : Progress}

theorem Holds.rebase {part : Exporter α} (holds : discipline.Holds part s s)
    (leads : discipline.Leads start s) : discipline.Holds part start s where
  leads := discipline.trans leads holds.leads
  fails failed := discipline.before leads (holds.fails failed)

theorem Holds.of_pure {value : α} (leads : discipline.Leads start s) :
    discipline.Holds (pure value) start s where
  leads := leads
  fails failed := by cases failed

theorem Holds.of_throw {failure : Failure} (leads : discipline.Leads start s)
    (fails : discipline.Fails start failure) :
    discipline.Holds (throw failure : Exporter α) start s where
  leads := leads
  fails failed := by
    cases failed
    exact fails

theorem Holds.bind {part : Exporter α} {next : α → Exporter β}
    (first : discipline.Holds part start s)
    (rest : ∀ value s₁, part.Succeeds s value s₁ → discipline.Leads start s₁ →
      discipline.Holds (next value) start s₁) :
    discipline.Holds (part >>= next) start s := by
  rcases ends : part.outcome s with ⟨result, s₁⟩
  cases result with
  | ok value =>
    have leads := first.leads
    rw [ends] at leads
    have others := rest value s₁ ends leads
    exact ⟨by rw [outcome_bind, ends]; exact others.leads,
      by rw [outcome_bind, ends]; exact others.fails⟩
  | error failure =>
    have leads := first.leads
    rw [ends] at leads
    refine ⟨by rw [outcome_bind, ends]; exact leads, fun failed => ?_⟩
    rw [outcome_bind, ends] at failed
    cases failed
    exact first.fails (by rw [ends])

/-- A part that succeeds may lead anywhere, if what follows leads back. -/
theorem Holds.bind_of_succeeds {part : Exporter α} {next : α → Exporter β} {value : α}
    {s₁ : Progress} (run : part.Succeeds s value s₁)
    (rest : discipline.Holds (next value) start s₁) :
    discipline.Holds (part >>= next) start s where
  leads := by
    rw [outcome_bind, run]
    exact rest.leads
  fails := by
    rw [outcome_bind, run]
    exact rest.fails

theorem Holds.bind_of_changes {part : Exporter Unit} {next : Unit → Exporter β} {s₁ : Progress}
    (run : part.Succeeds s () s₁) (rest : discipline.Holds (next ()) start s₁) :
    discipline.Holds (part >>= next) start s :=
  .bind_of_succeeds run rest

/-- A part that succeeds and only adds something is passed over. -/
theorem Holds.adds_bind {part : Exporter Unit} {next : Unit → Exporter β} {s₁ : Progress}
    (leads : discipline.Leads start s) (run : part.Succeeds s () s₁) (adds : s.Adds s₁)
    (rest : discipline.Leads start s₁ → discipline.Holds (next ()) start s₁) :
    discipline.Holds (part >>= next) start s :=
  .bind_of_succeeds run (rest (discipline.trans leads (discipline.adds adds)))

theorem Holds.of_adds {part : Exporter Unit} {s₁ : Progress}
    (leads : discipline.Leads start s) (run : part.Succeeds s () s₁) (adds : s.Adds s₁) :
    discipline.Holds part start s where
  leads := by
    rw [run]
    exact discipline.trans leads (discipline.adds adds)
  fails failed := by
    rw [run] at failed
    cases failed

theorem Holds.of_liftM {result : Except Failure α} (leads : discipline.Leads start s)
    (fails : ∀ failure, result = .error failure → discipline.Fails start failure) :
    discipline.Holds (liftM result : Exporter α) start s where
  leads := leads
  fails failed := fails _ failed

theorem Holds.of_forM {visit : α → Exporter Unit} {list : List α}
    (leads : discipline.Leads start s)
    (each : ∀ x ∈ list, ∀ s₁, discipline.Leads start s₁ → discipline.Holds (visit x) start s₁) :
    discipline.Holds (list.forM visit) start s := by
  induction list generalizing s with
  | nil => exact .of_pure leads
  | cons x rest ih =>
    simp only [List.forM_eq_forM, List.forM_cons]
    refine (each x List.mem_cons_self s leads).bind fun _ s₁ _ leads => ?_
    exact ih leads fun y inside => each y (List.mem_cons_of_mem _ inside)

theorem Holds.of_mapM {become : α → Exporter β} {list : List α} (leads : discipline.Leads start s)
    (each : ∀ x ∈ list, ∀ s₁, discipline.Leads start s₁ → discipline.Holds (become x) start s₁) :
    discipline.Holds (list.mapM become) start s := by
  induction list generalizing s with
  | nil => exact .of_pure leads
  | cons x rest ih =>
    rw [List.mapM_cons]
    refine (each x List.mem_cons_self s leads).bind fun _ s₁ _ leads => ?_
    refine (ih leads fun y inside => each y (List.mem_cons_of_mem _ inside)).bind ?_
    exact fun _ _ _ leads => .of_pure leads

/-- What happens after a name has been marked, if it was new. -/
theorem Holds.exportOnce_bind {name : String} {next : Bool → Exporter β}
    (old : name ∈ s.exported → discipline.Holds (next false) start s)
    (new : name ∉ s.exported → discipline.Holds (next true) start (s.marked name)) :
    discipline.Holds (exportOnce name >>= next) start s := by
  by_cases known : name ∈ s.exported
  · exact .bind_of_succeeds (exportOnce_succeeds.mpr (by simp [known])) (old known)
  · exact .bind_of_succeeds (exportOnce_succeeds.mpr (by simp [known])) (new known)

theorem Holds.bindOnce_bind {name : String} {next : Bool → Exporter β}
    (old : discipline.Holds (next false) start s)
    (new : discipline.Holds (next true) start { s with bound := name :: s.bound }) :
    discipline.Holds (bindOnce name >>= next) start s := by
  by_cases known : name ∈ s.bound
  · exact .bind_of_succeeds (bindOnce_succeeds.mpr (by simp [known])) old
  · exact .bind_of_succeeds (bindOnce_succeeds.mpr (by simp [known])) new

/-- A class claims the name of its tag, and then the export goes on. -/
theorem Holds.claims {tag : Option String} {newName : String} {next : Exporter Unit}
    (rest : discipline.Holds next start (s.claimed tag newName)) :
    discipline.Holds (match tag with
      | some tag => do
          let isNew ← exportOnce tag
          if isNew = true then do
            give tag newName
            next
          else next
      | _ => next) start s := by
  cases tag with
  | none => exact rest
  | some tag =>
    refine .exportOnce_bind (fun known => ?_) fun fresh => ?_
    · rw [Progress.claimed, if_pos known] at rest
      exact rest
    · rw [Progress.claimed, if_neg fresh] at rest
      exact .bind_of_changes (give_succeeds.mpr rfl) rest

theorem exists_of_mapM_eq_error {convert : α → Except Failure β} {list : List α}
    {failure : Failure} (failed : list.mapM convert = .error failure) :
    ∃ x ∈ list, convert x = .error failure := by
  induction list with
  | nil => cases failed
  | cons x rest ih =>
    rw [List.mapM_cons] at failed
    cases first : convert x with
    | error own =>
      rw [first] at failed
      cases failed
      exact ⟨x, List.mem_cons_self, first⟩
    | ok value =>
      rw [first] at failed
      cases others : rest.mapM convert with
      | error own =>
        rw [others] at failed
        cases failed
        obtain ⟨y, inside, fails⟩ := ih others
        exact ⟨y, List.mem_cons_of_mem _ inside, fails⟩
      | ok values =>
        rw [others] at failed
        cases failed

theorem cause_of_resolveParameters {id : DeclId} (bound : isBound id) {given : GivenNames}
    {native : Bool} {arguments : List Decl}
    (inside : ∀ argument ∈ arguments, argument ∈ job.header.argumentsOf (job.header.decl id))
    {failure : Failure}
    (failed : job.header.resolveParameters given native arguments = .error failure) :
    job.Cause isBound failure := by
  induction arguments with
  | nil => cases failed
  | cons argument rest ih =>
    unfold Header.resolveParameters at failed
    split at failed
    · rename_i lacks
      cases failed
      exact .argument bound (inside argument List.mem_cons_self) lacks
    · cases others : job.header.resolveParameters given native rest with
      | error own =>
        rw [others] at failed
        cases failed
        exact ih (fun other later => inside other (List.mem_cons_of_mem _ later)) others
      | ok parameters =>
        rw [others] at failed
        cases failed

theorem cause_of_functionSignature {id : DeclId} (bound : isBound id) {given : GivenNames}
    {native : Bool} {failure : Failure}
    (failed : job.header.functionSignature given native (job.header.decl id)
      (job.header.argumentsOf (job.header.decl id)) = .error failure) :
    job.Cause isBound failure := by
  unfold Header.functionSignature at failed
  cases resolved : job.header.resolveParameters given native
      (job.header.argumentsOf (job.header.decl id)) with
  | error own =>
    rw [resolved] at failed
    cases failed
    exact cause_of_resolveParameters bound (fun _ inside => inside) resolved
  | ok parameters =>
    rw [resolved] at failed
    cases failed

/-- The signatures of a function fail only for a parameter without a type. -/
theorem cause_of_bindFunction {id : DeclId} (bound : isBound id) {given : GivenNames}
    {failure : Failure}
    (failed : job.header.bindFunction given (job.header.decl id) = .error failure) :
    job.Cause isBound failure := by
  unfold Header.bindFunction at failed
  cases native : job.header.functionSignature given true (job.header.decl id)
      (job.header.argumentsOf (job.header.decl id)) with
  | error own =>
    rw [native] at failed
    cases failed
    exact cause_of_functionSignature bound native
  | ok signature =>
    cases logical : job.header.functionSignature given false (job.header.decl id)
        (job.header.argumentsOf (job.header.decl id)) with
    | error own =>
      rw [native, logical] at failed
      cases failed
      exact cause_of_functionSignature bound logical
    | ok other =>
      rw [native, logical] at failed
      cases failed

section

variable (leads : discipline.Leads start s)

include leads

theorem Holds.newName_bind {name : String} {next : String → Exporter β}
    (rest : ∀ newName, job.names.apply name = .ok newName →
      discipline.Holds (next newName) start s) :
    discipline.Holds (job.newName name >>= next) start s := by
  cases renamed : job.names.apply name with
  | ok newName =>
    exact .bind_of_succeeds (newName_succeeds.mpr ⟨renamed, rfl⟩) (rest newName renamed)
  | error failure =>
    have throws : job.newName name = throw failure := by rw [Job.newName, renamed]
    have cause : job.Cause isBound failure := by
      unfold Renaming.apply at renamed
      split at renamed
      · cases renamed
      · rename_i error fails
        cases renamed
        exact .template fails
    rw [throws]
    exact (Holds.of_throw leads (discipline.caused cause)).bind fun _ _ run =>
      absurd run not_succeeds_throw

theorem holds_exportEnum {owner newName : String} {id : DeclId} {comment : Option String} :
    discipline.Holds (job.exportEnum owner newName id comment) start s := by
  refine .adds_bind leads (report_succeeds.mpr rfl) (.reported _ _) fun leads => ?_
  refine (Holds.of_liftM leads fun failure failed => ?_).bind fun constants s₁ _ leads => ?_
  · obtain ⟨decl, inside, fails⟩ := exists_of_mapM_eq_error failed
    unfold constant at fails
    split at fails
    · cases fails
    · rename_i lacks
      cases fails
      refine discipline.caused (.constant inside ?_)
      cases named : decl.properName? with
      | none => exact .inl rfl
      | some name =>
        cases valued : decl.value with
        | none => exact .inr rfl
        | some value => exact absurd valued (lacks name value named)
  · exact .of_adds leads (emit_succeeds.mpr rfl) (.emitted _ _)

theorem holds_exportField {owner : String} {id : DeclId} {field : Decl}
    (inside : field ∈ job.childrenOfKind .field id) :
    discipline.Holds (job.exportField owner field) start s := by
  unfold Job.exportField
  cases named : field.properName? with
  | none => exact .of_throw leads (discipline.caused (.fieldName inside named))
  | some name =>
    cases own : field.type with
    | none => exact .of_throw leads (discipline.caused (.fieldType inside own))
    | some type =>
      refine .adds_bind leads (report_succeeds.mpr rfl) (.reported _ _) fun leads => ?_
      refine .bind_of_succeeds (succeeds_get.mpr ⟨rfl, rfl⟩) ?_
      refine .adds_bind leads (reportAll_succeeds.mpr rfl) (.reported _ _) fun leads => ?_
      exact .of_pure leads

theorem holds_ifNamed {decl : Decl} {part : String → Exporter Unit}
    (holds : ∀ name, decl.name = some name → discipline.Holds (part name) start s) :
    discipline.Holds (ifNamed decl part) start s := by
  cases named : decl.name with
  | none =>
    rw [ifNamed_of_nameless named]
    exact .of_pure leads
  | some name =>
    rw [ifNamed_of_name named]
    exact holds name named

variable {visit : DeclId → Exporter Unit} (visits : discipline.Visits visit)

include visits

theorem holds_followAll {mentions : List Mention}
    (named : ∀ mention ∈ mentions,
      (job.header.decl mention.decl).properName? = some mention.name) :
    discipline.Holds (followAll visit mentions) start s := by
  refine .of_forM leads fun mention inside s₁ leads => ?_
  refine .adds_bind leads (report_succeeds.mpr rfl) (.reported _ _) fun leads => ?_
  exact (visits (named mention inside)).rebase leads

theorem holds_followType {type : CType} :
    discipline.Holds (followAll visit (job.header.mentions type)) start s :=
  holds_followAll leads visits fun _ => job.header.properName?_of_mem_mentions type

theorem holds_followPrototype {prototype : CType} :
    discipline.Holds (followAll visit (job.header.prototypeMentions prototype)) start s :=
  holds_followAll leads visits properName?_of_mem_prototypeMentions

theorem holds_exportStruct {name newName : String} {id : DeclId} {comment : Option String} :
    discipline.Holds (job.exportStruct visit name newName id comment) start s := by
  refine .adds_bind leads (report_succeeds.mpr rfl) (.reported _ _) fun leads => ?_
  refine (Holds.of_forM leads fun type _ s₁ leads => holds_followType leads visits).bind ?_
  intro _ s₁ _ leads
  refine (Holds.of_mapM leads fun field inside s₁ leads => holds_exportField leads inside).bind ?_
  intro fields s₂ _ leads
  exact .of_adds leads (emit_succeeds.mpr rfl) (.emitted _ _)

theorem holds_exportCallbackTypedef {name newName : String} {decl : Decl} {prototype : CType} :
    discipline.Holds (job.exportCallbackTypedef visit name newName decl prototype) start s := by
  refine .adds_bind leads (report_succeeds.mpr rfl) (.reported _ _) fun leads => ?_
  refine (holds_followPrototype leads visits).bind fun _ s₁ _ leads => ?_
  refine .bind_of_succeeds (succeeds_get.mpr ⟨rfl, rfl⟩) ?_
  refine .adds_bind leads (reportAll_succeeds.mpr rfl) (.reported _ _) fun leads => ?_
  refine .adds_bind leads (emit_succeeds.mpr rfl) (.emitted _ _) fun leads => ?_
  exact .of_adds leads (addCallback_succeeds.mpr rfl) (.calledBack _ _ _)

theorem holds_exportPlainTypedef {name newName : String} {underlying : CType} :
    discipline.Holds (job.exportPlainTypedef visit name newName underlying) start s := by
  refine (holds_followType leads visits).bind fun _ s₁ _ leads => ?_
  dsimp only
  split
  · exact .of_adds leads (report_succeeds.mpr rfl) (.reported _ _)
  · exact .of_adds leads (report_succeeds.mpr rfl) (.reported _ _)

omit leads in
/-- A type definition of a structure or enumeration holds to a discipline that allows for what it
    records: its name, or also a class and the name of that. -/
theorem holds_exportTagTypedef {name newName : String} {decl : Decl} {record : Bool}
    {target : DeclId} (aliases : discipline.Leads start (s.named name newName))
    (claims : job.existing? s target = none → discipline.Leads start
      (((s.named name newName).classed target newName).claimed
        (job.header.decl target).properName? newName)) :
    discipline.Holds (job.exportTagTypedef visit name newName decl record target) start s := by
  refine .bind_of_succeeds (existingName?_succeeds.mpr ⟨rfl, rfl⟩) ?_
  cases known : job.existing? s target with
  | some existing =>
    refine .bind_of_changes (report_succeeds.mpr rfl) ?_
    refine .bind_of_changes (give_succeeds.mpr rfl) ?_
    refine .of_adds ?_ (emit_succeeds.mpr rfl) (.emitted _ _)
    exact discipline.trans aliases (discipline.adds (.reported _ _))
  | none =>
    refine .bind_of_changes (give_succeeds.mpr rfl) ?_
    refine .bind_of_changes (setClass_succeeds.mpr rfl) (Holds.claims ?_)
    cases record with
    | true =>
      refine .adds_bind (claims known) (report_succeeds.mpr rfl) (.reported _ _) fun leads => ?_
      exact holds_exportStruct leads visits
    | false =>
      refine .adds_bind (claims known) (report_succeeds.mpr rfl) (.reported _ _) fun leads => ?_
      exact holds_exportEnum leads

theorem holds_exportTypedef {name newName : String} {id : DeclId}
    (aliases : discipline.Leads start (s.named name newName))
    (claims : ∀ target, job.existing? s target = none → discipline.Leads start
      (((s.named name newName).classed target newName).claimed
        (job.header.decl target).properName? newName))
    (lacks : (job.header.decl id).underlying = none →
      discipline.Fails start (.malformed (some name) .typedefTarget)) :
    discipline.Holds (job.exportTypedef visit name newName id) start s := by
  unfold Job.exportTypedef
  cases names : (job.header.decl id).underlying with
  | none =>
    simp only [names]
    exact .of_throw leads (lacks names)
  | some underlying =>
    simp only [names]
    cases tagTarget? underlying with
    | some found => exact holds_exportTagTypedef visits aliases (claims found.2)
    | none =>
      cases callbackPrototype? underlying with
      | some prototype => exact holds_exportCallbackTypedef leads visits
      | none => exact holds_exportPlainTypedef leads visits

/-- A declaration that has just been marked holds to a discipline that allows for what it may
    record under its name. -/
theorem holds_exportNew {name : String} {id : DeclId}
    (opens : ∀ newName, job.names.apply name = .ok newName →
      discipline.Leads start ((s.named name newName).classed id newName))
    (aliases : ∀ newName, job.names.apply name = .ok newName →
      discipline.Leads start (s.named name newName))
    (claims : ∀ newName target, job.names.apply name = .ok newName →
      job.existing? s target = none → discipline.Leads start
        (((s.named name newName).classed target newName).claimed
          (job.header.decl target).properName? newName)) :
    discipline.Holds (job.exportNew visit name id) start s := by
  refine .newName_bind leads fun newName renamed => ?_
  dsimp only
  split
  · refine .bind_of_changes (give_succeeds.mpr rfl) ?_
    refine .bind_of_changes (setClass_succeeds.mpr rfl) ?_
    exact holds_exportEnum (opens newName renamed)
  · refine .bind_of_changes (give_succeeds.mpr rfl) ?_
    refine .bind_of_changes (setClass_succeeds.mpr rfl) ?_
    exact holds_exportStruct (opens newName renamed) visits
  · rename_i kind
    exact holds_exportTypedef leads visits (aliases newName renamed)
      (fun target unnamed => claims newName target renamed unnamed)
      fun lacks => discipline.caused (.typedefTarget kind lacks)
  · exact .of_adds leads (report_succeeds.mpr rfl) (.reported _ _)

theorem holds_bindArguments {id : DeclId} {name newName : String} {unnamed : Nat}
    {arguments : List Decl} (bound : isBound id) (named : (job.header.decl id).name = some name)
    (inside : ∀ argument ∈ arguments, argument ∈ job.header.argumentsOf (job.header.decl id)) :
    discipline.Holds (job.bindArguments visit name newName unnamed arguments) start s := by
  induction arguments generalizing unnamed s with
  | nil => exact .of_pure leads
  | cons argument rest ih =>
    have insideRest := fun other later => inside other (List.mem_cons_of_mem _ later)
    unfold bindArguments
    cases own : argument.type with
    | none =>
      refine .of_throw leads ?_
      rw [← named]
      exact discipline.caused (.functionArgument bound (inside argument List.mem_cons_self) own)
    | some type =>
      dsimp only
      cases type.functionPointee? with
      | some prototype =>
        refine (holds_followPrototype leads visits).bind fun _ s₁ _ leads => ?_
        refine .bind_of_succeeds (succeeds_get.mpr ⟨rfl, rfl⟩) ?_
        refine .adds_bind leads (reportAll_succeeds.mpr rfl) (.reported _ _) fun leads => ?_
        refine .adds_bind leads (addCallback_succeeds.mpr rfl) (.calledBack _ _ _) fun leads => ?_
        exact ih leads insideRest
      | none =>
        refine (holds_followType leads visits).bind fun _ s₁ _ leads => ?_
        exact ih leads insideRest

theorem holds_bindFunction {id : DeclId} (bound : isBound id) :
    discipline.Holds (job.bindFunctionVia visit (job.header.decl id)) start s := by
  refine .adds_bind leads (report_succeeds.mpr rfl) (.reported _ _) fun leads => ?_
  cases result : (job.header.decl id).resultType with
  | none => exact .of_throw leads (discipline.caused (.functionResult bound result))
  | some resultType =>
    cases parameters : (job.header.decl id).arguments with
    | none => exact .of_throw leads (discipline.caused (.functionArguments bound parameters))
    | some arguments =>
      have isArgument : ∀ argument ∈ arguments.map job.header.decl,
          argument ∈ job.header.argumentsOf (job.header.decl id) := by
        intro argument inside
        rw [Header.argumentsOf, parameters, Option.getD_some]
        exact inside
      refine holds_ifNamed leads fun name named => .bindOnce_bind ?_ ?_
      · exact .of_adds leads (report_succeeds.mpr rfl) (.reported _ _)
      · replace leads := discipline.trans leads (discipline.adds (.bound _ (name :: s.bound)))
        refine .newName_bind leads fun newName _ => ?_
        refine (holds_followType leads visits).bind fun _ s₁ _ leads => ?_
        refine (holds_bindArguments leads visits bound named isArgument).bind fun _ s₂ _ leads => ?_
        refine .bind_of_succeeds (succeeds_get.mpr ⟨rfl, rfl⟩) ?_
        refine .adds_bind leads (reportAll_succeeds.mpr rfl) (.reported _ _) fun leads => ?_
        refine (Holds.of_liftM leads fun failure failed => ?_).bind fun binding s₃ _ leads => ?_
        · exact discipline.caused (cause_of_bindFunction bound failed)
        · exact .of_adds leads (addCall_succeeds.mpr rfl) (.called _ _)

theorem holds_exportHeader {className : String} {root : DeclId}
    (bound : ∀ id ∈ job.childrenInScope root (· = .function), isBound id) :
    discipline.Holds (job.exportHeaderVia visit className root) start s := by
  refine .adds_bind leads (emit_succeeds.mpr rfl) (.emitted _ _) fun leads => ?_
  refine .adds_bind leads (emit_succeeds.mpr rfl) (.emitted _ _) fun leads => ?_
  refine (Holds.of_forM leads fun id inside s₁ leads => ?_).bind fun _ s₁ _ leads => ?_
  · exact holds_bindFunction leads visits (bound id inside)
  refine (Holds.of_forM leads fun id inside s₂ leads => ?_).bind fun _ s₂ _ leads => ?_
  · obtain ⟨-, -, name, named⟩ := exists_name_of_mem_childrenInScope inside
    exact (visits named).rebase leads
  · refine .bind_of_succeeds (succeeds_get.mpr ⟨rfl, rfl⟩) ?_
    exact .of_adds leads (emit_succeeds.mpr rfl) (.emitted _ _)

/-- A request holds to a discipline as soon as it does so when it asks for one declaration by
    itself, which need not be one that visits are made to. -/
theorem holds_performVia (bound : ∀ id, isBound id) {request : Request}
    (own : ∀ id, request = .declaration id → discipline.Holds (visit id) start s) :
    discipline.Holds (job.performVia visit request) start s := by
  cases request with
  | header className root => exact holds_exportHeader leads visits fun id _ => bound id
  | function id => exact holds_bindFunction leads visits (bound id)
  | type type => exact holds_followType leads visits
  | prototype prototype => exact holds_followPrototype leads visits
  | declaration id => exact own id rfl

end

end Discipline

end Job

end HeaderBindings
