import HeaderBindings.Proofs.Export.ClassBlocks
import HeaderBindings.Proofs.Export.Closure
import HeaderBindings.Proofs.Export.Nesting
import HeaderBindings.Proofs.Export.Repetition

/-!
# Malformed declarations

A declaration that lacks what one of its kind must have makes an export fail when a walk comes to
it. Which declarations a walk comes to does not depend on its order: whatever repetitions, other
names and claimed names leave out was looked at before. So the export of a header fails just when a
function in scope or a wanted declaration is malformed, and types that cannot be translated do not
make it fail.
-/

namespace HeaderBindings

namespace Exporter

variable {α β : Type} {reason : Prop}

/-- Whenever a part of an export fails on a malformed declaration, that is for a reason. -/
def BlamedOn (part : Exporter α) (reason : Prop) : Prop :=
  ∀ ⦃s : Progress⦄ ⦃name : Option String⦄ ⦃fault : Malformation⦄,
    (part.outcome s).1 = .error (.malformed name fault) → reason

namespace BlamedOn

theorem of_succeeds {part : Exporter α}
    (succeeds : ∀ s, ∃ value s', part.Succeeds s value s') : part.BlamedOn reason := by
  intro s name fault failed
  obtain ⟨value, s', run⟩ := succeeds s
  rw [run] at failed
  cases failed

theorem pure {value : α} : (pure value : Exporter α).BlamedOn reason :=
  .of_succeeds fun s => ⟨value, s, succeeds_pure.mpr ⟨rfl, rfl⟩⟩

theorem get : (get : Exporter Progress).BlamedOn reason :=
  .of_succeeds fun s => ⟨s, s, succeeds_get.mpr ⟨rfl, rfl⟩⟩

/-- Reports and records of any kind do not fail. -/
theorem modify {change : Progress → Progress} : (modify change : Exporter Unit).BlamedOn reason :=
  .of_succeeds fun s => ⟨(), change s, succeeds_modify.mpr rfl⟩

theorem exportOnce {name : String} : (exportOnce name).BlamedOn reason := by
  refine .of_succeeds fun s => ?_
  by_cases known : name ∈ s.exported
  · exact ⟨false, s, exportOnce_succeeds.mpr (by simp [known])⟩
  · exact ⟨true, s.marked name, exportOnce_succeeds.mpr (by simp [known])⟩

theorem bindOnce {name : String} : (bindOnce name).BlamedOn reason := by
  refine .of_succeeds fun s => ?_
  by_cases known : name ∈ s.bound
  · exact ⟨false, s, bindOnce_succeeds.mpr (by simp [known])⟩
  · exact ⟨true, { s with bound := name :: s.bound }, bindOnce_succeeds.mpr (by simp [known])⟩

theorem throw {failure : Failure}
    (blames : ∀ name fault, failure = .malformed name fault → reason) :
    (throw failure : Exporter α).BlamedOn reason := by
  intro s name fault failed
  cases failed
  exact blames name fault rfl

theorem liftM {result : Except Failure α}
    (blames : ∀ name fault, result = .error (.malformed name fault) → reason) :
    (liftM result : Exporter α).BlamedOn reason :=
  fun _ name fault failed => blames name fault failed

theorem bind {part : Exporter α} {next : α → Exporter β} (first : part.BlamedOn reason)
    (rest : ∀ value, (next value).BlamedOn reason) : (part >>= next).BlamedOn reason := by
  intro s name fault failed
  rw [outcome_bind] at failed
  rcases ends : part.outcome s with ⟨result, middle⟩
  rw [ends] at failed
  cases result with
  | ok value => exact rest value failed
  | error failure =>
    cases failed
    exact @first s name fault (by rw [ends])

theorem ifNamed {decl : Decl} {part : String → Exporter Unit}
    (blamed : ∀ name, decl.name = some name → (part name).BlamedOn reason) :
    (Job.ifNamed decl part).BlamedOn reason := by
  cases named : decl.name with
  | none =>
    rw [Job.ifNamed_of_nameless named]
    exact .pure
  | some name =>
    rw [Job.ifNamed_of_name named]
    exact blamed name named

theorem forM {visit : α → Exporter Unit} {list : List α}
    (each : ∀ x ∈ list, (visit x).BlamedOn reason) : (list.forM visit).BlamedOn reason := by
  induction list with
  | nil => exact .pure
  | cons x rest ih =>
    rw [List.forM_eq_forM, List.forM_cons]
    obtain ⟨first, others⟩ := List.forall_mem_cons.mp each
    exact first.bind fun _ => ih others

theorem mapM {become : α → Exporter β} {list : List α}
    (each : ∀ x ∈ list, (become x).BlamedOn reason) : (list.mapM become).BlamedOn reason := by
  induction list with
  | nil => exact .pure
  | cons x rest ih =>
    rw [List.mapM_cons]
    obtain ⟨first, others⟩ := List.forall_mem_cons.mp each
    exact first.bind fun _ => (ih others).bind fun _ => .pure

/-- A class claims the name of its tag, and then the export goes on. -/
theorem claims {tag : Option String} {newName : String} {next : Exporter Unit}
    (rest : next.BlamedOn reason) :
    (match tag with
      | some tag => do
          let isNew ← Exporter.exportOnce tag
          if isNew = true then do
            give tag newName
            next
          else next
      | _ => next : Exporter Unit).BlamedOn reason := by
  cases tag with
  | none => exact rest
  | some tag =>
    refine .bind .exportOnce fun isNew => ?_
    cases isNew with
    | true => exact .bind .modify fun _ => rest
    | false => exact rest

end BlamedOn

end Exporter

namespace Header

variable {header : Header} {given : GivenNames} {decl : Decl}

/-- Parameters can be resolved just when all of them have types. -/
theorem exists_resolveParameters_iff {native : Bool} {decls : List Decl} :
    (∃ parameters, header.resolveParameters given native decls = .ok parameters) ↔
      ∀ decl ∈ decls, decl.type.isSome = true := by
  constructor
  · rintro ⟨parameters, resolved⟩
    exact isSome_of_resolveParameters resolved
  · intro typed
    induction decls with
    | nil => exact ⟨[], rfl⟩
    | cons decl rest ih =>
      obtain ⟨own, others⟩ := List.forall_mem_cons.mp typed
      obtain ⟨type, own⟩ := Option.isSome_iff_exists.mp own
      obtain ⟨parameters, resolved⟩ := ih others
      exact ⟨_, by rw [resolveParameters, own, resolved]; rfl⟩

/-- A function can be bound just when all its arguments have types. -/
theorem exists_bindFunction_iff :
    (∃ binding, header.bindFunction given decl = .ok binding) ↔
      ∀ argument ∈ header.argumentsOf decl, argument.type.isSome = true := by
  constructor
  · rintro ⟨binding, bound⟩
    exact isSome_of_bindFunction bound
  · intro typed
    obtain ⟨native, resolvedNative⟩ := exists_resolveParameters_iff.mpr typed
    obtain ⟨logical, resolvedLogical⟩ := exists_resolveParameters_iff.mpr typed
    exact ⟨_, by
      rw [bindFunction, functionSignature, functionSignature, resolvedNative, resolvedLogical]
      rfl⟩

theorem untyped_of_bindFunction {failure : Failure}
    (failed : header.bindFunction given decl = .error failure) :
    ∃ argument ∈ header.argumentsOf decl, argument.type = none := by
  by_contra noUntyped
  have typed : ∀ argument ∈ header.argumentsOf decl, argument.type.isSome = true := by
    intro argument inside
    refine Option.isSome_iff_ne_none.mpr fun untyped => ?_
    exact noUntyped ⟨argument, inside, untyped⟩
  obtain ⟨binding, bound⟩ := exists_bindFunction_iff.mpr typed
  rw [bound] at failed
  cases failed

end Header

namespace Job

open Exporter

variable (job : Job)

/-- A function lacks its result type, its list of arguments or the type of an argument. -/
def IsMalformedFunction (id : DeclId) : Prop :=
  (job.header.decl id).resultType = none ∨ (job.header.decl id).arguments = none ∨
    ∃ argument ∈ job.header.argumentsOf (job.header.decl id), argument.type = none

/-- A type declaration lacks something: a field its name or type, a constant its name or value, or a
    type definition its underlying type. -/
inductive IsMalformed (id : DeclId) : Prop where
  | field {field : Decl} (kind : (job.header.decl id).kind = .struct)
      (inside : field ∈ job.childrenOfKind .field id)
      (lacks : field.properName? = none ∨ field.type = none) : IsMalformed id
  | constant {constant : Decl} (kind : (job.header.decl id).kind = .enum)
      (inside : constant ∈ job.childrenOfKind .enumConstant id)
      (lacks : constant.properName? = none ∨ constant.value = none) : IsMalformed id
  | definition (kind : (job.header.decl id).kind = .typedef)
      (lacks : (job.header.decl id).underlying = none) : IsMalformed id

/-- A function in scope or a wanted declaration is malformed. -/
def HasMalformed (root : DeclId) : Prop :=
  (∃ id ∈ job.childrenInScope root (· = .function), job.IsMalformedFunction id) ∨
    ∃ id, job.Wanted root id ∧ job.IsMalformed id

/-- All constants of a declaration have a name and a value. -/
def ConstantsFormed (id : DeclId) : Prop :=
  ∀ constant ∈ job.childrenOfKind .enumConstant id,
    constant.properName?.isSome ∧ constant.value.isSome

/-- A member of a set gives a declaration its class, and nothing that belongs into the class lacks
    anything. -/
inductive FormedClass (members : DeclId → Prop) (tag : DeclId) : Prop where
  | struct (gives : job.GivesClass members true tag) (formed : job.FieldsFormed tag) :
      FormedClass members tag
  | enum (gives : job.GivesClass members false tag) (formed : job.ConstantsFormed tag) :
      FormedClass members tag

variable {job} {root : DeclId} {reason : Prop}

/-! ## Failures have a malformed declaration behind them -/

theorem blamed_newName {name : String} : (job.newName name).BlamedOn reason := by
  unfold newName
  split
  · exact .pure
  · rename_i failure fails
    refine .throw fun owner fault same => ?_
    unfold Renaming.apply at fails
    split at fails
    · cases fails
    · cases fails
      cases same

theorem blamed_exportEnum {owner newName : String} {id : DeclId} {comment : Option String}
    (lacks : ∀ constant ∈ job.childrenOfKind .enumConstant id,
      constant.properName? = none ∨ constant.value = none → reason) :
    (job.exportEnum owner newName id comment).BlamedOn reason := by
  refine .bind .modify fun _ => .bind (.liftM fun name fault failed => ?_) fun _ => .modify
  obtain ⟨decl, inside, fails⟩ := Discipline.exists_of_mapM_eq_error failed
  apply lacks decl inside
  unfold constant at fails
  cases named : decl.properName? with
  | none => exact .inl rfl
  | some own =>
    cases valued : decl.value with
    | none => exact .inr rfl
    | some value => simp [named, valued] at fails

theorem blamed_exportField {owner : String} {field : Decl}
    (lacks : field.properName? = none ∨ field.type = none → reason) :
    (job.exportField owner field).BlamedOn reason := by
  unfold exportField
  cases named : field.properName? with
  | none => exact .throw fun _ _ _ => lacks (.inl named)
  | some name =>
    cases own : field.type with
    | none => exact .throw fun _ _ _ => lacks (.inr own)
    | some type => exact .bind .modify fun _ => .bind .get fun _ => .bind .modify fun _ => .pure

section

variable {visit : DeclId → Exporter Unit}
  (visits : ∀ id, job.Wanted root id → (visit id).BlamedOn (job.HasMalformed root))

include visits

theorem blamed_followAll {mentions : List Mention}
    (among : ∀ mention ∈ mentions, job.Wanted root mention.decl) :
    (followAll visit mentions).BlamedOn (job.HasMalformed root) :=
  .forM fun mention inside => .bind .modify fun _ => visits mention.decl (among mention inside)

theorem blamed_exportStruct {name newName : String} {id : DeclId} {comment : Option String}
    (lacks : ∀ field ∈ job.childrenOfKind .field id,
      field.properName? = none ∨ field.type = none → job.HasMalformed root)
    (among : ∀ mention ∈ job.fieldMentions id, job.Wanted root mention.decl) :
    (job.exportStruct visit name newName id comment).BlamedOn (job.HasMalformed root) := by
  refine .bind .modify fun _ => .bind (.forM fun type isType => ?_) fun _ =>
    .bind (.mapM fun field inside => blamed_exportField (lacks field inside)) fun _ => .modify
  exact blamed_followAll visits fun mention inside =>
    among mention (List.mem_flatMap.mpr ⟨type, isType, inside⟩)

variable (tags : job.header.TagsDeclared root) {id : DeclId} (wanted : job.Wanted root id)

include tags wanted

theorem blamed_exportTagTypedef {name newName : String} {underlying : CType} {record : Bool}
    {target : DeclId} (kind : (job.header.decl id).kind = .typedef)
    (names : (job.header.decl id).underlying = some underlying)
    (tagged : tagTarget? underlying = some (record, target)) :
    (job.exportTagTypedef visit name newName (job.header.decl id) record target).BlamedOn
      (job.HasMalformed root) := by
  have wantedTarget : job.Wanted root target := .tag wanted kind names tagged
  have reaches := wanted.declaresType.1.underlying names
  have existing : (job.existingName? target).BlamedOn (job.HasMalformed root) :=
    .bind .get fun _ => .pure
  unfold exportTagTypedef
  refine existing.bind fun found => ?_
  cases found with
  | some existing => exact .bind .modify fun _ => .bind .modify fun _ => .modify
  | none =>
    refine .bind .modify fun _ => .bind .modify fun _ => .claims ?_
    cases record with
    | true =>
      have among := ((closedUnderExport_wanted tags).tagged wanted kind names tagged).2 rfl
      refine .bind .modify fun _ => blamed_exportStruct visits (fun field inside lacks => ?_) among
      rcases tags.target_struct reaches tagged rfl with isStruct | childless
      · exact .inr ⟨target, wantedTarget, .field isStruct inside lacks⟩
      · simp [childrenOfKind, childless] at inside
    | false =>
      refine .bind .modify fun _ => blamed_exportEnum fun constant inside lacks => ?_
      obtain ⟨isEnum, declared⟩ := Header.tagTarget?_eq_some tagged
      exact .inr ⟨target, wantedTarget,
        .constant (tags.enum reaches.canonical isEnum declared) inside lacks⟩

omit tags in
theorem blamed_exportTypedefOther {name newName : String} {underlying : CType}
    (kind : (job.header.decl id).kind = .typedef)
    (names : (job.header.decl id).underlying = some underlying)
    (untagged : tagTarget? underlying = none) :
    (match callbackPrototype? underlying with
      | some prototype =>
          job.exportCallbackTypedef visit name newName (job.header.decl id) prototype
      | none => job.exportPlainTypedef visit name newName underlying).BlamedOn
        (job.HasMalformed root) := by
  cases calls : callbackPrototype? underlying with
  | some prototype =>
    have isFunction := (isFunction_of_callbackPrototype? calls).1
    refine .bind .modify fun _ => .bind (blamed_followAll visits fun mention inside => ?_) fun _ =>
      .bind .get fun _ => .bind .modify fun _ => .bind .modify fun _ => .modify
    exact .prototype wanted kind names calls
      ((Header.needs_prototype_iff isFunction).mpr ⟨mention, inside, rfl⟩)
  | none =>
    refine .bind (blamed_followAll visits fun mention inside => ?_) fun _ => ?_
    · exact .underlying wanted kind names untagged calls
        (Header.needs_iff.mpr ⟨mention, inside, rfl⟩)
    · dsimp only
      split <;> exact .modify

theorem blamed_exportTypedef {name newName : String}
    (kind : (job.header.decl id).kind = .typedef) :
    (job.exportTypedef visit name newName id).BlamedOn (job.HasMalformed root) := by
  unfold exportTypedef
  cases names : (job.header.decl id).underlying with
  | none =>
    simp only [names]
    exact .throw fun _ _ _ => .inr ⟨id, wanted, .definition kind names⟩
  | some underlying =>
    simp only [names]
    cases tagged : tagTarget? underlying with
    | some found => exact blamed_exportTagTypedef visits tags wanted kind names tagged
    | none => exact blamed_exportTypedefOther visits wanted kind names tagged

theorem blamed_exportNew {name : String} :
    (job.exportNew visit name id).BlamedOn (job.HasMalformed root) := by
  refine .bind blamed_newName fun newName => ?_
  dsimp only
  split
  case h_1 kind =>
    refine .bind .modify fun _ => .bind .modify fun _ => blamed_exportEnum ?_
    exact fun constant inside lacks => .inr ⟨id, wanted, .constant kind inside lacks⟩
  case h_2 kind =>
    refine .bind .modify fun _ => .bind .modify fun _ => blamed_exportStruct visits ?_
      (wanted.fieldMention kind)
    exact fun field inside lacks => .inr ⟨id, wanted, .field kind inside lacks⟩
  case h_3 kind => exact blamed_exportTypedef visits tags wanted kind
  case h_4 => exact .modify

end

section

variable (tags : job.header.TagsDeclared root)

include tags

theorem blamed_exportWithin (budget : Nat) (id : DeclId) (wanted : job.Wanted root id) :
    (job.exportWithin budget id).BlamedOn (job.HasMalformed root) := by
  induction budget generalizing id with
  | zero =>
    rw [exportWithin_zero]
    refine .ifNamed fun name _ => .bind .exportOnce fun isNew => ?_
    cases isNew with
    | true => exact .throw fun _ _ same => by cases same
    | false => exact .pure
  | succ budget ih =>
    rw [exportWithin_succ]
    refine .ifNamed fun name _ => .bind .exportOnce fun isNew => ?_
    cases isNew with
    | true => exact blamed_exportNew ih tags wanted
    | false => exact .pure

theorem blamed_exportDecl (id : DeclId) (wanted : job.Wanted root id) :
    (job.exportDecl id).BlamedOn (job.HasMalformed root) :=
  blamed_exportWithin tags job.nestingBudget id wanted

theorem blamed_bindArguments {function : DeclId} {name newName : String} {unnamed : Nat}
    {arguments : List Decl} (inside : function ∈ job.childrenInScope root (· = .function))
    (takes : ∀ argument ∈ arguments,
      argument ∈ job.header.argumentsOf (job.header.decl function)) :
    (job.bindArguments job.exportDecl name newName unnamed arguments).BlamedOn
      (job.HasMalformed root) := by
  induction arguments generalizing unnamed with
  | nil => exact .pure
  | cons argument rest ih =>
    obtain ⟨takesFirst, takesRest⟩ := List.forall_mem_cons.mp takes
    rw [bindArguments]
    cases own : argument.type with
    | none =>
      exact .throw fun _ _ _ => .inl ⟨function, inside, .inr (.inr ⟨argument, takesFirst, own⟩)⟩
    | some type =>
      cases calls : type.functionPointee? with
      | some prototype =>
        simp only [calls]
        refine .bind (blamed_followAll (blamed_exportDecl tags) fun mention isMention => ?_)
          fun _ => .bind .get fun _ => .bind .modify fun _ => .bind .modify fun _ => ih takesRest
        exact .callback inside takesFirst own calls
          ((Header.needs_prototype_iff (isFunction_of_functionPointee? calls)).mpr
            ⟨mention, isMention, rfl⟩)
      | none =>
        simp only [calls]
        refine .bind (blamed_followAll (blamed_exportDecl tags) fun mention isMention => ?_)
          fun _ => ih takesRest
        exact .argument inside takesFirst own calls
          (Header.needs_iff.mpr ⟨mention, isMention, rfl⟩)

theorem blamed_bindFunction {function : DeclId}
    (inside : function ∈ job.childrenInScope root (· = .function)) :
    (job.bindFunction (job.header.decl function)).BlamedOn (job.HasMalformed root) := by
  have blames : job.IsMalformedFunction function → job.HasMalformed root :=
    fun malformed => .inl ⟨function, inside, malformed⟩
  refine .bind .modify fun _ => ?_
  cases result : (job.header.decl function).resultType with
  | none => exact .throw fun _ _ _ => blames (.inl result)
  | some type =>
    cases parameters : (job.header.decl function).arguments with
    | none => exact .throw fun _ _ _ => blames (.inr (.inl parameters))
    | some arguments =>
      have isArgument : ∀ argument ∈ arguments.map job.header.decl,
          argument ∈ job.header.argumentsOf (job.header.decl function) := by
        intro argument among
        rw [Header.argumentsOf, parameters, Option.getD_some]
        exact among
      refine .ifNamed fun name _ => .bind .bindOnce fun isNew => ?_
      cases isNew with
      | false => exact .modify
      | true =>
        refine .bind blamed_newName fun newName =>
          .bind (blamed_followAll (blamed_exportDecl tags) fun mention isMention => ?_) fun _ =>
            .bind (blamed_bindArguments tags inside isArgument) fun _ => .bind .get fun _ =>
              .bind .modify fun _ => .bind (.liftM fun _ _ failed => ?_) fun _ => .modify
        · exact .result inside result (Header.needs_iff.mpr ⟨mention, isMention, rfl⟩)
        · exact blames (.inr (.inr (Header.untyped_of_bindFunction failed)))

/-- An export that fails on a malformed declaration comes to one that is bound or wanted. -/
theorem blamed_exportHeader {className : String} :
    (job.exportHeader className root).BlamedOn (job.HasMalformed root) :=
  .bind .modify fun _ => .bind .modify fun _ =>
    .bind (.forM fun _ inside => blamed_bindFunction tags inside) fun _ =>
      .bind (.forM fun id inside => blamed_exportDecl tags id (.child inside)) fun _ =>
        .bind .get fun _ => .modify

end

/-! ## A successful run came to no malformed declaration -/

section

variable {members : DeclId → Prop} {s s' : Progress} {id : DeclId}

theorem constantsFormed_of_lines {owner : String} {decls : List Decl} {lines : List Chunk}
    (become : List.Forall₂ (IsConstantLine owner) decls lines) :
    ∀ decl ∈ decls, decl.properName?.isSome ∧ decl.value.isSome := by
  induction become with
  | nil => simp
  | cons isLine _ ih =>
    obtain ⟨name, value, named, valued, -⟩ := isLine
    exact List.forall_mem_cons.mpr ⟨⟨by simp [named], by simp [valued]⟩, ih⟩

/-- Every class that an export records is that of a declaration which lacks nothing. -/
theorem Exports.formedClass (closed : job.ClosedUnderExport members) {task : Task}
    (exports : job.Exports task s s') : task.Among members →
      ∀ tag className, s'.classes.find? tag = some className →
        s.classes.find? tag = some className ∨ job.FormedClass members tag := by
  induction exports with
  | done | known | other | otherName => exact fun _ _ _ => .inl
  | next named first others ihFirst ihOthers =>
    intro among tag className classed
    rcases ihOthers (fun _ inside => among _ (List.mem_cons_of_mem _ inside)) tag className classed
      with before | formed
    · exact ihFirst (among _ List.mem_cons_self) tag className before
    · exact .inr formed
  | enumClass opens record exported =>
    intro among tag className classed
    rcases opens.find?_classes classed with before | ⟨rfl, -⟩
    · exact .inl before
    · have gives := opens.givesClass among
      rw [record] at gives
      exact .inr (.enum gives (constantsFormed_of_lines (constantLines_of_mapM exported)))
  | structClass opens record inside exported ih =>
    intro among tag className classed
    rcases ih (opens.among_fields closed among record) tag className classed with before | formed
    · rcases opens.find?_classes before with before | ⟨rfl, -⟩
      · exact .inl before
      · have gives := opens.givesClass among
        rw [record] at gives
        exact .inr (.struct gives (exists_fields_iff.mp ⟨_, exported⟩))
    · exact .inr formed
  | callback named fresh renamed kind names untagged calls inside ih =>
    exact fun among => ih (closed.callback among kind names untagged calls)
  | plain named fresh renamed kind names untagged uncalled inside quiet ih =>
    exact fun among => ih (closed.uncalled among kind names untagged uncalled)

theorem Performs.formedClass (closed : job.ClosedUnderExport members) {tasks : List Task}
    (performs : job.Performs tasks s s') (among : ∀ task ∈ tasks, task.Among members) :
    ∀ tag className, s'.classes.find? tag = some className →
      s.classes.find? tag = some className ∨ job.FormedClass members tag := by
  induction performs with
  | nil => exact fun _ _ => .inl
  | between same _ ih =>
    rw [← same.classes]
    exact ih among
  | task first _ ih =>
    obtain ⟨amongFirst, amongRest⟩ := List.forall_mem_cons.mp among
    intro tag className classed
    rcases ih amongRest tag className classed with before | formed
    · exact first.formedClass closed amongFirst tag className before
    · exact .inr formed

/-- After a successful run every class is that of a declaration which lacks nothing. -/
theorem formedClass_of_exportHeader (tags : job.header.TagsDeclared root) {className : String}
    (run : (job.exportHeader className root).Succeeds {} () s) {newName : String}
    (classed : s.classes.find? id = some newName) : job.FormedClass (job.Wanted root) id := by
  obtain ⟨s₁, performs, rfl⟩ := performs_of_exportHeader run
  rcases performs.formedClass (closedUnderExport_wanted tags) headerTasks_among id newName classed
    with before | formed
  · cases before
  · exact formed

theorem WasExported.underlying (was : job.WasExported members s id)
    (kind : (job.header.decl id).kind = .typedef) :
    ∃ underlying, (job.header.decl id).underlying = some underlying := by
  obtain ⟨member, named, fresh, marked, exports, continues⟩ := was
  cases exports with
  | known own known =>
    rw [named] at own
    cases own
    exact absurd known fresh
  | other own _ _ isOther =>
    rw [kind] at isOther
    cases isOther
  | enumClass opens record | structClass opens record =>
    cases opens with
    | tag _ _ _ isTag => exact absurd (kind.symm.trans isTag) (by split <;> simp)
    | typedef _ _ _ _ names => exact ⟨_, names⟩
  | otherName _ _ _ _ names | callback _ _ _ _ names | plain _ _ _ _ names => exact ⟨_, names⟩

section

variable (tags : job.header.TagsDeclared root)

include tags

/-- What is given the class of a structure is one, or has nothing to lack; what is given that of an
    enumeration is one. -/
theorem GivesClass.kind {record : Bool} (gives : job.GivesClass (job.Wanted root) record id) :
    ((job.header.decl id).kind = if record then .struct else .enum) ∨
      record = true ∧ job.header.childrenOf id = [] ∧ (job.header.decl id).kind ≠ .typedef := by
  rcases gives with ⟨-, kind⟩ | ⟨definition, underlying, wanted, -, names, tagged⟩
  · exact .inl kind
  · have reaches := wanted.declaresType.1.underlying names
    cases record with
    | true =>
      rcases tags.target_struct reaches tagged rfl with isStruct | childless
      · exact .inl isStruct
      · exact .inr ⟨rfl, childless, tags.target_kind reaches tagged⟩
    | false =>
      obtain ⟨isEnum, declared⟩ := Header.tagTarget?_eq_some tagged
      exact .inl (tags.enum reaches.canonical isEnum declared)

theorem FormedClass.not_isMalformed (formed : job.FormedClass (job.Wanted root) id) :
    ¬ job.IsMalformed id := by
  intro malformed
  cases formed with
  | struct gives formed =>
    rcases gives.kind tags with kind | ⟨-, childless, noTypedef⟩
    · cases malformed with
      | field _ inside lacks =>
        obtain ⟨named, typed⟩ := formed _ inside
        rcases lacks with missing | missing
        · simp [missing] at named
        · simp [missing] at typed
      | constant isEnum => exact absurd (isEnum.symm.trans kind) (by simp)
      | definition isTypedef => exact absurd (isTypedef.symm.trans kind) (by simp)
    · cases malformed with
      | field _ inside | constant _ inside => simp [childrenOfKind, childless] at inside
      | definition isTypedef => exact noTypedef isTypedef
  | enum gives formed =>
    rcases gives.kind tags with kind | ⟨isRecord, -⟩
    · cases malformed with
      | field isStruct => exact absurd (isStruct.symm.trans kind) (by simp)
      | constant _ inside lacks =>
        obtain ⟨named, valued⟩ := formed _ inside
        rcases lacks with missing | missing
        · simp [missing] at named
        · simp [missing] at valued
      | definition isTypedef => exact absurd (isTypedef.symm.trans kind) (by simp)
    · cases isRecord

end

/-- With different names, every function in scope is bound. -/
theorem exists_binding_of_exportHeader (distinct : job.DistinctFunctions root) {className : String}
    (run : (job.exportHeader className root).Succeeds {} () s)
    (inside : id ∈ job.childrenInScope root (· = .function)) :
    ∃ given binding, job.header.bindFunction given (job.header.decl id) = .ok binding := by
  obtain ⟨s₁, admitted, takes, -⟩ := takes_of_exportHeader run
  obtain ⟨members, -, decls, bindings⟩ := takes.calls
  rw [filterMap_call?_headerActions] at decls
  have isName : (job.header.decl id).name.getD "" ∈
      (job.boundFunctions root).map fun id => (job.header.decl id).name.getD "" := by
    rw [map_name_boundFunctions, List.mem_eraseDups, functionNames_eq]
    exact List.mem_map_of_mem inside
  obtain ⟨other, isBound, same⟩ := List.mem_map.mp isName
  have insideOther := List.mem_of_find?_eq_some (find?_boundFunctions isBound)
  have isOther : other = id := by
    refine distinct other insideOther id inside ?_
    rw [name_of_mem_childrenInScope insideOther, name_of_mem_childrenInScope inside, same]
  rw [← decls, isOther] at isBound
  obtain ⟨member, isMember, rfl⟩ := List.mem_map.mp isBound
  obtain ⟨given, bound⟩ := (bindings member isMember).binding
  exact ⟨given, member.binding, bound⟩

theorem not_hasMalformed_of_succeeds (unambiguous : job.header.Unambiguous root)
    (tags : job.header.TagsDeclared root) (distinct : job.DistinctFunctions root)
    {className : String} (run : (job.exportHeader className root).Succeeds {} () s) :
    ¬ job.HasMalformed root := by
  rintro (⟨function, inside, malformed⟩ | ⟨id, wanted, malformed⟩)
  · have isBound := (exhausted_of_exportHeader run).1.functions function inside
    obtain ⟨given, binding, bound⟩ := exists_binding_of_exportHeader distinct run inside
    rcases malformed with noResult | noArguments | ⟨argument, takes, untyped⟩
    · simpa [noResult] using isBound.result
    · simpa [noArguments] using isBound.arguments
    · simpa [untyped] using Header.exists_bindFunction_iff.mp ⟨binding, bound⟩ argument takes
  · obtain ⟨origins, asked, -⟩ :=
      originates_of_exportHeader (closedUnderExport_wanted tags) (fun _ wanted => wanted) run
    have kept := wanted.kept origins tags unambiguous distinct asked
    have unclassed : ∀ className, s.classes.find? id ≠ some className := fun _ classed =>
      (formedClass_of_exportHeader tags run classed).not_isMalformed tags malformed
    cases malformed with
    | field kind =>
      obtain ⟨className, classed⟩ :=
        origins.classed_of_kept tags unambiguous wanted (.inl kind) kept
      exact unclassed className classed
    | constant kind =>
      obtain ⟨className, classed⟩ :=
        origins.classed_of_kept tags unambiguous wanted (.inr kind) kept
      exact unclassed className classed
    | definition kind lacks =>
      rcases origins.exported_of_kept tags unambiguous wanted kind kept with
        was | ⟨target, ofId, -⟩
      · obtain ⟨underlying, names⟩ := was.underlying kind
        rw [lacks] at names
        cases names
      · obtain ⟨-, underlying, _, names, -⟩ := Header.exists_of_typedefTarget? ofId
        rw [lacks] at names
        cases names

end

/-- A template that can be read leaves malformed declarations as the only cause of failure. -/
theorem exists_malformed_of_error {className : String} {failure : Failure} {s : Progress}
    {pieces : List Template.Piece}
    (expands : Template.pieces job.names.pattern job.names.template.toList = .ok pieces)
    (failed : ((job.exportHeader className root).outcome s).1 = .error failure) :
    ∃ name fault, failure = .malformed name fault := by
  cases cause_of_exportHeader failed with
  | template fails =>
    rw [expands] at fails
    cases fails
  | _ => exact ⟨_, _, rfl⟩

end Job

/-!
A type definition of a callback, the only declaration in scope. Its prototype takes a structure that
has a field without a type.
-/

namespace HiddenField

def void : CType := { kind := .scalar .void, spelling := "void" }

def record : CType := { kind := .record, spelling := "struct A", declaration := some 2 }

def pointerA : CType := { kind := .pointer, spelling := "struct A *", pointee := some record }

def prototype : CType :=
  { kind := .function, spelling := "void (struct A *)", result := some void,
    arguments := [pointerA] }

def pointer : CType :=
  { kind := .pointer, spelling := "void (*)(struct A *)", pointee := some prototype }

def types : List CType :=
  [void, record, pointerA, prototype, pointer]

def job : Job :=
  ⟨⟨#[{ kind := .unit, children := [1] },
    { kind := .typedef, name := some "Cb", underlying := some pointer },
    { kind := .struct, name := some "A", children := [3] },
    { kind := .field, name := some "x" }]⟩, .prefixing⟩

theorem reaches_among {node : Node} (reaches : job.header.Reaches 0 node) :
    node.Among [0, 1, 2, 3] types := by
  have declLinks : [0, 1, 2, 3].map (fun id => job.header.links (.decl id)) =
      [[.decl 1], [.type pointer], [.decl 3], []] := rfl
  have typeLinks : types.map (fun type => job.header.links (.type type)) =
      [[], [.decl 2], [.type record], [.type void, .type pointerA], [.type prototype]] := rfl
  exact reaches.among_of_links declLinks typeLinks (by decide) (by simp [Node.Among, types])

theorem tagsDeclared : job.header.TagsDeclared 0 where
  record type id reaches kind declared := by
    have among : type ∈ types := reaches_among reaches
    simp only [types, List.mem_cons, List.not_mem_nil, or_false] at among
    rcases among with rfl | rfl | rfl | rfl | rfl
    all_goals first | exact absurd kind (by decide) | (cases declared; exact .inl rfl)
  enum type id reaches kind declared := by
    have among : type ∈ types := reaches_among reaches
    simp only [types, List.mem_cons, List.not_mem_nil, or_false] at among
    rcases among with rfl | rfl | rfl | rfl | rfl
    all_goals exact absurd kind (by decide)

theorem distinctFunctions : job.DistinctFunctions 0 := by
  have functions : job.childrenInScope 0 (· = .function) = [] := by cbv
  intro function inside
  rw [functions] at inside
  cases inside

theorem hasMalformed : job.HasMalformed 0 := by
  have callback : job.Wanted 0 1 := .child (by decide +kernel)
  have needsRecord : job.header.Needs record 2 := .declared (by decide) rfl rfl rfl
  have needsPointer : job.header.Needs pointerA 2 := .pointer rfl rfl needsRecord
  have needs : job.header.Needs prototype 2 := .argument rfl (by simp [prototype]) needsPointer
  have inside : job.header.decl 3 ∈ job.childrenOfKind .field 2 := by
    simp [Job.childrenOfKind, Header.childrenOf, Header.decl, job]
  exact .inr ⟨2, .prototype callback rfl rfl rfl needs, .field rfl inside (.inr rfl)⟩

end HiddenField

/-!
A structure type that is declared by a type definition without an underlying type. The type
definition of the structure type claims the name of the other, and so keeps it from being exported.
-/

namespace OpenDefinition

def record : CType := { kind := .record, spelling := "n", declaration := some 2 }

def job : Job :=
  ⟨⟨#[{ kind := .unit, children := [1] },
    { kind := .typedef, name := some "T", underlying := some record },
    { kind := .typedef, name := some "n" }]⟩, .prefixing⟩

theorem reaches_among {node : Node} (reaches : job.header.Reaches 0 node) :
    node.Among [0, 1, 2] [record] := by
  have declLinks : [0, 1, 2].map (fun id => job.header.links (.decl id)) =
      [[.decl 1], [.type record], []] := rfl
  have typeLinks : [record].map (fun type => job.header.links (.type type)) = [[.decl 2]] := rfl
  exact reaches.among_of_links declLinks typeLinks (by decide) (by simp [Node.Among])

end OpenDefinition

end HeaderBindings
