import HeaderBindings.Proofs.Export.Nesting
import HeaderBindings.Proofs.Export.Run

/-!
# Classes of structures

Which declarations get a class of a structure. A declaration that is exported itself gets one only
if it is a structure. A type definition goes by the kind of its canonical type, and gives one to
whatever declares that; so classes belong to structures just when all type definitions of structure
types do name structures.
-/

namespace HeaderBindings

namespace Exporter

variable {α β : Type} {allowed : Item → Prop}

/-- Whenever a part of an export succeeds, the items that it appends are allowed. -/
def Adds (allowed : Item → Prop) (part : Exporter α) : Prop :=
  ∀ ⦃s s' : Progress⦄ ⦃value : α⦄, part.Succeeds s value s' →
    ∃ items, s'.items = s.items ++ items ∧ ∀ item ∈ items, allowed item

namespace Adds

theorem of_same {part : Exporter α}
    (same : ∀ {s s' : Progress} {value : α}, part.Succeeds s value s' → s'.items = s.items) :
    part.Adds allowed :=
  fun _ _ _ run => ⟨[], by rw [same run, List.append_nil], nofun⟩

theorem bind {part : Exporter α} {next : α → Exporter β} (first : part.Adds allowed)
    (later : ∀ {s s' : Progress} {value : α}, part.Succeeds s value s' →
      (next value).Adds allowed) : (part >>= next).Adds allowed := by
  intro s s' result run
  obtain ⟨value, middle, before, after⟩ := succeeds_bind.mp run
  obtain ⟨items, grows, inside⟩ := first before
  obtain ⟨others, growsAgain, insideOthers⟩ := later before after
  refine ⟨items ++ others, by rw [growsAgain, grows, List.append_assoc], ?_⟩
  intro item among
  rcases List.mem_append.mp among with among | among
  · exact inside item among
  · exact insideOthers item among

/-- What a part of an export that succeeds appends is allowed. -/
theorem items {part : Exporter α} {s s' : Progress} {value : α} (run : part.Succeeds s value s')
    (adds : part.Adds allowed) : ∃ items, s'.items = s.items ++ items ∧ ∀ item ∈ items, allowed item :=
  adds run

theorem throw {failure : Failure} : (throw failure : Exporter α).Adds allowed :=
  fun _ _ _ run => absurd run not_succeeds_throw

theorem pure {value : α} : (pure value : Exporter α).Adds allowed :=
  .of_same fun run => by rw [(succeeds_pure.mp run).2]

theorem get : (get : Exporter Progress).Adds allowed :=
  .of_same fun run => by rw [(succeeds_get.mp run).2]

theorem liftM {result : Except Failure α} : (liftM result : Exporter α).Adds allowed :=
  .of_same fun run => by rw [(succeeds_liftM.mp run).2]

/-- Reports and records of any kind append no item. -/
theorem modify {change : Progress → Progress} (keeps : ∀ s, (change s).items = s.items) :
    (modify change : Exporter Unit).Adds allowed :=
  .of_same fun run => by rw [succeeds_modify.mp run, keeps]

theorem emit {item : Item} (isAllowed : allowed item) : (emit item).Adds allowed := by
  intro s s' value run
  rw [emit_succeeds] at run
  exact ⟨[item], by rw [run]; rfl, by simpa using isAllowed⟩

theorem exportOnce {name : String} : (exportOnce name).Adds allowed := by
  refine .of_same fun run => ?_
  rw [exportOnce_succeeds] at run
  split at run <;> rw [run.2]
  rfl

theorem bindOnce {name : String} : (bindOnce name).Adds allowed := by
  refine .of_same fun run => ?_
  rw [bindOnce_succeeds] at run
  split at run <;> rw [run.2]

theorem ifNamed {decl : Decl} {part : String → Exporter Unit}
    (adds : ∀ name, decl.name = some name → (part name).Adds allowed) :
    (Job.ifNamed decl part).Adds allowed := by
  cases named : decl.name with
  | none =>
    rw [Job.ifNamed_of_nameless named]
    exact .pure
  | some name =>
    rw [Job.ifNamed_of_name named]
    exact adds name named

theorem forM {visit : α → Exporter Unit} {list : List α}
    (each : ∀ x ∈ list, (visit x).Adds allowed) : (list.forM visit).Adds allowed := by
  induction list with
  | nil => exact .of_same fun run => by rw [succeeds_forM_nil.mp run]
  | cons x rest ih =>
    rw [List.forM_eq_forM, List.forM_cons]
    obtain ⟨first, others⟩ := List.forall_mem_cons.mp each
    exact first.bind fun _ => ih others

end Adds

end Exporter

namespace Job

open Exporter

variable (job : Job)

/-- A class of a structure is for a structure. -/
def OfStruct : Item → Prop
  | .structClass id _ _ _ => (job.header.decl id).kind = .struct
  | _ => True

/-- All fields of a declaration have a name and a type. -/
def FieldsFormed (id : DeclId) : Prop :=
  ∀ field ∈ job.childrenOfKind .field id, field.properName?.isSome ∧ field.type.isSome

/-- The name of a declaration, if it has one, is marked. -/
def IsKnown (s : Progress) (id : DeclId) : Prop :=
  ∀ name, (job.header.decl id).name = some name → name ∈ s.exported

/-- A type definition of a structure type, with a name that can be rewritten and with well-formed
    fields behind it, names a structure. -/
def DefinesStructs : Prop :=
  ∀ ⦃id target : DeclId⦄ ⦃underlying : CType⦄ ⦃name newName : String⦄,
    (job.header.decl id).kind = .typedef → (job.header.decl id).underlying = some underlying →
      tagTarget? underlying = some (true, target) → (job.header.decl id).name = some name →
        job.names.apply name = .ok newName → job.FieldsFormed target →
          (job.header.decl target).kind = .struct

variable {job}

theorem exists_fields_iff {given : GivenNames} {decls : List Decl} :
    (∃ fields, List.Forall₂ (job.BecomesField given) decls fields) ↔
      ∀ decl ∈ decls, decl.properName?.isSome ∧ decl.type.isSome := by
  induction decls with
  | nil => simp
  | cons decl rest ih =>
    rw [List.forall_mem_cons, ← ih]
    constructor
    · rintro ⟨fields, become⟩
      cases become with
      | cons becomes become =>
        obtain ⟨name, type, named, typed, -⟩ := becomes
        exact ⟨by simp [named, typed], _, become⟩
    · rintro ⟨⟨named, typed⟩, fields, become⟩
      obtain ⟨name, named⟩ := Option.isSome_iff_exists.mp named
      obtain ⟨type, typed⟩ := Option.isSome_iff_exists.mp typed
      exact ⟨_, .cons ⟨name, type, named, typed, rfl⟩ become⟩

theorem adds_exportEnum {owner newName : String} {id : DeclId} {comment : Option String} :
    (job.exportEnum owner newName id comment).Adds job.OfStruct :=
  .bind (.modify fun _ => rfl) fun _ => .bind .liftM fun _ => .emit trivial

theorem adds_newName {name : String} : (job.newName name).Adds job.OfStruct :=
  .of_same fun run => by rw [(newName_succeeds.mp run).2]

section

variable {visit : DeclId → Exporter Unit} (adds : ∀ id, (visit id).Adds job.OfStruct)

include adds

theorem adds_followAll {mentions : List Mention} :
    (followAll visit mentions).Adds job.OfStruct :=
  .forM fun _ _ => .bind (.modify fun _ => rfl) fun _ => adds _

theorem adds_exportStruct {name newName : String} {id : DeclId} {comment : Option String}
    (isStruct : job.FieldsFormed id → (job.header.decl id).kind = .struct) :
    (job.exportStruct visit name newName id comment).Adds job.OfStruct := by
  intro s s' value run
  rw [exportStruct_succeeds] at run
  obtain ⟨s₁, fields, inside, become, rfl⟩ := run
  obtain ⟨items, grows, allowed⟩ := adds_followAll adds inside
  refine ⟨items ++ [_], (congrArg (· ++ _) grows).trans (List.append_assoc ..), ?_⟩
  intro item among
  rcases List.mem_append.mp among with before | last
  · exact allowed item before
  · rw [List.mem_singleton.mp last]
    exact isStruct (exists_fields_iff.mp ⟨fields, become⟩)

theorem adds_exportTagTypedef {name newName : String} {decl : Decl} {record : Bool}
    {target : DeclId}
    (isStruct : record = true → job.FieldsFormed target →
      (job.header.decl target).kind = .struct) :
    (job.exportTagTypedef visit name newName decl record target).Adds job.OfStruct := by
  unfold exportTagTypedef
  refine .bind (.of_same fun run => by rw [(existingName?_succeeds.mp run).2]) fun {_ _ found} _ => ?_
  cases found with
  | some existing =>
    exact .bind (.modify fun _ => rfl) fun _ => .bind (.modify fun _ => rfl) fun _ => .emit trivial
  | none =>
    refine .bind (.modify fun _ => rfl) fun _ => .bind (.modify fun _ => rfl) fun _ => ?_
    intro s s' value run
    have begun := claims run
    have written : ∃ items,
        s'.items = (s.claimed (job.header.decl target).properName? newName).items ++ items ∧
          ∀ item ∈ items, job.OfStruct item := by
      cases record with
      | true =>
        rw [if_pos rfl] at begun
        exact Adds.items begun
          (.bind (.modify fun _ => rfl) fun _ => adds_exportStruct adds (isStruct rfl))
      | false =>
        rw [if_neg (by decide)] at begun
        exact Adds.items begun (.bind (.modify fun _ => rfl) fun _ => adds_exportEnum)
    rwa [Progress.items_claimed] at written

theorem adds_exportCallbackTypedef {name newName : String} {decl : Decl} {prototype : CType} :
    (job.exportCallbackTypedef visit name newName decl prototype).Adds job.OfStruct :=
  .bind (.modify fun _ => rfl) fun _ => .bind (adds_followAll adds) fun _ => .bind .get fun _ =>
    .bind (.modify fun _ => rfl) fun _ => .bind (.emit trivial) fun _ => .modify fun _ => rfl

theorem adds_exportPlainTypedef {name newName : String} {underlying : CType} :
    (job.exportPlainTypedef visit name newName underlying).Adds job.OfStruct := by
  refine .bind (adds_followAll adds) fun _ => ?_
  dsimp only
  split
  · exact .modify fun _ => rfl
  · exact .modify fun _ => rfl

theorem adds_exportTypedef (defines : job.DefinesStructs) {name newName : String} {id : DeclId}
    (kind : (job.header.decl id).kind = .typedef) (named : (job.header.decl id).name = some name)
    (renamed : job.names.apply name = .ok newName) :
    (job.exportTypedef visit name newName id).Adds job.OfStruct := by
  unfold exportTypedef
  dsimp only
  split
  case h_1 => exact .throw
  case h_2 underlying names =>
    split
    case h_1 record target tagged =>
      refine adds_exportTagTypedef adds ?_
      rintro rfl formed
      exact defines kind names tagged named renamed formed
    case h_2 =>
      split
      · exact adds_exportCallbackTypedef adds
      · exact adds_exportPlainTypedef adds

theorem adds_exportNew (defines : job.DefinesStructs) {name : String} {id : DeclId}
    (named : (job.header.decl id).name = some name) :
    (job.exportNew visit name id).Adds job.OfStruct := by
  refine .bind adds_newName fun run => ?_
  have renamed := (newName_succeeds.mp run).1
  dsimp only
  split
  case h_1 =>
    exact .bind (.modify fun _ => rfl) fun _ => .bind (.modify fun _ => rfl) fun _ =>
      adds_exportEnum
  case h_2 kind =>
    exact .bind (.modify fun _ => rfl) fun _ => .bind (.modify fun _ => rfl) fun _ =>
      adds_exportStruct adds fun _ => kind
  case h_3 kind => exact adds_exportTypedef adds defines kind named renamed
  case h_4 => exact .modify fun _ => rfl

end

section

variable (defines : job.DefinesStructs)

include defines

theorem adds_exportWithin (budget : Nat) (id : DeclId) :
    (job.exportWithin budget id).Adds job.OfStruct := by
  induction budget generalizing id with
  | zero =>
    rw [exportWithin_zero]
    refine .ifNamed fun name _ => .bind .exportOnce fun {_ _ isNew} _ => ?_
    cases isNew with
    | true => exact .throw
    | false => exact .pure
  | succ budget ih =>
    rw [exportWithin_succ]
    refine .ifNamed fun name named => .bind .exportOnce fun {_ _ isNew} _ => ?_
    cases isNew with
    | true => exact adds_exportNew ih defines named
    | false => exact .pure

theorem adds_exportDecl (id : DeclId) : (job.exportDecl id).Adds job.OfStruct :=
  adds_exportWithin defines job.nestingBudget id

theorem adds_bindArguments {name newName : String} {unnamed : Nat} {arguments : List Decl} :
    (job.bindArguments job.exportDecl name newName unnamed arguments).Adds job.OfStruct := by
  induction arguments generalizing unnamed with
  | nil => exact .pure
  | cons argument rest ih =>
    rw [bindArguments]
    split
    · exact .throw
    · split
      · exact .bind (adds_followAll (adds_exportDecl defines)) fun _ => .bind .get fun _ =>
          .bind (.modify fun _ => rfl) fun _ => .bind (.modify fun _ => rfl) fun _ => ih
      · exact .bind (adds_followAll (adds_exportDecl defines)) fun _ => ih

theorem adds_bindFunction (decl : Decl) : (job.bindFunction decl).Adds job.OfStruct := by
  refine .bind (.modify fun _ => rfl) fun _ => ?_
  dsimp only
  split
  · exact .throw
  · exact .throw
  · refine .ifNamed fun name _ => .bind .bindOnce fun {_ _ isNew} _ => ?_
    cases isNew with
    | false => exact .modify fun _ => rfl
    | true =>
      exact .bind adds_newName fun _ => .bind (adds_followAll (adds_exportDecl defines)) fun _ =>
        .bind (adds_bindArguments defines) fun _ => .bind .get fun _ =>
          .bind (.modify fun _ => rfl) fun _ => .bind .liftM fun _ => .modify fun _ => rfl

theorem adds_exportHeader (className : String) (root : DeclId) :
    (job.exportHeader className root).Adds job.OfStruct :=
  .bind (.emit trivial) fun _ => .bind (.emit trivial) fun _ =>
    .bind (.forM fun _ _ => adds_bindFunction defines _) fun _ =>
      .bind (.forM fun _ _ => adds_exportDecl defines _) fun _ =>
        .bind .get fun _ => .emit trivial

theorem adds_perform (request : Request) : (job.perform request).Adds job.OfStruct := by
  cases request with
  | header className root => exact adds_exportHeader defines className root
  | function id => exact adds_bindFunction defines (job.header.decl id)
  | type => exact adds_followAll (adds_exportDecl defines)
  | prototype => exact adds_followAll (adds_exportDecl defines)
  | declaration id => exact adds_exportDecl defines id

end

theorem IsKnown.exportWithin {budget : Nat} {id : DeclId} {s : Progress}
    (known : job.IsKnown s id) : (job.exportWithin budget id).Succeeds s () s := by
  cases named : (job.header.decl id).name with
  | none => cases budget <;> simp [Job.exportWithin, ifNamed_of_nameless named]
  | some name =>
    have marked := known name named
    cases budget <;>
      simp [Job.exportWithin, ifNamed_of_name named, succeeds_bind, exportOnce_succeeds, marked]

/-- An export that meets known names only succeeds, and changes nothing but the log. -/
theorem exists_followAll {budget : Nat} {mentions : List Mention} {s : Progress}
    (known : ∀ mention ∈ mentions, job.IsKnown s mention.decl) :
    ∃ records, (followAll (job.exportWithin budget) mentions).Succeeds s () (s.reported records) := by
  induction mentions generalizing s with
  | nil => exact ⟨[], succeeds_forM_nil.mpr (by simp)⟩
  | cons mention rest ih =>
    obtain ⟨isKnown, areKnown⟩ := List.forall_mem_cons.mp known
    let record : Log.Record := ⟨.debug, .declarations,
      "Parse type: `" ++ mention.spelling ++ "` declared by `" ++ mention.name ++ "`"⟩
    have first : (follow (job.exportWithin budget) mention).Succeeds s () (s.reported [record]) := by
      simp only [follow, succeeds_bind, report_succeeds]
      exact ⟨(), _, rfl, IsKnown.exportWithin (s := s.reported [record]) isKnown⟩
    obtain ⟨records, others⟩ := ih (s := s.reported [record]) areKnown
    refine ⟨record :: records, succeeds_forM_cons.mpr ⟨s.reported [record], first, ?_⟩⟩
    have same : (s.reported [record]).reported records = s.reported (record :: records) := by simp
    exact same ▸ others

theorem succeeds_of_claimed {tag : Option String} {newName : String} {next : Exporter Unit}
    {s s' : Progress} (run : next.Succeeds (s.claimed tag newName) () s') :
    (match tag with
      | some tag => do
          let isNew ← exportOnce tag
          if isNew = true then do
            give tag newName
            next
          else next
      | _ => next).Succeeds s () s' := by
  cases tag with
  | none => exact run
  | some tag =>
    by_cases known : tag ∈ s.exported
    · rw [Progress.claimed, if_pos known] at run
      simpa [succeeds_bind, exportOnce_succeeds, known] using run
    · rw [Progress.claimed, if_neg known] at run
      simpa [succeeds_bind, exportOnce_succeeds, known] using run

section

variable {id target : DeclId} {underlying : CType} {newName : String}

/-- A class is written for what has well-formed fields, if all that they mention is known. -/
theorem exists_exportStruct {name : String} {comment : Option String} {budget : Nat} {s : Progress}
    (formed : job.FieldsFormed target)
    (known : ∀ mention ∈ job.fieldMentions target, job.IsKnown s mention.decl) :
    ∃ s' fields,
      (job.exportStruct (job.exportWithin budget) name newName target comment).Succeeds s () s' ∧
        s'.items = s.items ++ [.structClass target newName (comment.filter (· ≠ "")) fields] := by
  obtain ⟨records, inside⟩ :=
    exists_followAll (s := s.said .info (asText "Translate struct" name newName)) known
  obtain ⟨fields, become⟩ := exists_fields_iff.mpr formed
  exact ⟨_, fields, exportStruct_succeeds.mpr ⟨_, fields, inside, become, rfl⟩, rfl⟩

/-- The first type definition of a structure type writes the class of whatever this names. -/
theorem exists_exportTagTypedef {name : String} {budget : Nat} {s : Progress}
    (formed : job.FieldsFormed target) (unnamed : job.existing? s target = none)
    (known : ∀ mention ∈ job.fieldMentions target, job.IsKnown s mention.decl) :
    ∃ s' comment fields,
      (job.exportTagTypedef (job.exportWithin budget) name newName (job.header.decl id) true
        target).Succeeds s () s' ∧
      s'.items = s.items ++ [.structClass target newName comment fields] := by
  let claimed := ((s.named name newName).classed target newName).claimed
    (job.header.decl target).properName? newName
  have knownThen : ∀ mention ∈ job.fieldMentions target, job.IsKnown claimed mention.decl :=
    fun mention inside name named =>
      (Progress.mem_exported_claimed _ _ _).mpr (.inl (known mention inside name named))
  obtain ⟨s', fields, writes, items⟩ := exists_exportStruct
    (s := claimed.said .info (asText "Translate typedef record" name newName)) formed knownThen
  have unwritten : claimed.items = s.items := Progress.items_claimed _ _ _
  refine ⟨s', _, fields, ?_, items.trans (congrArg (· ++ _) unwritten)⟩
  simp only [exportTagTypedef, succeeds_bind, existingName?_succeeds]
  refine ⟨none, s, ⟨unnamed.symm, rfl⟩, ?_⟩
  simp only [succeeds_bind, give_succeeds, setClass_succeeds]
  refine ⟨(), _, rfl, (), _, rfl, succeeds_of_claimed ?_⟩
  rw [if_pos trivial]
  simp only [succeeds_bind, report_succeeds]
  exact ⟨(), _, rfl, writes⟩

/-- Whatever a type definition of a structure type names can get a class of a structure. -/
theorem exists_structClass {name : String} (kind : (job.header.decl id).kind = .typedef)
    (names : (job.header.decl id).underlying = some underlying)
    (tagged : tagTarget? underlying = some (true, target))
    (named : (job.header.decl id).name = some name)
    (renamed : job.names.apply name = .ok newName) (formed : job.FieldsFormed target) :
    ∃ s s' comment fields, (job.exportDecl id).Succeeds s () s' ∧
      s'.items = s.items ++ [.structClass target newName comment fields] := by
  let others := ((job.fieldMentions target).filterMap fun mention =>
    (job.header.decl mention.decl).name).filter (· ≠ name)
  let s : Progress := { exported := others }
  have fresh : name ∉ s.exported := by simp [s, others]
  have known : ∀ mention ∈ job.fieldMentions target,
      job.IsKnown (s.marked name) mention.decl := by
    intro mention inside other isName
    by_cases same : other = name
    · exact same ▸ List.mem_cons_self
    · have isOther : other ∈ others :=
        List.mem_filter.mpr ⟨List.mem_filterMap.mpr ⟨mention, inside, isName⟩, by simpa using same⟩
      exact List.mem_cons_of_mem _ isOther
  have unnamed : job.existing? (s.marked name) target = none := by
    simp only [existing?, Option.or_eq_none_iff]
    refine ⟨rfl, ?_⟩
    cases (job.header.decl target).properName? <;> rfl
  obtain ⟨s', comment, fields, run, items⟩ := exists_exportTagTypedef formed unnamed known
  refine ⟨s, s', comment, fields, ?_, items⟩
  rw [exportDecl, nestingBudget, exportWithin, ifNamed_of_name named]
  simp only [succeeds_bind, exportOnce_succeeds]
  refine ⟨true, s.marked name, by rw [if_neg fresh]; exact ⟨rfl, rfl⟩, ?_⟩
  simp only [exportNew, succeeds_bind, newName_succeeds, kind, exportTypedef, names, tagged, if_true]
  exact ⟨newName, _, ⟨renamed, rfl⟩, run⟩

end

/-- Every class of a structure that any request ever writes is for a structure, just when every type
    definition of a structure type that can be exported names a structure. -/
theorem structClasses_of_structs_iff :
    (∀ request, (job.perform request).Adds job.OfStruct) ↔ job.DefinesStructs := by
  constructor
  · intro adds id target underlying name newName kind names tagged named renamed formed
    obtain ⟨s, s', comment, fields, run, items⟩ :=
      exists_structClass kind names tagged named renamed formed
    obtain ⟨added, grows, allowed⟩ := adds (.declaration id) run
    have same : [Item.structClass target newName comment fields] = added :=
      List.append_cancel_left (items.symm.trans grows)
    exact allowed (.structClass target newName comment fields) (same ▸ List.mem_singleton_self _)
  · exact fun defines request => adds_perform defines request

end Job

/-!
A union and a type definition of it. A union is a declaration of an unsupported kind, but its type
counts as a structure type.
-/

namespace DefinedUnion

def union : CType := { kind := .record, spelling := "union U", declaration := some 2 }

/-- `typedef union U T; union U {};` -/
def job : Job :=
  ⟨⟨#[{ kind := .unit, children := [1, 2] },
    { kind := .typedef, name := some "T", underlying := some union },
    { kind := .unsupported, name := some "U", rawKind := "UNION_DECL" }]⟩, .prefixing⟩

def exported : Progress :=
  ((job.exportHeader "Lib" 0).outcome {}).2

theorem outcome : ((job.exportHeader "Lib" 0).outcome {}).1 = .ok () ∧
    exported.items =
      [.ffiImport, .blank, .structClass 2 "X_T" none [], .library ⟨"Lib", [], []⟩] := by
  constructor <;> cbv

/-- A union is given a class of a structure by its type definition. Exported itself, it leaves a
    warning and nothing in the text. -/
theorem structClass_of_union :
    (job.header.decl 2).kind ≠ .struct ∧
      (job.exportHeader "Lib" 0).Succeeds {} () exported ∧
      .structClass 2 "X_T" none [] ∈ exported.items ∧
      ¬ (∀ request, (job.perform request).Adds job.OfStruct) ∧
      ((job.exportDecl 2).outcome {}).1 = .ok () ∧
      ((job.exportDecl 2).outcome {}).2.items = [] ∧
      ((job.exportDecl 2).outcome {}).2.log =
        [⟨.warning, .declarations, "Unparsed type declaration UNION_DECL: `U`"⟩] := by
  obtain ⟨succeeds, items⟩ := outcome
  have run : (job.exportHeader "Lib" 0).Succeeds {} () exported := .of_fst succeeds
  have written : .structClass 2 "X_T" none [] ∈ exported.items := by simp [items]
  refine ⟨by decide, run, written, fun adds => ?_, by cbv, by cbv, by cbv⟩
  obtain ⟨added, grows, allowed⟩ := adds (.header "Lib" 0) run
  have isAdded : .structClass 2 "X_T" none [] ∈ added := by
    rw [grows] at written
    simpa using written
  have isStruct : (job.header.decl 2).kind = .struct := allowed _ isAdded
  exact absurd isStruct (by decide)

end DefinedUnion

end HeaderBindings
