import Mathlib.Data.List.Forall2
import HeaderBindings.Export.Header
import HeaderBindings.Proofs.Export.Success

/-!
# Derivations of exports

A successful export as a relation: which tasks it is made of, and which progress each of them finds
and leaves. The relation has one rule for each thing that an export can do, and no budget. What is
true of every successful export is proved along its derivation.
-/

namespace HeaderBindings

namespace Progress

variable (s : Progress)

@[simp] def reported (records : List Log.Record) : Progress :=
  { s with log := s.log ++ records }

/-- The progress after reporting a message about declarations. -/
@[simp] def said (level : Log.Level) (message : String) : Progress :=
  s.reported [⟨level, .declarations, message⟩]

@[simp] def emitted (item : Item) : Progress :=
  { s with items := s.items ++ [item] }

@[simp] def marked (name : String) : Progress :=
  { s with exported := name :: s.exported }

@[simp] def named (name newName : String) : Progress :=
  { s with given := s.given.set name newName }

@[simp] def classed (id : DeclId) (newName : String) : Progress :=
  { s with classes := s.classes.set id newName }

@[simp] def calledBack (name : String) (binding : Binding) : Progress :=
  { s with callbacks := s.callbacks ++ [(name, binding)] }

/-- The progress after a class has claimed the name of its tag, if that was still free. -/
def claimed (tag : Option String) (newName : String) : Progress :=
  match tag with
  | none => s
  | some tag => if tag ∈ s.exported then s else (s.marked tag).named tag newName

variable (tag : Option String) (newName : String)

@[simp] theorem classes_claimed : (s.claimed tag newName).classes = s.classes := by
  unfold claimed
  split
  · rfl
  · split <;> rfl

@[simp] theorem items_claimed : (s.claimed tag newName).items = s.items := by
  unfold claimed
  split
  · rfl
  · split <;> rfl

@[simp] theorem calls_claimed : (s.claimed tag newName).calls = s.calls := by
  unfold claimed
  split
  · rfl
  · split <;> rfl

@[simp] theorem callbacks_claimed : (s.claimed tag newName).callbacks = s.callbacks := by
  unfold claimed
  split
  · rfl
  · split <;> rfl

@[simp] theorem bound_claimed : (s.claimed tag newName).bound = s.bound := by
  unfold claimed
  split
  · rfl
  · split <;> rfl

@[simp] theorem mem_exported_claimed {name : String} :
    name ∈ (s.claimed tag newName).exported ↔ name ∈ s.exported ∨ tag = some name := by
  cases tag with
  | none => simp [claimed]
  | some own =>
    by_cases known : own ∈ s.exported
    · simp only [claimed, known, if_true, Option.some.injEq]
      constructor
      · exact .inl
      · rintro (marked | rfl)
        · exact marked
        · exact known
    · simp [claimed, known, eq_comm, or_comm]

/-- A class gives its name to the name of its tag, unless that was marked. -/
theorem find?_given_claimed {name : String} :
    (s.claimed tag newName).given.find? name =
      if tag = some name ∧ name ∉ s.exported then some newName else s.given.find? name := by
  cases tag with
  | none => simp [claimed]
  | some own =>
    by_cases known : own ∈ s.exported
    · by_cases same : own = name
      · subst same
        simp [claimed, known]
      · simp [claimed, known, same]
    · by_cases same : own = name
      · subst same
        simp [claimed, known, Table.find?_set]
      · simp [claimed, known, same, Table.find?_set]

end Progress

namespace Job

variable (job : Job)

/-- What the fields of a structure mention. -/
def fieldMentions (id : DeclId) : List Mention :=
  ((job.childrenOfKind .field id).filterMap (·.type)).flatMap job.header.mentions

/-- A declaration becomes a field of a class, with its type resolved under the given names. -/
def BecomesField (given : GivenNames) (decl : Decl) (field : Field) : Prop :=
  ∃ name type, decl.properName? = some name ∧ decl.type = some type ∧
    field = ⟨decl.properComment?, job.header.scalar? type, job.header.fieldType? given type, name⟩

/-- What is reported while a declaration becomes a field. -/
def fieldReport (given : GivenNames) (decl : Decl) : List Log.Record :=
  match decl.properName?, decl.type with
  | some name, some type =>
      ⟨.info, .declarations,
        "Translate field: `" ++ name ++ "` of type `" ++ type.spelling ++ "`"⟩ ::
        job.header.fieldReport given type
  | _, _ => []

/-- The name that stands for a structure or enumeration already. -/
def existing? (s : Progress) (id : DeclId) : Option String :=
  (s.classes.find? id).or ((job.header.decl id).properName?.bind s.given.find?)

/-- The class that an export begins. -/
structure Opening where
  /-- The structure or enumeration that the class is for. -/
  target : DeclId
  /-- Whether that is a structure. -/
  record : Bool
  /-- The name that messages call it by, and that the constants of an enumeration lose. -/
  owner : String
  newName : String
  comment : Option String

/-- Exporting a declaration begins a class. -/
inductive Opens (id : DeclId) (s : Progress) : Opening → Progress → Prop where
  /-- A structure or enumeration begins its own class. -/
  | tag {name newName : String} {record : Bool}
      (named : (job.header.decl id).properName? = some name)
      (fresh : name ∉ s.exported)
      (renamed : job.names.apply name = .ok newName)
      (kind : (job.header.decl id).kind = if record then .struct else .enum) :
      Opens id s ⟨id, record, name, newName, (job.header.decl id).comment⟩
        (((s.marked name).named name newName).classed id newName)
  /-- A type definition begins the class of what it names, and claims the name of that. -/
  | typedef {name newName : String} {underlying : CType} {record : Bool} {target : DeclId}
      (named : (job.header.decl id).properName? = some name)
      (fresh : name ∉ s.exported)
      (renamed : job.names.apply name = .ok newName)
      (kind : (job.header.decl id).kind = .typedef)
      (names : (job.header.decl id).underlying = some underlying)
      (tagged : tagTarget? underlying = some (record, target))
      (unnamed : job.existing? s target = none) :
      Opens id s
        ⟨target, record,
          if record then name else (job.header.decl target).properName?.getD name, newName,
          typedefComment (job.header.decl id) (job.header.decl target)⟩
        (((((s.marked name).named name newName).classed target newName).claimed
          (job.header.decl target).properName? newName).said .info
            (Exporter.asText
              (if record then "Translate typedef record" else "Translate typedef enum")
              name newName))

/-- What an export is asked for. -/
inductive Task where
  | decl (id : DeclId)
  | mentions (list : List Mention)

/-- A task succeeds on one progress and leaves another. -/
inductive Exports : Task → Progress → Progress → Prop where
  | done {s : Progress} : Exports (.mentions []) s s
  /-- The first mentioned declaration is exported, and then the others. -/
  | next {mention : Mention} {rest : List Mention} {s s₁ s₂ : Progress}
      (named : (job.header.decl mention.decl).properName? = some mention.name)
      (first : Exports (.decl mention.decl) (s.said .debug
        ("Parse type: `" ++ mention.spelling ++ "` declared by `" ++ mention.name ++ "`")) s₁)
      (others : Exports (.mentions rest) s₁ s₂) :
      Exports (.mentions (mention :: rest)) s s₂
  /-- A declaration with the same name was exported before. -/
  | known {id : DeclId} {name : String} {s : Progress}
      (named : (job.header.decl id).properName? = some name)
      (known : name ∈ s.exported) :
      Exports (.decl id) s s
  /-- A declaration that declares no type leaves nothing in the text. -/
  | other {id : DeclId} {name newName : String} {s : Progress}
      (named : (job.header.decl id).properName? = some name)
      (fresh : name ∉ s.exported)
      (renamed : job.names.apply name = .ok newName)
      (kind : (job.header.decl id).kind.declaresType = false) :
      Exports (.decl id) s ((s.marked name).said .warning
        ("Unparsed type declaration " ++ (job.header.decl id).kindName ++ ": `" ++ name ++ "`"))
  | enumClass {id : DeclId} {s s₁ : Progress} {opening : Opening} {constants : List Constant}
      (opens : job.Opens id s opening s₁)
      (record : opening.record = false)
      (exported : (job.childrenOfKind .enumConstant opening.target).mapM (constant opening.owner) =
        .ok constants) :
      Exports (.decl id) s
        ((s₁.said .info (Exporter.asText "Translate enum" opening.owner opening.newName)).emitted
          (.enumClass opening.target opening.newName (opening.comment.filter (· ≠ "")) constants))
  /-- The class of a structure is written, after what its fields mention was exported. -/
  | structClass {id : DeclId} {s s₁ s₂ : Progress} {opening : Opening} {fields : List Field}
      (opens : job.Opens id s opening s₁)
      (record : opening.record = true)
      (inside : Exports (.mentions (job.fieldMentions opening.target))
        (s₁.said .info (Exporter.asText "Translate struct" opening.owner opening.newName)) s₂)
      (exported : List.Forall₂ (job.BecomesField s₂.given)
        (job.childrenOfKind .field opening.target) fields) :
      Exports (.decl id) s
        ((s₂.reported
            ((job.childrenOfKind .field opening.target).flatMap (job.fieldReport s₂.given))).emitted
          (.structClass opening.target opening.newName (opening.comment.filter (· ≠ "")) fields))
  /-- A type definition becomes another name for a class. -/
  | otherName {id : DeclId} {name newName existing : String} {underlying : CType} {record : Bool}
      {target : DeclId} {s : Progress}
      (named : (job.header.decl id).properName? = some name)
      (fresh : name ∉ s.exported)
      (renamed : job.names.apply name = .ok newName)
      (kind : (job.header.decl id).kind = .typedef)
      (names : (job.header.decl id).underlying = some underlying)
      (tagged : tagTarget? underlying = some (record, target))
      (known : job.existing? s target = some existing) :
      Exports (.decl id) s
        ((((s.marked name).said .info
            (Exporter.asText "Translate typedef alias" name newName)).named name newName).emitted
          (.alias newName existing ((typedefComment (job.header.decl id)
            (job.header.decl target)).filter (· ≠ ""))))
  /-- A type definition of a function or of a pointer to one becomes a callback, after what the
      prototype mentions was exported. -/
  | callback {id : DeclId} {name newName : String} {underlying prototype : CType}
      {s s₁ : Progress}
      (named : (job.header.decl id).properName? = some name)
      (fresh : name ∉ s.exported)
      (renamed : job.names.apply name = .ok newName)
      (kind : (job.header.decl id).kind = .typedef)
      (names : (job.header.decl id).underlying = some underlying)
      (untagged : tagTarget? underlying = none)
      (calls : callbackPrototype? underlying = some prototype)
      (inside : Exports (.mentions (job.header.prototypeMentions prototype))
        ((s.marked name).said .info
          (Exporter.asText "Translate typedef callback" name newName)) s₁) :
      Exports (.decl id) s
        (((s₁.reported (job.header.bindPrototypeReport s₁.given prototype)).emitted
            (.callback newName (job.header.bindPrototype s₁.given prototype (some name)
              (job.header.decl id).comment))).calledBack newName
          (job.header.bindPrototype s₁.given prototype (some name) (job.header.decl id).comment))
  /-- Any other type definition leaves nothing in the text, after what it mentions was exported. -/
  | plain {id : DeclId} {name newName : String} {underlying : CType} {record : Log.Record}
      {s s₁ : Progress}
      (named : (job.header.decl id).properName? = some name)
      (fresh : name ∉ s.exported)
      (renamed : job.names.apply name = .ok newName)
      (kind : (job.header.decl id).kind = .typedef)
      (names : (job.header.decl id).underlying = some underlying)
      (untagged : tagTarget? underlying = none)
      (uncalled : callbackPrototype? underlying = none)
      (inside : Exports (.mentions (job.header.mentions underlying)) (s.marked name) s₁)
      (quiet : record.level ≠ .error) :
      Exports (.decl id) s (s₁.reported [record])

end Job

end HeaderBindings
