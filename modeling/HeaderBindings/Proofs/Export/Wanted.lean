import HeaderBindings.Proofs.Export.Origins

/-!
# Wanted declarations

Which declarations a header asks for, told without any order: the type declarations in scope, what
the signatures of the functions in scope need, and what all these need in turn. Exports never leave
the wanted declarations, and a walk from the root comes to each of them.
-/

namespace HeaderBindings

namespace Header

variable (header : Header) (root : DeclId)

/-- A type needs a declaration with a name: the one it names, behind pointers and prototypes. -/
inductive Needs : CType → DeclId → Prop where
  | pointer {type pointee : CType} {id : DeclId} (kind : type.kind = .pointer)
      (points : type.pointee = some pointee) (needs : Needs pointee id) : Needs type id
  | result {type result : CType} {id : DeclId} (kind : type.kind.isFunction = true)
      (returns : type.result = some result) (needs : Needs result id) : Needs type id
  | argument {type argument : CType} {id : DeclId} (kind : type.kind.isFunction = true)
      (takes : argument ∈ type.arguments) (needs : Needs argument id) : Needs type id
  | declared {type : CType} {id : DeclId} {name : String} (noPointer : type.kind ≠ .pointer)
      (noFunction : type.kind.isFunction = false) (declared : type.declaration = some id)
      (named : (header.decl id).properName? = some name) : Needs type id

/-- A structure type that a walk comes to is declared by a structure, or by a declaration without
    children that is no type definition; an enumeration type is declared by an enumeration. -/
structure TagsDeclared : Prop where
  record : ∀ ⦃type : CType⦄ ⦃id : DeclId⦄, header.Reaches root (.type type) →
    type.kind = .record → type.declaration = some id → (header.decl id).kind = .struct ∨
      header.childrenOf id = [] ∧ (header.decl id).kind ≠ .typedef
  enum : ∀ ⦃type : CType⦄ ⦃id : DeclId⦄, header.Reaches root (.type type) →
    type.kind = .enum → type.declaration = some id → (header.decl id).kind = .enum

variable {header root}

theorem needs_iff {type : CType} {id : DeclId} :
    header.Needs type id ↔ ∃ mention ∈ header.mentions type, mention.decl = id := by
  constructor
  · intro needs
    induction needs with
    | pointer kind points _ ih =>
      obtain ⟨mention, inside, same⟩ := ih
      refine ⟨mention, ?_, same⟩
      rw [header.mentions_of_pointer kind, points]
      simpa using inside
    | result kind returns _ ih =>
      obtain ⟨mention, inside, same⟩ := ih
      refine ⟨mention, ?_, same⟩
      rw [header.mentions_of_function kind]
      exact header.mem_prototypeMentions.mpr ⟨_, .inl returns, inside⟩
    | argument kind takes _ ih =>
      obtain ⟨mention, inside, same⟩ := ih
      refine ⟨mention, ?_, same⟩
      rw [header.mentions_of_function kind]
      exact header.mem_prototypeMentions.mpr ⟨_, .inr takes, inside⟩
    | @declared type id name noPointer noFunction declared named =>
      refine ⟨⟨type.spelling, name, id⟩, ?_, rfl⟩
      rw [header.mentions_of_other noPointer noFunction]
      exact header.mem_ownMention.mpr ⟨declared, rfl, named⟩
  · rintro ⟨mention, isMention, rfl⟩
    induction type using CType.inductionOnParts with
    | step type ih =>
      by_cases pointer : type.kind = .pointer
      · rw [header.mentions_of_pointer pointer] at isMention
        obtain ⟨pointee, points, inside⟩ := List.mem_flatMap.mp isMention
        rw [Option.mem_toList] at points
        exact .pointer pointer points (ih pointee (CType.mem_parts_pointee points) inside)
      · cases function : type.kind.isFunction with
        | true =>
          rw [header.mentions_of_function function] at isMention
          obtain ⟨part, returns | takes, inside⟩ := header.mem_prototypeMentions.mp isMention
          · exact .result function returns (ih part (CType.mem_parts_result returns) inside)
          · exact .argument function takes (ih part (CType.mem_parts_argument takes) inside)
        | false =>
          rw [header.mentions_of_other pointer function] at isMention
          obtain ⟨declared, -, named⟩ := header.mem_ownMention.mp isMention
          exact .declared pointer function declared named

theorem needs_prototype_iff {prototype : CType} {id : DeclId}
    (kind : prototype.kind.isFunction = true) :
    header.Needs prototype id ↔
      ∃ mention ∈ header.prototypeMentions prototype, mention.decl = id := by
  rw [needs_iff, header.mentions_of_function kind]

theorem Reaches.needs {type : CType} {id : DeclId} (reaches : header.Reaches root (.type type))
    (needs : header.Needs type id) : header.DeclaresType root id := by
  obtain ⟨mention, inside, rfl⟩ := needs_iff.mp needs
  exact reaches.mention inside

theorem TagTypes.tagsDeclared (tagTypes : header.TagTypes root) : header.TagsDeclared root where
  record type id reaches kind declared := by
    obtain ⟨other, same, isStruct⟩ := (tagTypes reaches).record kind
    rw [declared] at same
    cases same
    exact .inl isStruct
  enum type id reaches kind declared := by
    obtain ⟨other, same, isEnum⟩ := (tagTypes reaches).enum kind
    rw [declared] at same
    cases same
    exact isEnum

namespace TagsDeclared

variable (tags : header.TagsDeclared root) {underlying : CType} {record : Bool} {target : DeclId}
  (reaches : header.Reaches root (.type underlying))
  (tagged : Job.tagTarget? underlying = some (record, target))

include tags reaches tagged

/-- What a type definition names is no type definition. -/
theorem target_kind : (header.decl target).kind ≠ .typedef := by
  obtain ⟨kind, declared⟩ := tagTarget?_eq_some tagged
  cases record with
  | true =>
    rcases tags.record reaches.canonical kind declared with isStruct | ⟨-, noTypedef⟩
    · simp [isStruct]
    · exact noTypedef
  | false => simp [tags.enum reaches.canonical kind declared]

/-- What a type definition of a structure names is a structure, or has no fields. -/
theorem target_struct (isRecord : record = true) :
    (header.decl target).kind = .struct ∨ header.childrenOf target = [] := by
  obtain ⟨kind, declared⟩ := tagTarget?_eq_some tagged
  rw [if_pos isRecord] at kind
  exact (tags.record reaches.canonical kind declared).imp_right And.left

end TagsDeclared

end Header

namespace Job

variable (job : Job) (root : DeclId)

/-- A header asks for a declaration. -/
inductive Wanted : DeclId → Prop where
  /-- The type declarations in scope are wanted. -/
  | child {id : DeclId} (inside : id ∈ job.childrenInScope root (·.declaresType)) : Wanted id
  | result {function id : DeclId} {type : CType}
      (inside : function ∈ job.childrenInScope root (· = .function))
      (returns : (job.header.decl function).resultType = some type)
      (needs : job.header.Needs type id) : Wanted id
  | argument {function id : DeclId} {argument : Decl} {type : CType}
      (inside : function ∈ job.childrenInScope root (· = .function))
      (takes : argument ∈ job.header.argumentsOf (job.header.decl function))
      (own : argument.type = some type) (noCallback : type.functionPointee? = none)
      (needs : job.header.Needs type id) : Wanted id
  /-- For a parameter that points to a function, its canonical prototype counts. -/
  | callback {function id : DeclId} {argument : Decl} {type prototype : CType}
      (inside : function ∈ job.childrenInScope root (· = .function))
      (takes : argument ∈ job.header.argumentsOf (job.header.decl function))
      (own : argument.type = some type) (calls : type.functionPointee? = some prototype)
      (needs : job.header.Needs prototype id) : Wanted id
  | field {tag id : DeclId} {field : Decl} {type : CType} (wanted : Wanted tag)
      (kind : (job.header.decl tag).kind = .struct)
      (inside : field ∈ job.childrenOfKind .field tag) (own : field.type = some type)
      (needs : job.header.Needs type id) : Wanted id
  /-- A type definition of a structure or enumeration brings that, with or without a name. -/
  | tag {definition id : DeclId} {underlying : CType} {record : Bool}
      (wanted : Wanted definition) (kind : (job.header.decl definition).kind = .typedef)
      (names : (job.header.decl definition).underlying = some underlying)
      (tagged : tagTarget? underlying = some (record, id)) : Wanted id
  | prototype {definition id : DeclId} {underlying prototype : CType}
      (wanted : Wanted definition) (kind : (job.header.decl definition).kind = .typedef)
      (names : (job.header.decl definition).underlying = some underlying)
      (calls : callbackPrototype? underlying = some prototype)
      (needs : job.header.Needs prototype id) : Wanted id
  | underlying {definition id : DeclId} {underlying : CType}
      (wanted : Wanted definition) (kind : (job.header.decl definition).kind = .typedef)
      (names : (job.header.decl definition).underlying = some underlying)
      (untagged : tagTarget? underlying = none) (uncalled : callbackPrototype? underlying = none)
      (needs : job.header.Needs underlying id) : Wanted id

variable {job root}

theorem isFunction_of_functionPointee? {type prototype : CType}
    (calls : type.functionPointee? = some prototype) : prototype.kind.isFunction = true :=
  (CType.functionPointee?_eq_some calls).2.1

/-- The prototype of a callback is a function type, and the callback names no structure or
    enumeration. -/
theorem isFunction_of_callbackPrototype? {type prototype : CType}
    (calls : callbackPrototype? type = some prototype) :
    prototype.kind.isFunction = true ∧ tagTarget? type = none := by
  unfold callbackPrototype? at calls
  rcases Option.or_eq_some_iff.mp calls with pointee | ⟨-, function⟩
  · obtain ⟨pointer, isFunction, -⟩ := CType.functionPointee?_eq_some pointee
    exact ⟨isFunction, by simp [tagTarget?, pointer]⟩
  · split at function
    case isTrue kind =>
      cases function
      refine ⟨kind, ?_⟩
      unfold tagTarget?
      cases own : type.canonical.kind <;> simp_all [TypeKind.isFunction]
    case isFalse => cases function

theorem Wanted.declaresType {id : DeclId} (wanted : job.Wanted root id) :
    job.header.DeclaresType root id := by
  have child : ∀ {id : DeclId} {test : DeclKind → Bool}, id ∈ job.childrenInScope root test →
      job.header.Reaches root (.decl id) :=
    fun inside => .child .refl (List.mem_of_mem_filter inside)
  have argument : ∀ {id : DeclId} {argument : Decl} {type : CType},
      job.header.Reaches root (.decl id) →
        argument ∈ job.header.argumentsOf (job.header.decl id) → argument.type = some type →
          job.header.Reaches root (.type type) := by
    intro id _ type reaches takes own
    obtain ⟨argument, inside, rfl⟩ := List.mem_map.mp takes
    exact (reaches.argument inside).ownType own
  induction wanted with
  | child inside => exact ⟨child inside, .inl (exists_name_of_mem_childrenInScope inside).2.1⟩
  | result inside returns needs => exact ((child inside).resultType returns).needs needs
  | argument inside takes own _ needs => exact (argument (child inside) takes own).needs needs
  | callback inside takes own calls needs =>
    exact (reaches_functionPointee? (argument (child inside) takes own) calls).needs needs
  | field _ _ inside own needs ih =>
    obtain ⟨field, rfl, reaches⟩ := reaches_of_mem_childrenOfKind ih.1 inside
    exact (reaches.ownType own).needs needs
  | tag _ _ names tagged ih =>
    exact (ih.1.underlying names).canonical.declaration (Header.tagTarget?_eq_some tagged).2
  | prototype _ _ names calls needs ih =>
    exact (reaches_callbackPrototype? (ih.1.underlying names) calls).needs needs
  | underlying _ _ names _ _ needs ih => exact (ih.1.underlying names).needs needs

theorem Wanted.fieldMention {tag : DeclId} (wanted : job.Wanted root tag)
    (kind : (job.header.decl tag).kind = .struct) :
    ∀ mention ∈ job.fieldMentions tag, job.Wanted root mention.decl := by
  intro mention isMention
  obtain ⟨type, isType, inside⟩ := List.mem_flatMap.mp isMention
  obtain ⟨field, isField, own⟩ := List.mem_filterMap.mp isType
  exact .field wanted kind isField own (Header.needs_iff.mpr ⟨mention, inside, rfl⟩)

theorem fieldMentions_of_childless {id : DeclId} (childless : job.header.childrenOf id = []) :
    job.fieldMentions id = [] := by
  simp [fieldMentions, childrenOfKind, childless]

theorem closedUnderExport_wanted (tags : job.header.TagsDeclared root) :
    job.ClosedUnderExport (job.Wanted root) where
  fields id wanted kind := wanted.fieldMention kind
  tagged id underlying record target wanted kind names tagged := by
    have wantedTarget : job.Wanted root target := .tag wanted kind names tagged
    have reaches := wanted.declaresType.1.underlying names
    refine ⟨wantedTarget, fun isRecord => ?_⟩
    rcases tags.target_struct reaches tagged isRecord with isStruct | childless
    · exact wantedTarget.fieldMention isStruct
    · simp [fieldMentions_of_childless childless]
  plain id wanted isPlain mention isMention := by
    obtain ⟨underlying, names, untagged, ⟨prototype, calls, inside⟩ | ⟨uncalled, inside⟩⟩ :=
      mem_follows isPlain isMention
    · exact .prototype wanted isPlain.1 names calls
        ((Header.needs_prototype_iff (isFunction_of_callbackPrototype? calls).1).mpr
          ⟨mention, inside, rfl⟩)
    · exact .underlying wanted isPlain.1 names untagged uncalled
        (Header.needs_iff.mpr ⟨mention, inside, rfl⟩)

/-- Exports of declared types lead to declared types only. -/
theorem closedUnderExport_declaresType :
    job.ClosedUnderExport (job.header.DeclaresType root) where
  fields id declares _ := within_fieldMentions declares.1
  tagged id underlying record target declares kind names tagged := by
    have declaresTarget := (declares.1.underlying names).canonical.declaration
      (Header.tagTarget?_eq_some tagged).2
    exact ⟨declaresTarget, fun _ => within_fieldMentions declaresTarget.1⟩
  plain id declares isPlain mention isMention := by
    obtain ⟨underlying, names, -, ⟨prototype, calls, inside⟩ | ⟨-, inside⟩⟩ :=
      mem_follows isPlain isMention
    · have reaches := reaches_callbackPrototype? (declares.1.underlying names) calls
      exact within_prototypeMentions reaches mention inside
    · exact within_mentions (declares.1.underlying names) mention inside

/-- Exporting a header asks for wanted declarations only. -/
theorem headerTasks_among : ∀ task ∈ job.headerTasks root, task.Among (job.Wanted root) := by
  intro task inside
  rcases List.mem_append.mp inside with ofFunction | ofDecl
  · obtain ⟨function, isFunction, asks⟩ := mem_functionTasks ofFunction
    rcases List.mem_append.mp asks with ofResult | ofArgument
    · obtain ⟨type, returns, rfl⟩ := List.mem_map.mp ofResult
      intro mention isMention
      exact .result isFunction (Option.mem_toList.mp returns)
        (Header.needs_iff.mpr ⟨mention, isMention, rfl⟩)
    · obtain ⟨type, isType, rfl⟩ := List.mem_map.mp ofArgument
      obtain ⟨argument, takes, own⟩ := List.mem_filterMap.mp isType
      unfold argumentTask
      split
      case h_1 prototype calls =>
        intro mention isMention
        exact .callback isFunction takes own calls
          ((Header.needs_prototype_iff (isFunction_of_functionPointee? calls)).mpr
            ⟨mention, isMention, rfl⟩)
      case h_2 noCallback =>
        intro mention isMention
        exact .argument isFunction takes own noCallback
          (Header.needs_iff.mpr ⟨mention, isMention, rfl⟩)
  · obtain ⟨id, isChild, rfl⟩ := List.mem_map.mp ofDecl
    exact .child isChild

/-- All marks and classes of a progress come from exports of members of a set. -/
structure Originates (job : Job) (members : DeclId → Prop) (s : Progress) : Prop where
  namesMarked : job.NamesMarked s
  marks : ∀ {name : String}, name ∈ s.exported → job.MarkOrigin members s name
  classes : ∀ {id : DeclId} {className : String}, s.classes.find? id = some className →
    job.ClassOrigin members s id

/-- After a successful run all that the header asks for is marked, all marks and classes come from
    exports of whatever contains the wanted declarations, and all classes are written. -/
theorem originates_of_exportHeader {members : DeclId → Prop} {s : Progress}
    (closed : job.ClosedUnderExport members) (contains : ∀ id, job.Wanted root id → members id)
    {className : String} (run : (job.exportHeader className root).Succeeds {} () s) :
    job.Originates members s ∧
      (∀ task ∈ job.headerTasks root, ∀ name, task.Names job.header name → name ∈ s.exported) ∧
      ∀ id newName, s.classes.find? id = some newName →
        ∃ item ∈ s.items, item.classOf? = some (id, newName) := by
  obtain ⟨s₁, performs, rfl⟩ := performs_of_exportHeader run
  have marked : job.NamesMarked ((Progress.emitted {} .ffiImport).emitted .blank) :=
    .of_items rfl rfl
  obtain ⟨marks, classes⟩ := performs.origins closed
    (fun task isTask => (headerTasks_among task isTask).mono contains) marked
  refine ⟨⟨?_, fun {name} isMarked => ?_, fun {id className} classed => ?_⟩, ?_, ?_⟩
  · exact (performs.namesMarked marked).1.of_same rfl rfl fun _ isMarked => isMarked
  · rcases marks name isMarked with before | origin
    · cases before
    · exact origin.mono (.emitted _)
  · rcases classes id className classed with before | origin
    · cases before
    · exact origin.mono fun _ isMarked => isMarked
  · exact fun task isTask name asks => performs.marks isTask asks
  · intro id newName classed
    rcases performs.written id newName classed with before | ⟨item, inside, isClass⟩
    · cases before
    · exact ⟨item, List.mem_append_left _ inside, isClass⟩

end Job

end HeaderBindings
