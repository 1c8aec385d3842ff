import HeaderBindings.Proofs.Export.BoundSignatures
import HeaderBindings.Proofs.Export.Errors

/-!
# The items of a run

Every class of a structure and every callback in the text is what its declaration came to under the
names that were given when it was written. That is what it comes to under the names that are given
in the end, unless it refers to a structure by its own name, for want of another. Then it leads back
to a type definition that was half exported when it was written.
-/

namespace HeaderBindings

namespace Job

variable (job : Job) (root : DeclId)

/-- An item is what its declaration comes to under given names. -/
def Describes (given : GivenNames) : Item → Prop
  | .structClass id _ _ fields =>
      job.header.DeclaresType root id ∧
        List.Forall₂ (job.BecomesField given) (job.childrenOfKind .field id) fields
  | .callback _ binding =>
      ∃ id name underlying prototype, job.header.DeclaresType root id ∧
        (job.header.decl id).kind = .typedef ∧ (job.header.decl id).properName? = some name ∧
        (job.header.decl id).underlying = some underlying ∧
        callbackPrototype? underlying = some prototype ∧
        binding = job.header.bindPrototype given prototype (some name) (job.header.decl id).comment
  | _ => True

/-- An item is made of a type: the class of a structure of those of its fields, and a callback of
    the result and the parameters of its prototype. -/
def MadeOf (type : CType) : Item → Prop
  | .structClass id _ _ _ => ∃ field ∈ job.childrenOfKind .field id, field.type = some type
  | .callback _ binding =>
      ∃ id underlying prototype, job.header.DeclaresType root id ∧
        (job.header.decl id).kind = .typedef ∧ (job.header.decl id).properName? = binding.name ∧
        (job.header.decl id).underlying = some underlying ∧
        callbackPrototype? underlying = some prototype ∧
        (prototype.result = some type ∨ type ∈ prototype.arguments)
  | _ => False

/-- An item is what its declaration comes to under the names that were given in the end, and refers
    to structures by names only that the text declares. -/
def Settled (s : Progress) (item : Item) : Prop :=
  job.Describes root s.given item ∧ RefersTo s.items item.references

/-- Every item is what its declaration came to under names that are still given. -/
def DescribedEarlier (s : Progress) : Prop :=
  ∀ item ∈ s.items, ∃ earlier : GivenNames,
    (∀ {name newName : String}, earlier.find? name = some newName →
      s.given.find? name = some newName) ∧ job.Describes root earlier item

/-- Exporting a declaration exports another one first. -/
def Leads (id next : DeclId) : Prop :=
  ∃ mention ∈ job.follows id, mention.decl = next

/-- A declaration leads to all that a task asks for. -/
def Task.After (job : Job) (id : DeclId) : Task → Prop
  | .decl next => Relation.TransGen job.Leads id next
  | .mentions list => ∀ mention ∈ list, Relation.TransGen job.Leads id mention.decl

/-- No item refers to a structure by its own name. -/
def ItemsGiven (s : Progress) : Prop :=
  ∀ item ∈ s.items, ∀ name, .own name ∉ item.references

variable {job root} {s s₁ s' : Progress}

theorem exists_type_of_fields {given : GivenNames} {decls : List Decl} {fields : List Field}
    {reference : RecordName} (become : List.Forall₂ (job.BecomesField given) decls fields)
    (inside : reference ∈ fields.flatMap fun field => field.type.toList.flatMap (·.references)) :
    ∃ decl ∈ decls, ∃ type, decl.type = some type ∧
      reference ∈ (job.header.resolve given true type).references := by
  induction become with
  | nil => cases inside
  | cons becomes _ ih =>
    obtain ⟨name, type, named, own, rfl⟩ := becomes
    rw [List.flatMap_cons, List.mem_append] at inside
    rcases inside with first | others
    · exact ⟨_, List.mem_cons_self, type, own, Header.mem_references_fieldType? first⟩
    · obtain ⟨decl, isLater, found⟩ := ih others
      exact ⟨decl, List.mem_cons_of_mem _ isLater, found⟩

theorem becomeFields_of_entries {given other : GivenNames} {decls : List Decl} {fields : List Field}
    (entries : ∀ {name newName : String}, given.find? name = some newName →
      other.find? name = some newName)
    (become : List.Forall₂ (job.BecomesField given) decls fields)
    (quiet : ∀ name, .own name ∉
      fields.flatMap fun field => field.type.toList.flatMap (·.references)) :
    List.Forall₂ (job.BecomesField other) decls fields := by
  induction become with
  | nil => exact .nil
  | cons becomes _ ih =>
    obtain ⟨name, type, named, own, rfl⟩ := becomes
    simp only [List.flatMap_cons, List.mem_append, not_or] at quiet
    have same := Header.fieldType?_of_entries entries fun own => (quiet own).1
    refine .cons ⟨name, type, named, own, ?_⟩ (ih fun own => (quiet own).2)
    rw [same]

namespace Describes

variable {given : GivenNames} {item : Item} (describes : job.Describes root given item)

include describes

/-- An item refers to what the resolutions of the types refer to that it is made of. -/
theorem exists_madeOf {reference : RecordName} (inside : reference ∈ item.references) :
    ∃ type, job.MadeOf root type item ∧ job.header.Reaches root (.type type) ∧
      reference ∈ (job.header.resolve given true type).references := by
  cases item with
  | structClass id newName comment fields =>
    obtain ⟨declares, become⟩ := describes
    obtain ⟨decl, isField, type, own, refers⟩ := exists_type_of_fields become inside
    obtain ⟨child, rfl, reaches⟩ := reaches_of_mem_childrenOfKind declares.1 isField
    exact ⟨type, ⟨_, isField, own⟩, reaches.ownType own, refers⟩
  | callback newName binding =>
    obtain ⟨id, name, underlying, prototype, declares, kind, named, names, calls, rfl⟩ := describes
    obtain ⟨type, isPart, refers⟩ := Header.mem_references_bindPrototype.mp inside
    rw [List.mem_append, Option.mem_toList] at isPart
    have reaches := reaches_callbackPrototype? (declares.1.underlying names) calls
    exact ⟨type, ⟨id, underlying, prototype, declares, kind, named, names, calls, isPart⟩,
      reaches.part (isPart.elim CType.mem_parts_result CType.mem_parts_argument), refers⟩
  | _ => cases inside

theorem of_entries {other : GivenNames}
    (entries : ∀ {name newName : String}, given.find? name = some newName →
      other.find? name = some newName)
    (quiet : ∀ name, .own name ∉ item.references) : job.Describes root other item := by
  cases item with
  | structClass id newName comment fields =>
    exact ⟨describes.1, becomeFields_of_entries entries describes.2 quiet⟩
  | callback newName binding =>
    obtain ⟨id, name, underlying, prototype, declares, kind, named, names, calls, rfl⟩ := describes
    exact ⟨id, name, underlying, prototype, declares, kind, named, names, calls,
      Header.bindPrototype_of_entries entries quiet⟩
  | _ => trivial

end Describes

theorem DescribedEarlier.mono (described : job.DescribedEarlier root s)
    (grows : s.Extends s₁) (items : s₁.items = s.items) : job.DescribedEarlier root s₁ := by
  intro item inside
  rw [items] at inside
  obtain ⟨earlier, entries, describes⟩ := described item inside
  exact ⟨earlier, fun known => grows.given (entries known), describes⟩

theorem DescribedEarlier.emitted (described : job.DescribedEarlier root s) {item : Item}
    (describes : job.Describes root s.given item) : job.DescribedEarlier root (s.emitted item) := by
  intro other inside
  rcases List.mem_append.mp inside with before | added
  · exact described other before
  · rw [List.mem_singleton.mp added]
    exact ⟨s.given, id, describes⟩

/-- Exports write items under the names that are given when they are written, and take none of these
    back. -/
theorem Exports.describedEarlier {task : Task} (exports : job.Exports task s s')
    (tagTypes : job.header.TagTypes root) (unambiguous : job.header.Unambiguous root) :
    task.Within job.header root → job.NamesAgree root s →
      job.DescribedEarlier root s → job.DescribedEarlier root s' := by
  induction exports with
  | done | known => exact fun _ _ described => described
  | next named first others ihFirst ihOthers =>
    intro within agree described
    have declares := within _ List.mem_cons_self
    have agree₁ := (first.agree tagTypes unambiguous declares (agree.reported _)).1
    exact ihOthers (fun _ inside => within _ (List.mem_cons_of_mem _ inside)) agree₁
      (ihFirst declares (agree.reported _) (described.mono (.reported _) rfl))
  | other =>
    intro _ _ described
    exact (described.mono (.marked _) rfl).mono (.reported _) rfl
  | enumClass opens record exported =>
    intro declares agree described
    have begins := opens.begins agree tagTypes declares
    have begun := described.mono (begins.grows agree) begins.items
    exact (begun.mono (.reported _) rfl).emitted trivial
  | structClass opens record inside exported ih =>
    intro declares agree described
    have begins := opens.begins agree tagTypes declares
    have begun := described.mono (begins.grows agree) begins.items
    have agree₁ := (begins.agree agree tagTypes unambiguous declares).reported
    have inner := ih (within_fieldMentions begins.declares.1) (agree₁ _)
      (begun.mono (.reported _) rfl)
    exact (inner.mono (.reported _) rfl).emitted ⟨begins.declares, exported⟩
  | otherName named fresh renamed kind names tagged known =>
    intro declares agree described
    have grows := ((Exports.otherName named fresh renamed kind names tagged known).agree
      tagTypes unambiguous declares agree).2
    intro item inside
    rcases List.mem_append.mp inside with before | added
    · obtain ⟨earlier, given, describes⟩ := described item before
      exact ⟨earlier, fun known => grows.given (given known), describes⟩
    · rw [List.mem_singleton.mp added]
      exact ⟨{}, (fun known => by cases known), trivial⟩
  | callback named fresh renamed kind names untagged calls inside ih =>
    intro declares agree described
    have untagged := tagOf?_of_untagged kind names untagged
    have agree₁ := (agree.mark tagTypes unambiguous declares named untagged).reported
    have within := within_prototypeMentions
      (reaches_callbackPrototype? (declares.1.underlying names) calls)
    have inner := ih within (agree₁ _) ((described.mono (.marked _) rfl).mono (.reported _) rfl)
    refine ((inner.mono (.reported _) rfl).emitted ?_).mono (.calledBack _ _) rfl
    exact ⟨_, _, _, _, declares, kind, named, names, calls, rfl⟩
  | plain named fresh renamed kind names untagged uncalled inside quiet ih =>
    intro declares agree described
    have untagged := tagOf?_of_untagged kind names untagged
    have agree₁ := agree.mark tagTypes unambiguous declares named untagged
    have inner := ih (within_mentions (declares.1.underlying names)) agree₁
      (described.mono (.marked _) rfl)
    exact inner.mono (.reported _) rfl

section

variable (coherent : job.header.Coherent root) (unambiguous : job.header.Unambiguous root)

include coherent unambiguous

theorem Step.describedEarlier (step : job.Step root s s') (sound : job.Sound root s)
    (described : job.DescribedEarlier root s) : job.DescribedEarlier root s' := by
  have grows := (step.sound coherent.tagTypes unambiguous sound).2
  cases step with
  | exports within exports =>
    exact exports.describedEarlier coherent.tagTypes unambiguous within sound.agree described
  | wrote frame =>
    refine described.emitted ?_
    rcases frame with rfl | rfl | ⟨cls, rfl⟩ <;> trivial
  | reported | bound | calledBack | called => exact described.mono grows rfl

theorem Steps.describedEarlier (steps : job.Steps root {} s) : job.DescribedEarlier root s := by
  induction steps with
  | refl =>
    intro item inside
    cases inside
  | tail before step ih =>
    have sound := (Steps.sound coherent.tagTypes unambiguous before .start).1
    exact step.describedEarlier coherent unambiguous sound ih

end

/-- An item is settled just when it refers to no structure by its own name. -/
theorem Sound.settled_iff (sound : job.Sound root s) (coherent : job.header.Coherent root)
    (recordsNamed : job.header.RecordsNamed root) (described : job.DescribedEarlier root s)
    {item : Item} (inside : item ∈ s.items) :
    job.Settled root s item ↔ ∀ name, .own name ∉ item.references := by
  constructor
  · rintro ⟨-, refers⟩ name isOwn
    obtain ⟨newName, given, -⟩ := refers _ isOwn
    cases given
  · intro quiet
    obtain ⟨earlier, entries, describes⟩ := described item inside
    have describes := describes.of_entries entries quiet
    refine ⟨describes, fun reference isReference => ?_⟩
    obtain ⟨type, -, reaches, refers⟩ := describes.exists_madeOf isReference
    obtain ⟨part, isVisited, kind, rfl⟩ := (Header.mem_references_resolve true type).mp refers
    have reachesPart := reaches.visited isVisited
    obtain ⟨name, named⟩ := coherent.named_record recordsNamed reachesPart kind
    have marked : name ∈ s.exported := by
      cases known : s.given.find? name with
      | some newName => exact sound.agree.exported_of_given known
      | none =>
        have isOwn : job.header.recordName s.given part = .own name := by
          simp only [Header.recordName, named, known]
        exact absurd (isOwn ▸ isReference) (quiet name)
    obtain ⟨newName, className, tag, given, -, calls⟩ :=
      recordName_of_marked coherent sound.agree reachesPart kind named marked
    exact ⟨newName, given, sound.declared calls⟩

theorem ItemsGiven.of_items (itemsGiven : ItemsGiven s) (items : s₁.items = s.items) :
    ItemsGiven s₁ := by
  intro item inside
  rw [items] at inside
  exact itemsGiven item inside

theorem ItemsGiven.emitted (itemsGiven : ItemsGiven s) {item : Item}
    (quiet : ∀ name, .own name ∉ item.references) : ItemsGiven (s.emitted item) := by
  intro other inside
  rcases List.mem_append.mp inside with before | added
  · exact itemsGiven other before
  · rw [List.mem_singleton.mp added]
    exact quiet

theorem Task.after_follows {id before : DeclId} {mentions : List Mention}
    (follows : job.follows id = mentions) (leads : Relation.ReflTransGen job.Leads before id) :
    Task.After job before (.mentions mentions) :=
  fun mention inside => .tail' leads ⟨mention, follows ▸ inside, rfl⟩

theorem Task.after_opened {id : DeclId} {isOpen : DeclId → Prop} {mentions : List Mention}
    (follows : job.follows id = mentions)
    (after : ∀ before, isOpen before → job.Branches before ∧ Task.After job before (.decl id)) :
    ∀ before, isOpen before ∨ before = id ∧ job.Branches id →
      job.Branches before ∧ Task.After job before (.mentions mentions) := by
  rintro before (opened | ⟨rfl, branches⟩)
  · obtain ⟨branches, leads⟩ := after before opened
    exact ⟨branches, Task.after_follows follows leads.to_reflTransGen⟩
  · exact ⟨branches, Task.after_follows follows .refl⟩

section

variable (coherent : job.header.Coherent root) (grounded : job.header.TypesGrounded root)
  (pointers : job.header.PointeesOfPointers root) (recordsNamed : job.header.RecordsNamed root)
  (unambiguous : job.header.Unambiguous root)
  (acyclic : ∀ id, job.IsPlain id → job.Branches id → ¬ Relation.TransGen job.Leads id id)

include coherent recordsNamed

/-- A callback refers to given names once what its prototype mentions has been exported. -/
theorem NamesAgree.callback_quiet (agree : job.NamesAgree root s) {underlying prototype : CType}
    {name comment : Option String} (reaches : job.header.Reaches root (.type underlying))
    (calls : callbackPrototype? underlying = some prototype)
    (covers : Covers s (job.header.prototypeMentions prototype)) (own : String) :
    .own own ∉ (job.header.bindPrototype s.given prototype name comment).references := by
  intro isOwn
  obtain ⟨part, isPart, refers⟩ := Header.mem_references_bindPrototype.mp isOwn
  rw [List.mem_append, Option.mem_toList] at isPart
  have isCanonical := isCanonical_callbackPrototype? coherent reaches calls
  have reachesPart := (reaches_callbackPrototype? reaches calls).part
    (isPart.elim CType.mem_parts_result CType.mem_parts_argument)
  obtain ⟨_, _, _, _, given, -⟩ := given_of_reference coherent agree recordsNamed reachesPart
    (fun _ looks => marked_of_looksUp_prototype isCanonical covers isPart looks) refers
  cases given

include grounded pointers

/-- The fields of a class refer to given names once what they mention has been exported, if they
    lead to no type definition whose export is half done. -/
theorem NamesAgree.fields_quiet (agree : job.NamesAgree root s) {id : DeclId} {fields : List Field}
    {members : DeclId → Prop} (explored : job.Explored root members s)
    (reaches : job.header.Reaches root (.decl id))
    (knows : Knows members s (job.fieldMentions id))
    (become : List.Forall₂ (job.BecomesField s.given) (job.childrenOfKind .field id) fields)
    (own : String) :
    .own own ∉ fields.flatMap fun field => field.type.toList.flatMap (·.references) := by
  intro isOwn
  obtain ⟨decl, isField, type, ownType, refers⟩ := exists_type_of_fields become isOwn
  obtain ⟨child, rfl, reachesChild⟩ := reaches_of_mem_childrenOfKind reaches isField
  have reachesType := reachesChild.ownType ownType
  have knowsType : Knows members s (job.header.mentions type) := by
    intro mention inside
    exact knows mention (List.mem_flatMap.mpr
      ⟨type, List.mem_filterMap.mpr ⟨_, isField, ownType⟩, inside⟩)
  obtain ⟨_, _, _, _, given, -⟩ := given_of_reference coherent agree recordsNamed reachesType
    (fun _ looks => marked_of_looksUp agree explored coherent (coherent.typesUnfolded grounded)
      pointers reachesType knowsType looks) refers
  cases given

include unambiguous acyclic

/-- Where no plain type definition that branches leads back to itself, exports write no item that
    refers to a structure by its own name: what is half exported leads to the item, so the item does
    not lead to it. -/
theorem Exports.itemsGiven {task : Task} (exports : job.Exports task s s') :
    ∀ isOpen : DeclId → Prop, (∀ id, isOpen id → job.Branches id ∧ task.After job id) →
      task.Within job.header root → job.NamesAgree root s →
        job.ClosedAwaiting root isOpen (task.awaited job.header) s →
          ItemsGiven s → ItemsGiven s' := by
  have tagTypes := coherent.tagTypes
  induction exports with
  | done | known => exact fun _ _ _ _ _ itemsGiven => itemsGiven
  | next named first others ihFirst ihOthers =>
    intro isOpen after within agree closed itemsGiven
    have declares := within _ List.mem_cons_self
    have agree₁ := (first.agree tagTypes unambiguous declares (agree.reported _)).1
    have closed₀ := (closed.first named).same rfl
    have closed₁ :=
      first.closedExcept tagTypes unambiguous isOpen declares (agree.reported _) closed₀
    refine ihOthers isOpen
      (fun id opened => (after id opened).imp_right fun after _ inside => after _ (.tail _ inside))
      (fun _ inside => within _ (.tail _ inside)) agree₁ (closed₁.awaiting _) ?_
    exact ihFirst isOpen
      (fun id opened => (after id opened).imp_right fun after => after _ List.mem_cons_self)
      declares (agree.reported _) closed₀ itemsGiven
  | other => exact fun _ _ _ _ _ itemsGiven => itemsGiven
  | enumClass opens =>
    intro isOpen after declares agree closed itemsGiven
    exact (itemsGiven.of_items opens.items).emitted fun _ isOwn => by cases isOwn
  | @structClass id _ _ s₂ opening _ opens record inside become ih =>
    intro isOpen after declares agree closed itemsGiven
    have begins := opens.begins agree tagTypes declares
    have agree₁ := (begins.agree agree tagTypes unambiguous declares).reported
    have closed₁ := begins.closedExcept agree tagTypes unambiguous declares closed
    have within := within_fieldMentions begins.declares.1
    have follows : job.follows id = job.fieldMentions opening.target := by
      rw [Job.follows, begins.tag]
    have awaiting := closed₁.awaiting
      (Task.awaited job.header (.mentions (job.fieldMentions opening.target)))
    have inner := ih isOpen
      (fun _ opened => (after _ opened).imp_right fun leads =>
        Task.after_follows follows leads.to_reflTransGen)
      within (agree₁ _) (awaiting.same rfl) (itemsGiven.of_items begins.items)
    have agree₂ := (inside.agree tagTypes unambiguous within (agree₁ _)).1
    have closed₂ := inside.closedExcept tagTypes unambiguous isOpen within (agree₁ _)
      (awaiting.same rfl)
    have explored : job.Explored root (Relation.TransGen job.Leads id) s₂ :=
      { follows := fun _ leads _ _ mention inside => leads.tail ⟨mention, inside, rfl⟩
        closed := fun other leads declaresOther isPlain =>
          (closed₂ declaresOther isPlain).resolve_left fun opened =>
            acyclic other isPlain (after other opened).1 ((after other opened).2.trans leads) }
    have knows : Knows (Relation.TransGen job.Leads id) s₂ (job.fieldMentions opening.target) :=
      fun mention isMention =>
        ⟨.single ⟨mention, follows ▸ isMention, rfl⟩, inside.covers mention isMention⟩
    refine ItemsGiven.emitted (inner.of_items rfl) ?_
    exact agree₂.fields_quiet coherent grounded pointers recordsNamed explored begins.declares.1
      knows become
  | otherName =>
    intro isOpen after declares agree closed itemsGiven
    exact ItemsGiven.emitted (itemsGiven.of_items rfl) fun _ isOwn => by cases isOwn
  | callback named fresh renamed kind names untagged calls inside ih =>
    intro isOpen after declares agree closed itemsGiven
    have untagged := tagOf?_of_untagged kind names untagged
    have agree₁ := (agree.mark tagTypes unambiguous declares named untagged).reported
    have reaches := declares.1.underlying names
    have within := within_prototypeMentions (reaches_callbackPrototype? reaches calls)
    have follows := follows_callback names untagged calls
    have narrowed := (closed.mark tagTypes unambiguous declares named).narrow
    rw [follows] at narrowed
    have inner := ih _ (Task.after_opened follows after) within (agree₁ _) (narrowed.same rfl)
      itemsGiven
    have agree₂ := (inside.agree tagTypes unambiguous within (agree₁ _)).1
    refine ItemsGiven.of_items (ItemsGiven.emitted (inner.of_items rfl) ?_) rfl
    exact agree₂.callback_quiet coherent recordsNamed reaches calls inside.covers
  | plain named fresh renamed kind names untagged uncalled inside quiet ih =>
    intro isOpen after declares agree closed itemsGiven
    have untagged := tagOf?_of_untagged kind names untagged
    have agree₁ := agree.mark tagTypes unambiguous declares named untagged
    have follows := follows_plain names untagged uncalled
    have narrowed := (closed.mark tagTypes unambiguous declares named).narrow
    rw [follows] at narrowed
    exact ih _ (Task.after_opened follows after) (within_mentions (declares.1.underlying names))
      agree₁ narrowed itemsGiven

theorem Steps.itemsGiven (steps : job.Steps root {} s) : ItemsGiven s := by
  induction steps with
  | refl =>
    intro item inside
    cases inside
  | tail before step ih =>
    have sound := (Steps.sound coherent.tagTypes unambiguous before .start).1
    cases step with
    | exports within exports =>
      exact exports.itemsGiven coherent grounded pointers recordsNamed unambiguous acyclic
        (fun _ => False) (fun _ opened => opened.elim) within sound.agree
        (sound.closed.awaiting _) ih
    | wrote frame =>
      refine ih.emitted fun name isOwn => ?_
      rcases frame with rfl | rfl | ⟨cls, rfl⟩ <;> cases isOwn
    | reported | bound | calledBack | called => exact ih.of_items rfl

end

theorem MembersClosed.quiet (closed : MembersClosed s) (name : String) :
    .own name ∉ s.memberReferences := by
  intro isOwn
  rcases List.mem_append.mp isOwn with isCall | isCallback
  · obtain ⟨entry, inside, refers⟩ := List.mem_flatMap.mp isCall
    obtain ⟨_, given, -⟩ := closed.1 entry inside _ refers
    cases given
  · obtain ⟨entry, inside, refers⟩ := List.mem_flatMap.mp isCallback
    obtain ⟨inside, unnamed⟩ := List.mem_filter.mp inside
    obtain ⟨_, given, -⟩ := closed.2 entry inside (Option.isNone_iff_eq_none.mp unnamed) _ refers
    cases given

/-- A successful run logged no error just when every item is what its declaration comes to under the
    names that are given in the end, and refers to declared names only, and no member of the library
    class refers to a structure by its own name. Where unfolding ends and only pointers have a
    pointee, members never do; and items do not, either, if no plain type definition that branches
    leads back to itself. -/
theorem items_settled (coherent : job.header.Coherent root)
    (recordsNamed : job.header.RecordsNamed root) (unambiguous : job.header.Unambiguous root)
    {className : String} (run : (job.exportHeader className root).Succeeds {} () s) :
    ((∀ item ∈ s.items, job.Settled root s item) ∧ (∀ name, .own name ∉ s.memberReferences) ↔
        ¬ Log.HasError s.log) ∧
      (job.header.TypesGrounded root → job.header.PointeesOfPointers root →
        ((∀ item ∈ s.items, job.Settled root s item) ↔ ¬ Log.HasError s.log) ∧
        ((∀ id, job.IsPlain id → job.Branches id → ¬ Relation.TransGen job.Leads id id) →
          ∀ item ∈ s.items, job.Settled root s item)) := by
  have steps := steps_of_exportHeader run
  have sound := (Steps.sound coherent.tagTypes unambiguous steps .start).1
  have described := steps.describedEarlier coherent unambiguous
  have tells : Log.HasError s.log ↔ ∃ name, .own name ∈ s.references := steps.errorsTell
  have settled : (∀ item ∈ s.items, job.Settled root s item) ↔ ItemsGiven s :=
    forall₂_congr fun item inside => sound.settled_iff coherent recordsNamed described inside
  have quiet : ItemsGiven s ∧ (∀ name, .own name ∉ s.memberReferences) ↔ ¬ Log.HasError s.log := by
    rw [tells, not_exists]
    simp only [Progress.references, List.mem_append, List.mem_flatMap, not_or, forall_and,
      not_exists, not_and]
    exact and_congr_left' ⟨fun given name item inside => given item inside name,
      fun given item inside name => given name item inside⟩
  refine ⟨by rw [settled, quiet], fun grounded pointers => ⟨?_, fun acyclic => ?_⟩⟩
  · have closed := Steps.membersClosed coherent grounded pointers recordsNamed unambiguous steps
      .start .start
    rw [settled, ← quiet, and_iff_left closed.quiet]
  · rw [settled]
    exact steps.itemsGiven coherent grounded pointers recordsNamed unambiguous acyclic

end Job

namespace CallbackCycle

/-- The class of the first structure is written while the callback is half exported, so it refers to
    the second structure by its own name. -/
theorem exists_unsettled : ∃ item ∈ exported.items, ¬ job.Settled 0 exported item := by
  have references : exported.items.map (·.references) =
      [[], [], [.given "X_A", .own "B"], [],
        [.given "X_A", .given "X_B", .given "X_A", .given "X_B"], []] := by cbv
  have inside : [.given "X_A", .own "B"] ∈ exported.items.map (·.references) := by
    simp [references]
  obtain ⟨item, written, same⟩ := List.mem_map.mp inside
  refine ⟨item, written, fun settled => ?_⟩
  obtain ⟨name, given, -⟩ := settled.2 (.own "B") (by simp [same])
  cases given

/-- In a coherent header with unambiguous names, where every structure has a name, a successful run
    may still write the class of a structure that refers to another one by its own name. -/
theorem items_unsettled :
    job.header.Coherent 0 ∧ job.header.RecordsNamed 0 ∧ job.header.Unambiguous 0 ∧
      job.header.TypesGrounded 0 ∧ job.header.PointeesOfPointers 0 ∧
      (job.exportHeader "Lib" 0).Succeeds {} () exported ∧
      ∃ item ∈ exported.items, ¬ job.Settled 0 exported item :=
  ⟨coherent, recordsNamed, unambiguous, grounded, pointers, run, exists_unsettled⟩

/-- The run logs an error, and some plain type definition leads back to itself. -/
theorem hasError_log :
    Log.HasError exported.log ∧
      ∃ id, job.IsPlain id ∧ job.Branches id ∧ Relation.TransGen job.Leads id id := by
  obtain ⟨item, written, unsettled⟩ := exists_unsettled
  have noneSettled : ¬ ∀ item ∈ exported.items, job.Settled 0 exported item :=
    fun settled => unsettled (settled item written)
  obtain ⟨-, ofHeader⟩ := Job.items_settled coherent recordsNamed unambiguous run
  obtain ⟨told, acyclic⟩ := ofHeader grounded pointers
  constructor
  · exact not_not.mp fun noError => noneSettled (told.mpr noError)
  · have cyclic : ¬ ∀ id, job.IsPlain id → job.Branches id →
        ¬ Relation.TransGen job.Leads id id :=
      fun noCycle => noneSettled (acyclic noCycle)
    push Not at cyclic
    exact cyclic

end CallbackCycle

end HeaderBindings
