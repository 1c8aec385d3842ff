import HeaderBindings.Proofs.Export.Derivation
import HeaderBindings.Proofs.Header.Coherence

/-!
# The names that an export gives

Three things that an export keeps have to agree: the names that it marked, the names that it gave,
and the classes of structures and enumerations. They do so before every step, even while a class is
only half written.
-/

namespace HeaderBindings

namespace Progress

/-- Nothing that was marked, given, classed or written in the first progress is taken back in the
    second. -/
structure Extends (s s' : Progress) : Prop where
  exported : ∀ {name : String}, name ∈ s.exported → name ∈ s'.exported
  given : ∀ {name newName : String}, s.given.find? name = some newName →
    s'.given.find? name = some newName
  classes : ∀ {id : DeclId} {className : String}, s.classes.find? id = some className →
    s'.classes.find? id = some className
  items : ∀ {item : Item}, item ∈ s.items → item ∈ s'.items

namespace Extends

variable {s s₁ s₂ : Progress}

theorem refl (s : Progress) : s.Extends s :=
  ⟨id, id, id, id⟩

theorem trans (first : s.Extends s₁) (second : s₁.Extends s₂) : s.Extends s₂ where
  exported marked := second.exported (first.exported marked)
  given known := second.given (first.given known)
  classes known := second.classes (first.classes known)
  items written := second.items (first.items written)

theorem of_same (given : s₁.given = s.given) (classes : s₁.classes = s.classes)
    (exported : ∀ name ∈ s.exported, name ∈ s₁.exported)
    (items : ∀ item ∈ s.items, item ∈ s₁.items) : s.Extends s₁ where
  exported := exported _
  given known := by rw [given]; exact known
  classes known := by rw [classes]; exact known
  items := items _

theorem reported (records : List Log.Record) : s.Extends (s.reported records) :=
  .of_same rfl rfl (fun _ marked => marked) fun _ written => written

theorem emitted (item : Item) : s.Extends (s.emitted item) :=
  .of_same rfl rfl (fun _ marked => marked) fun _ => List.mem_append_left _

theorem marked (name : String) : s.Extends (s.marked name) :=
  .of_same rfl rfl (fun _ => List.mem_cons_of_mem _) fun _ written => written

theorem calledBack (name : String) (binding : Binding) : s.Extends (s.calledBack name binding) :=
  .of_same rfl rfl (fun _ marked => marked) fun _ written => written

end Extends

end Progress

namespace Job

variable (job : Job) (root : DeclId)

/-- A source name was given the name of a class, or another name for it. -/
structure Calls (s : Progress) (name newName className : String) (tag : DeclId) : Prop where
  given : s.given.find? name = some newName
  classed : s.classes.find? tag = some className
  declared : newName = className ∨ ∃ comment, Item.alias newName className comment ∈ s.items
  own : (job.header.decl tag).properName? = some name → newName = className
  renamed : job.names.apply name = .ok newName ∨ (job.header.decl tag).properName? = some name

/-- The marked names, the given names and the classes agree. -/
structure NamesAgree (s : Progress) : Prop where
  exported_of_given : ∀ {name newName : String}, s.given.find? name = some newName →
    name ∈ s.exported
  standsFor_of_given : ∀ {name newName : String}, s.given.find? name = some newName →
    ∃ tag, job.header.StandsFor root name tag
  calls : ∀ {name : String} {tag : DeclId}, name ∈ s.exported →
    job.header.StandsFor root name tag →
      ∃ newName className, job.Calls s name newName className tag
  exported_of_classes : ∀ {tag : DeclId} {name className : String},
    s.classes.find? tag = some className → (job.header.decl tag).properName? = some name →
      name ∈ s.exported
  tag_of_classes : ∀ {tag : DeclId} {className : String}, s.classes.find? tag = some className →
    job.header.DeclaresType root tag ∧ job.header.tagOf? tag = some tag

/-- What it comes to that an export begins a class. -/
structure Begins (id : DeclId) (s : Progress) (opening : Opening) (s₁ : Progress) : Prop where
  kind : (job.header.decl opening.target).kind = if opening.record then .struct else .enum
  declares : job.header.DeclaresType root opening.target
  tag : job.header.tagOf? id = some opening.target
  renamed : ∃ name, (job.header.decl id).properName? = some name ∧
    job.names.apply name = .ok opening.newName
  unclassed : s.classes.find? opening.target = none
  classes : s₁.classes = s.classes.set opening.target opening.newName
  items : s₁.items = s.items
  /-- The names that are marked and given are those of the declaration and of its tag. -/
  isNew : ∀ {name : String}, (job.header.decl id).properName? = some name ∨
    (job.header.decl opening.target).properName? = some name →
      name ∉ s.exported ∧ name ∈ s₁.exported ∧ s₁.given.find? name = some opening.newName
  isOld : ∀ {name : String}, ¬ ((job.header.decl id).properName? = some name ∨
    (job.header.decl opening.target).properName? = some name) →
      (name ∈ s₁.exported ↔ name ∈ s.exported) ∧ s₁.given.find? name = s.given.find? name

variable {job root} {s s₁ s' : Progress}

theorem Calls.extends {name newName className : String} {tag : DeclId}
    (calls : job.Calls s name newName className tag) (grows : s.Extends s₁) :
    job.Calls s₁ name newName className tag where
  given := grows.given calls.given
  classed := grows.classes calls.classed
  declared := calls.declared.imp_right fun ⟨comment, written⟩ => ⟨comment, grows.items written⟩
  own := calls.own
  renamed := calls.renamed

namespace NamesAgree

theorem start : job.NamesAgree root {} where
  exported_of_given known := by cases known
  standsFor_of_given known := by cases known
  calls marked := by cases marked
  exported_of_classes known := by cases known
  tag_of_classes known := by cases known

theorem of_same (agree : job.NamesAgree root s) (grows : s.Extends s₁)
    (given : s₁.given = s.given) (classes : s₁.classes = s.classes)
    (exported : ∀ name ∈ s₁.exported, name ∈ s.exported ∨
      ∀ tag, ¬ job.header.StandsFor root name tag) : job.NamesAgree root s₁ where
  exported_of_given known := by
    rw [given] at known
    exact grows.exported (agree.exported_of_given known)
  standsFor_of_given known := by
    rw [given] at known
    exact agree.standsFor_of_given known
  calls marked stands := by
    rcases exported _ marked with before | nothing
    · obtain ⟨newName, className, calls⟩ := agree.calls before stands
      exact ⟨newName, className, calls.extends grows⟩
    · exact absurd stands (nothing _)
  exported_of_classes known named := by
    rw [classes] at known
    exact grows.exported (agree.exported_of_classes known named)
  tag_of_classes known := by
    rw [classes] at known
    exact agree.tag_of_classes known

theorem reported (agree : job.NamesAgree root s) (records : List Log.Record) :
    job.NamesAgree root (s.reported records) :=
  agree.of_same (.reported records) rfl rfl fun _ => .inl

theorem emitted (agree : job.NamesAgree root s) (item : Item) :
    job.NamesAgree root (s.emitted item) :=
  agree.of_same (.emitted item) rfl rfl fun _ => .inl

theorem calledBack (agree : job.NamesAgree root s) (name : String) (binding : Binding) :
    job.NamesAgree root (s.calledBack name binding) :=
  agree.of_same (.calledBack name binding) rfl rfl fun _ => .inl

theorem classes_of_existing? (agree : job.NamesAgree root s) {tag : DeclId} {existing : String}
    (declares : job.header.DeclaresType root tag) (isTag : job.header.tagOf? tag = some tag)
    (known : job.existing? s tag = some existing) : s.classes.find? tag = some existing := by
  unfold existing? at known
  cases classed : s.classes.find? tag with
  | some className =>
    rw [classed, Option.some_or] at known
    exact known
  | none =>
    rw [classed, Option.none_or] at known
    obtain ⟨name, named, known⟩ := Option.bind_eq_some_iff.mp known
    obtain ⟨newName, className, calls⟩ :=
      agree.calls (agree.exported_of_given known) ⟨tag, declares, named, isTag⟩
    have classed' := calls.classed
    rw [classed] at classed'
    cases classed'

end NamesAgree

variable {id : DeclId} {opening : Opening}

/-- A structure or enumeration that begins its own class has no class yet, for its name would be
    marked. -/
theorem Begins.of_tag (agree : job.NamesAgree root s)
    (declares : job.header.DeclaresType root id) {name newName owner : String} {record : Bool}
    {comment : Option String}
    (named : (job.header.decl id).properName? = some name) (fresh : name ∉ s.exported)
    (renamed : job.names.apply name = .ok newName)
    (kind : (job.header.decl id).kind = if record then .struct else .enum) :
    job.Begins root id s ⟨id, record, owner, newName, comment⟩
      (((s.marked name).named name newName).classed id newName) where
  kind := kind
  declares := declares
  tag := Header.tagOf?_self kind
  renamed := ⟨name, named, renamed⟩
  unclassed := by
    cases known : s.classes.find? id with
    | none => rfl
    | some className => exact absurd (agree.exported_of_classes known named) fresh
  classes := rfl
  items := rfl
  isNew := by
    intro other isName
    rw [or_self, named, Option.some.injEq] at isName
    subst isName
    exact ⟨fresh, List.mem_cons_self, by simp [Table.find?_set]⟩
  isOld := by
    intro other noName
    rw [or_self, named, Option.some.injEq] at noName
    exact ⟨by simp [Ne.symm noName], by simp [Table.find?_set, noName]⟩

/-- A type definition that begins the class of what it names marks and gives two names: its own, and
    that of what it names. Neither was marked before: a marked name stands for what it names, and
    would have given it a class. -/
theorem Begins.of_typedef (agree : job.NamesAgree root s) (tagTypes : job.header.TagTypes root)
    (declares : job.header.DeclaresType root id) {name newName owner : String}
    {underlying : CType} {record : Bool} {target : DeclId} {comment : Option String}
    {level : Log.Level} {message : String}
    (named : (job.header.decl id).properName? = some name) (fresh : name ∉ s.exported)
    (renamed : job.names.apply name = .ok newName)
    (kind : (job.header.decl id).kind = .typedef)
    (names : (job.header.decl id).underlying = some underlying)
    (tagged : tagTarget? underlying = some (record, target))
    (unnamed : job.existing? s target = none) :
    job.Begins root id s ⟨target, record, owner, newName, comment⟩
      (((((s.marked name).named name newName).classed target newName).claimed
        (job.header.decl target).properName? newName).said level message) := by
  obtain ⟨declaresTarget, targetKind⟩ := tagTypes.target (declares.1.underlying names) tagged
  have isTag := Header.tagOf?_self targetKind
  obtain ⟨unclassed, ungiven⟩ := Option.or_eq_none_iff.mp unnamed
  have freshTag : ∀ {tag : String}, (job.header.decl target).properName? = some tag →
      tag ∉ s.exported := by
    intro tag namedTag marked
    obtain ⟨_, _, calls⟩ := agree.calls marked ⟨target, declaresTarget, namedTag, isTag⟩
    have classed := calls.classed
    rw [unclassed] at classed
    cases classed
  exact
    { kind := targetKind
      declares := declaresTarget
      tag := by rw [Header.tagOf?_typedef kind names, tagged, Option.map_some]
      renamed := ⟨name, named, renamed⟩
      unclassed := unclassed
      classes := by simp
      items := by simp
      isNew := by
        rintro other (isName | isTagName)
        · rw [named, Option.some.injEq] at isName
          subst isName
          exact ⟨fresh, by simp, by simp [Progress.find?_given_claimed, Table.find?_set]⟩
        · have unmarked := freshTag isTagName
          refine ⟨unmarked, by simp [isTagName], ?_⟩
          by_cases same : name = other
          · simp [Progress.find?_given_claimed, Table.find?_set, same]
          · simp [Progress.find?_given_claimed, isTagName, unmarked, Ne.symm same]
      isOld := by
        intro other noName
        obtain ⟨noName, noTag⟩ := not_or.mp noName
        rw [named, Option.some.injEq] at noName
        exact ⟨by simp [noTag, Ne.symm noName],
          by simp [Progress.find?_given_claimed, Table.find?_set, noTag, noName]⟩ }

theorem Opens.begins (opens : job.Opens id s opening s₁) (agree : job.NamesAgree root s)
    (tagTypes : job.header.TagTypes root) (declares : job.header.DeclaresType root id) :
    job.Begins root id s opening s₁ := by
  cases opens with
  | tag named fresh renamed kind => exact .of_tag agree declares named fresh renamed kind
  | typedef named fresh renamed kind names tagged unnamed =>
    exact .of_typedef agree tagTypes declares named fresh renamed kind names tagged unnamed

namespace Begins

variable (begins : job.Begins root id s opening s₁)

include begins

theorem find?_target : s₁.classes.find? opening.target = some opening.newName := by
  rw [begins.classes, Table.find?_set, if_pos rfl]

theorem find?_other {tag : DeclId} (other : opening.target ≠ tag) :
    s₁.classes.find? tag = s.classes.find? tag := by
  rw [begins.classes, Table.find?_set, if_neg other]

theorem grows (agree : job.NamesAgree root s) : s.Extends s₁ where
  exported {name} marked := by
    by_cases isName : (job.header.decl id).properName? = some name ∨
      (job.header.decl opening.target).properName? = some name
    · exact (begins.isNew isName).2.1
    · exact (begins.isOld isName).1.mpr marked
  given {name newName} known := by
    by_cases isName : (job.header.decl id).properName? = some name ∨
      (job.header.decl opening.target).properName? = some name
    · exact absurd (agree.exported_of_given known) (begins.isNew isName).1
    · rw [(begins.isOld isName).2]
      exact known
  classes {tag className} known := by
    by_cases same : opening.target = tag
    · subst same
      rw [begins.unclassed] at known
      cases known
    · rw [begins.find?_other same]
      exact known
  items written := by
    rw [begins.items]
    exact written

theorem standsFor (declares : job.header.DeclaresType root id) {name : String}
    (isName : (job.header.decl id).properName? = some name ∨
      (job.header.decl opening.target).properName? = some name) :
    job.header.StandsFor root name opening.target := by
  rcases isName with named | named
  · exact ⟨id, declares, named, begins.tag⟩
  · exact ⟨opening.target, begins.declares, named, Header.tagOf?_self begins.kind⟩

theorem agree (agree : job.NamesAgree root s) (tagTypes : job.header.TagTypes root)
    (unambiguous : job.header.Unambiguous root) (declares : job.header.DeclaresType root id) :
    job.NamesAgree root s₁ where
  exported_of_given {name newName} known := by
    by_cases isName : (job.header.decl id).properName? = some name ∨
      (job.header.decl opening.target).properName? = some name
    · exact (begins.isNew isName).2.1
    · obtain ⟨marks, gives⟩ := begins.isOld isName
      rw [gives] at known
      exact marks.mpr (agree.exported_of_given known)
  standsFor_of_given {name newName} known := by
    by_cases isName : (job.header.decl id).properName? = some name ∨
      (job.header.decl opening.target).properName? = some name
    · exact ⟨opening.target, begins.standsFor declares isName⟩
    · rw [(begins.isOld isName).2] at known
      exact agree.standsFor_of_given known
  calls {name tag} marked stands := by
    by_cases isName : (job.header.decl id).properName? = some name ∨
      (job.header.decl opening.target).properName? = some name
    · obtain rfl := tagTypes.standsFor_unique unambiguous stands (begins.standsFor declares isName)
      refine ⟨opening.newName, opening.newName, (begins.isNew isName).2.2, begins.find?_target,
        .inl rfl, fun _ => rfl, ?_⟩
      rcases isName with named | named
      · obtain ⟨own, ownNamed, renamed⟩ := begins.renamed
        rw [named, Option.some.injEq] at ownNamed
        exact .inl (ownNamed ▸ renamed)
      · exact .inr named
    · obtain ⟨newName, className, calls⟩ :=
        agree.calls ((begins.isOld isName).1.mp marked) stands
      exact ⟨newName, className, calls.extends (begins.grows agree)⟩
  exported_of_classes {tag name className} known named := by
    by_cases same : opening.target = tag
    · subst same
      exact (begins.isNew (.inr named)).2.1
    · rw [begins.find?_other same] at known
      exact (begins.grows agree).exported (agree.exported_of_classes known named)
  tag_of_classes {tag className} known := by
    by_cases same : opening.target = tag
    · subst same
      exact ⟨begins.declares, Header.tagOf?_self begins.kind⟩
    · rw [begins.find?_other same] at known
      exact agree.tag_of_classes known

end Begins

namespace NamesAgree

theorem mark (agree : job.NamesAgree root s) (tagTypes : job.header.TagTypes root)
    (unambiguous : job.header.Unambiguous root) (declares : job.header.DeclaresType root id)
    {name : String} (named : (job.header.decl id).properName? = some name)
    (untagged : job.header.tagOf? id = none) : job.NamesAgree root (s.marked name) := by
  refine agree.of_same (.marked name) rfl rfl ?_
  intro other marked
  rcases List.mem_cons.mp marked with rfl | before
  · refine .inr fun tag stands => ?_
    have isTag := (tagTypes.standsFor_iff unambiguous declares named).mp stands
    rw [untagged] at isTag
    cases isTag
  · exact .inl before

theorem otherName (agree : job.NamesAgree root s) (tagTypes : job.header.TagTypes root)
    (unambiguous : job.header.Unambiguous root) (declares : job.header.DeclaresType root id)
    {name newName existing : String} {target : DeclId} {comment : Option String}
    (named : (job.header.decl id).properName? = some name) (fresh : name ∉ s.exported)
    (renamed : job.names.apply name = .ok newName)
    (isTag : job.header.tagOf? id = some target)
    (classed : s.classes.find? target = some existing) {records : List Log.Record} :
    (s.Extends ((((s.marked name).reported records).named name newName).emitted
        (.alias newName existing comment))) ∧
      job.NamesAgree root ((((s.marked name).reported records).named name newName).emitted
        (.alias newName existing comment)) := by
  have grows : s.Extends ((((s.marked name).reported records).named name newName).emitted
      (.alias newName existing comment)) :=
    { exported := List.mem_cons_of_mem _
      given := by
        intro other newName' known
        have marked := agree.exported_of_given known
        have different : name ≠ other := fun same => fresh (same ▸ marked)
        simpa [Table.find?_set, different] using known
      classes := fun known => known
      items := List.mem_append_left _ }
  refine ⟨grows, ?_⟩
  exact
    { exported_of_given := by
        intro other newName' known
        by_cases same : name = other
        · exact same ▸ List.mem_cons_self
        · have before : s.given.find? other = some newName' := by
            simpa [Table.find?_set, same] using known
          exact grows.exported (agree.exported_of_given before)
      standsFor_of_given := by
        intro other newName' known
        by_cases same : name = other
        · exact ⟨target, id, declares, same ▸ named, isTag⟩
        · exact agree.standsFor_of_given (by simpa [Table.find?_set, same] using known)
      calls := by
        intro other tag marked stands
        by_cases same : name = other
        · subst same
          have isTag' := (tagTypes.standsFor_iff unambiguous declares named).mp stands
          rw [isTag, Option.some.injEq] at isTag'
          subst isTag'
          exact ⟨newName, existing, by simp [Table.find?_set], classed,
            .inr ⟨comment, by simp⟩,
            fun own => absurd (agree.exported_of_classes classed own) fresh, .inl renamed⟩
        · have before : other ∈ s.exported := by
            simpa [Ne.symm same] using marked
          obtain ⟨newName', className, calls⟩ := agree.calls before stands
          exact ⟨newName', className, calls.extends grows⟩
      exported_of_classes := fun known own => grows.exported (agree.exported_of_classes known own)
      tag_of_classes := agree.tag_of_classes }

end NamesAgree

/-- What a task is asked for declares types. -/
def Task.Within (header : Header) (root : DeclId) : Task → Prop
  | .decl id => header.DeclaresType root id
  | .mentions list => ∀ mention ∈ list, header.DeclaresType root mention.decl

theorem within_mentions {type : CType} (reaches : job.header.Reaches root (.type type)) :
    Task.Within job.header root (.mentions (job.header.mentions type)) :=
  fun _ isMention => reaches.mention isMention

theorem within_prototypeMentions {prototype : CType}
    (reaches : job.header.Reaches root (.type prototype)) :
    Task.Within job.header root (.mentions (job.header.prototypeMentions prototype)) := by
  intro mention isMention
  obtain ⟨part, isPart, inside⟩ := job.header.mem_prototypeMentions.mp isMention
  exact (reaches.part (isPart.elim CType.mem_parts_result CType.mem_parts_argument)).mention inside

theorem reaches_of_mem_childrenOfKind {kind : DeclKind} {decl : Decl}
    (reaches : job.header.Reaches root (.decl id)) (inside : decl ∈ job.childrenOfKind kind id) :
    ∃ child, job.header.decl child = decl ∧ job.header.Reaches root (.decl child) := by
  obtain ⟨child, isChild, rfl⟩ := List.mem_map.mp (List.mem_of_mem_filter inside)
  exact ⟨child, rfl, reaches.child isChild⟩

theorem within_fieldMentions (reaches : job.header.Reaches root (.decl id)) :
    Task.Within job.header root (.mentions (job.fieldMentions id)) := by
  intro mention isMention
  obtain ⟨type, isType, inside⟩ := List.mem_flatMap.mp isMention
  obtain ⟨decl, isField, own⟩ := List.mem_filterMap.mp isType
  obtain ⟨child, rfl, reachesChild⟩ := reaches_of_mem_childrenOfKind reaches isField
  exact (reachesChild.ownType own).mention inside

theorem reaches_functionPointee? {type prototype : CType}
    (reaches : job.header.Reaches root (.type type))
    (calls : type.functionPointee? = some prototype) :
    job.header.Reaches root (.type prototype) := by
  obtain ⟨-, -, pointee, points, rfl⟩ := CType.functionPointee?_eq_some calls
  exact (reaches.canonical.part (CType.mem_parts_pointee points)).canonical

theorem reaches_callbackPrototype? {type prototype : CType}
    (reaches : job.header.Reaches root (.type type))
    (calls : callbackPrototype? type = some prototype) :
    job.header.Reaches root (.type prototype) := by
  unfold callbackPrototype? at calls
  rcases Option.or_eq_some_iff.mp calls with pointee | ⟨-, function⟩
  · exact reaches_functionPointee? reaches pointee
  · split at function
    · cases function
      exact reaches.canonical
    · cases function

theorem tagOf?_of_untagged {underlying : CType} (kind : (job.header.decl id).kind = .typedef)
    (names : (job.header.decl id).underlying = some underlying)
    (untagged : tagTarget? underlying = none) : job.header.tagOf? id = none := by
  rw [Header.tagOf?_typedef kind names, untagged, Option.map_none]

theorem tagOf?_of_other (kind : (job.header.decl id).kind.declaresType = false) :
    job.header.tagOf? id = none := by
  unfold Header.tagOf? Header.typedefTarget?
  cases own : (job.header.decl id).kind <;> simp_all [DeclKind.declaresType]

/-- Exporting keeps marked names, given names and classes in agreement, and takes nothing back. A
    class is recorded before its fields are exported, so these find all in agreement even if they
    lead back to the structure. -/
theorem Exports.agree {task : Task} (exports : job.Exports task s s')
    (tagTypes : job.header.TagTypes root) (unambiguous : job.header.Unambiguous root) :
    task.Within job.header root → job.NamesAgree root s →
      job.NamesAgree root s' ∧ s.Extends s' := by
  induction exports with
  | done =>
    intro _ agree
    exact ⟨agree, .refl _⟩
  | next named first others ihFirst ihOthers =>
    intro within agree
    obtain ⟨agree₁, grows₁⟩ := ihFirst (within _ List.mem_cons_self) (agree.reported _)
    obtain ⟨agree₂, grows₂⟩ :=
      ihOthers (fun _ inside => within _ (List.mem_cons_of_mem _ inside)) agree₁
    exact ⟨agree₂, ((Progress.Extends.reported _).trans grows₁).trans grows₂⟩
  | known named known =>
    intro _ agree
    exact ⟨agree, .refl _⟩
  | other named fresh renamed kind =>
    intro declares agree
    have marked := agree.mark tagTypes unambiguous declares named (tagOf?_of_other kind)
    exact ⟨marked.reported _, (Progress.Extends.marked _).trans (.reported _)⟩
  | enumClass opens record exported =>
    intro declares agree
    have begins := opens.begins agree tagTypes declares
    exact ⟨((begins.agree agree tagTypes unambiguous declares).reported _).emitted _,
      ((begins.grows agree).trans (.reported _)).trans (.emitted _)⟩
  | structClass opens record inside exported ih =>
    intro declares agree
    have begins := opens.begins agree tagTypes declares
    obtain ⟨agree₂, grows₂⟩ := ih (within_fieldMentions begins.declares.1)
      ((begins.agree agree tagTypes unambiguous declares).reported _)
    exact ⟨(agree₂.reported _).emitted _,
      ((((begins.grows agree).trans (.reported _)).trans grows₂).trans (.reported _)).trans
        (.emitted _)⟩
  | otherName named fresh renamed kind names tagged known =>
    intro declares agree
    obtain ⟨declaresTarget, targetKind⟩ := tagTypes.target (declares.1.underlying names) tagged
    have classed :=
      agree.classes_of_existing? declaresTarget (Header.tagOf?_self targetKind) known
    have isTag := Header.tagOf?_typedef kind names
    rw [tagged, Option.map_some] at isTag
    exact (agree.otherName tagTypes unambiguous declares named fresh renamed isTag classed).symm
  | callback named fresh renamed kind names untagged calls inside ih =>
    intro declares agree
    have marked := agree.mark tagTypes unambiguous declares named
      (tagOf?_of_untagged kind names untagged)
    obtain ⟨agree₁, grows₁⟩ := ih
      (within_prototypeMentions (reaches_callbackPrototype? (declares.1.underlying names) calls))
      (marked.reported _)
    exact ⟨((agree₁.reported _).emitted _).calledBack _ _,
      (((((Progress.Extends.marked _).trans (.reported _)).trans grows₁).trans
        (.reported _)).trans (.emitted _)).trans (.calledBack _ _)⟩
  | plain named fresh renamed kind names untagged uncalled inside quiet ih =>
    intro declares agree
    have marked := agree.mark tagTypes unambiguous declares named
      (tagOf?_of_untagged kind names untagged)
    obtain ⟨agree₁, grows₁⟩ := ih (within_mentions (declares.1.underlying names)) marked
    exact ⟨agree₁.reported _, ((Progress.Extends.marked _).trans grows₁).trans (.reported _)⟩

end Job

end HeaderBindings
