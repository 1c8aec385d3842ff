import HeaderBindings.Proofs.Export.Namesakes

/-!
# Tags that are declared more than once

Several structures or enumerations of a header may stand for declarations of one tag and have its
name. The one that an export comes to first gets the class, with all members of its own, and no
other one gets a class after it: when one of them has a class, their name is given, and a given name
is neither exported again nor taken by a type definition.
-/

namespace HeaderBindings

namespace Header

variable (header : Header) (root : DeclId)

/-- Structures and enumerations have one name, and share it with no other type declaration, except
    for type definitions of them. -/
structure ShareName (name : String) (tags : DeclId → Prop) : Prop where
  named : ∀ ⦃id : DeclId⦄, tags id → (header.decl id).properName? = some name
  isTag : ∀ ⦃id : DeclId⦄, tags id → header.tagOf? id = some id
  namesakes : ∀ ⦃other : DeclId⦄, header.DeclaresType root other →
    (header.decl other).properName? = some name →
      tags other ∨ ∃ tag, header.typedefTarget? other = some tag ∧ tags tag

/-- A type of an enumeration is declared by one, and a type of a structure by anything that is no
    enumeration and no type definition. -/
structure TypesFit : Prop where
  record : ∀ ⦃type : CType⦄ ⦃id : DeclId⦄, header.Reaches root (.type type) →
    type.kind = .record → type.declaration = some id →
      (header.decl id).kind ≠ .enum ∧ (header.decl id).kind ≠ .typedef
  enum : ∀ ⦃type : CType⦄ ⦃id : DeclId⦄, header.Reaches root (.type type) →
    type.kind = .enum → type.declaration = some id → (header.decl id).kind = .enum

variable {header root}

theorem TypesFit.target_kind (fit : header.TypesFit root) {id target : DeclId}
    {underlying : CType} {record : Bool} (declares : header.DeclaresType root id)
    (names : (header.decl id).underlying = some underlying)
    (tagged : Job.tagTarget? underlying = some (record, target)) :
    if record then (header.decl target).kind ≠ .enum ∧ (header.decl target).kind ≠ .typedef
    else (header.decl target).kind = .enum := by
  obtain ⟨kind, declared⟩ := tagTarget?_eq_some tagged
  have reaches := (declares.1.underlying names).canonical
  cases record with
  | true => exact fit.record reaches kind declared
  | false => exact fit.enum reaches kind declared

theorem TypesFit.targetsAreTags (fit : header.TypesFit root) : header.TargetsAreTags root := by
  intro id target declares isTarget
  obtain ⟨-, underlying, record, names, tagged⟩ := exists_of_typedefTarget? isTarget
  have kind := fit.target_kind declares names tagged
  cases record with
  | true => exact kind.2
  | false => simp [show (header.decl target).kind = .enum from kind]

/-- A declaration that is no structure or enumeration and names none has another name. -/
theorem ShareName.ne_of_untagged {name own : String} {tags : DeclId → Prop} {id : DeclId}
    (share : header.ShareName root name tags) (declares : header.DeclaresType root id)
    (named : (header.decl id).properName? = some own) (untagged : header.tagOf? id = none) :
    own ≠ name := by
  rintro rfl
  rcases share.namesakes declares named with isOne | ⟨tag, isTarget, -⟩
  · rw [share.isTag isOne] at untagged
    cases untagged
  · obtain ⟨kind, -⟩ := exists_of_typedefTarget? isTarget
    simp only [tagOf?, kind, isTarget] at untagged
    cases untagged

end Header

namespace Job

variable {job : Job} {root : DeclId} {name : String} {tags : DeclId → Prop} {s s₁ s' : Progress}

/-! ## One class for a tag -/

/-- The name of a tag is given once it is marked, and at most one declaration of the tag has a
    class. -/
structure HasOneClass (job : Job) (name : String) (tags : DeclId → Prop) (s : Progress) : Prop where
  namesMarked : job.NamesMarked s
  given : name ∈ s.exported → s.given.find? name ≠ none
  unique : ∀ ⦃id other : DeclId⦄, tags id → tags other → s.classes.find? id ≠ none →
    s.classes.find? other ≠ none → id = other

namespace HasOneClass

variable (one : job.HasOneClass name tags s)

include one

theorem of_same (exported : s₁.exported = s.exported) (given : s₁.given = s.given)
    (classes : s₁.classes = s.classes) : job.HasOneClass name tags s₁ where
  namesMarked := one.namesMarked.of_same given classes fun _ isMarked => exported ▸ isMarked
  given isMarked := given ▸ one.given (exported ▸ isMarked)
  unique := classes ▸ one.unique

/-- Marking another name changes nothing for the tag. -/
theorem marked {own : String} (other : own ≠ name) : job.HasOneClass name tags (s.marked own) where
  namesMarked := one.namesMarked.of_same rfl rfl fun _ => List.mem_cons_of_mem _
  given isMarked := one.given ((List.mem_cons.mp isMarked).resolve_left (Ne.symm other))
  unique := one.unique

/-- While the name of the tag is not marked, none of its declarations has a class. -/
theorem unclassed (named : ∀ ⦃id : DeclId⦄, tags id → (job.header.decl id).properName? = some name)
    (fresh : name ∉ s.exported) {id : DeclId} (isOne : tags id) : s.classes.find? id = none := by
  cases classed : s.classes.find? id with
  | none => rfl
  | some className => exact absurd (one.namesMarked.classes classed (named isOne)) fresh

end HasOneClass

section

variable {id : DeclId} {opening : Opening} (opens : job.Opens id s opening s₁)
  (one : job.HasOneClass name tags s)

include opens one

/-- The name of what gets a class is given by that. -/
theorem Opens.given_of_named (named : (job.header.decl id).properName? = some name ∨
    (job.header.decl opening.target).properName? = some name) : s₁.given.find? name ≠ none := by
  cases opens with
  | tag own =>
    have same := own.symm.trans ((or_self_iff).mp named)
    cases same
    simp [Table.find?_set]
  | @typedef own newName underlying record target ownNamed fresh =>
    by_cases same : own = name
    · simp [Progress.find?_given_claimed, Table.find?_set, same]
    · have ofTag : (job.header.decl target).properName? = some name :=
        named.resolve_left fun named => same (Option.some.inj (ownNamed.symm.trans named))
      by_cases isMarked : name ∈ s.exported
      · have before := one.given isMarked
        simpa [Progress.find?_given_claimed, Table.find?_set, same, isMarked] using before
      · simp [Progress.find?_given_claimed, ofTag, isMarked, Ne.symm same]

/-- A class is begun for a declaration of the tag only while its name is not marked. -/
theorem Opens.fresh_of_target
    (named : (job.header.decl opening.target).properName? = some name) : name ∉ s.exported := by
  cases opens with
  | tag own fresh =>
    have same := own.symm.trans named
    cases same
    exact fresh
  | typedef _ _ _ _ _ _ unnamed =>
    intro isMarked
    have free := (Option.or_eq_none_iff.mp unnamed).2
    rw [named, Option.bind_some] at free
    exact one.given isMarked free

/-- Of two declarations with a class for one name, one may be that for which the class was just
    begun; then it is the other as well. -/
theorem Opens.hasOneClass
    (named : ∀ ⦃id : DeclId⦄, tags id → (job.header.decl id).properName? = some name) :
    job.HasOneClass name tags s₁ where
  namesMarked := opens.namesMarked one.namesMarked
  given isMarked := by
    rcases opens.mem_exported.mp isMarked with before | isNew
    · rw [opens.given_of_marked before]
      exact one.given before
    · exact opens.given_of_named one isNew
  unique := by
    have begun {id other : DeclId} (isOther : tags other) (isTarget : opening.target = id)
        (isOne : tags id) (classed : s₁.classes.find? other ≠ none) : id = other := by
      subst isTarget
      by_contra different
      rw [opens.classes, Table.find?_set, if_neg different] at classed
      have fresh := opens.fresh_of_target one (named isOne)
      exact classed (one.unclassed named fresh isOther)
    intro id other isOne isOther classed classedOther
    by_cases isTarget : opening.target = id
    · exact begun isOther isTarget isOne classedOther
    · by_cases isOtherTarget : opening.target = other
      · exact (begun isOne isOtherTarget isOther classed).symm
      · rw [opens.classes, Table.find?_set, if_neg isTarget] at classed
        rw [opens.classes, Table.find?_set, if_neg isOtherTarget] at classedOther
        exact one.unique isOne isOther classed classedOther

end

/-- An export leaves the declarations of a tag with at most one class. -/
theorem Exports.hasOneClass (share : job.header.ShareName root name tags) {task : Task}
    (exports : job.Exports task s s') : task.Among (job.header.DeclaresType root) →
      job.HasOneClass name tags s → job.HasOneClass name tags s' := by
  have closed : job.ClosedUnderExport (job.header.DeclaresType root) :=
    closedUnderExport_declaresType
  induction exports with
  | done | known => exact fun _ one => one
  | next named first others ihFirst ihOthers =>
    intro among one
    have one₁ := ihFirst (among _ List.mem_cons_self) (one.of_same rfl rfl rfl)
    exact ihOthers (fun _ inside => among _ (List.mem_cons_of_mem _ inside)) one₁
  | other named fresh renamed kind =>
    intro declares one
    have other := share.ne_of_untagged declares named (tagOf?_of_other kind)
    exact (one.marked other).of_same rfl rfl rfl
  | enumClass opens record exported =>
    exact fun _ one => (opens.hasOneClass one share.named).of_same rfl rfl rfl
  | structClass opens record inside exported ih =>
    intro declares one
    have begun := opens.hasOneClass one share.named
    have among := opens.among_fields closed declares record
    exact (ih among (begun.of_same rfl rfl rfl)).of_same rfl rfl rfl
  | @otherName id own newName existing underlying record target s named fresh =>
    intro declares one
    refine ⟨(one.namesMarked.otherName fresh).1, fun isMarked => ?_, one.unique⟩
    by_cases same : own = name
    · simp [Table.find?_set, same]
    · have before := one.given ((List.mem_cons.mp isMarked).resolve_left (Ne.symm same))
      simpa [Table.find?_set, same] using before
  | callback named fresh renamed kind names untagged calls inside ih =>
    intro declares one
    have other := share.ne_of_untagged declares named (tagOf?_of_untagged kind names untagged)
    have among := closed.callback declares kind names untagged calls
    exact (ih among ((one.marked other).of_same rfl rfl rfl)).of_same rfl rfl rfl
  | plain named fresh renamed kind names untagged uncalled inside quiet ih =>
    intro declares one
    have other := share.ne_of_untagged declares named (tagOf?_of_untagged kind names untagged)
    have among := closed.uncalled declares kind names untagged uncalled
    exact (ih among (one.marked other)).of_same rfl rfl rfl

theorem Performs.hasOneClass (share : job.header.ShareName root name tags) {tasks : List Task}
    (performs : job.Performs tasks s s')
    (among : ∀ task ∈ tasks, task.Among (job.header.DeclaresType root))
    (one : job.HasOneClass name tags s) : job.HasOneClass name tags s' := by
  induction performs with
  | nil => exact one
  | between same _ ih => exact ih among (one.of_same same.exported same.given same.classes)
  | task first _ ih =>
    obtain ⟨amongFirst, amongRest⟩ := List.forall_mem_cons.mp among
    exact ih amongRest (first.hasOneClass share amongFirst one)

/-- When the name of a tag is marked, a declaration of the tag has a class. -/
theorem MarkOrigin.exists_classed (origin : job.MarkOrigin (job.header.DeclaresType root) s name)
    (targets : job.header.TargetsAreTags root) (share : job.header.ShareName root name tags) :
    ∃ id className, tags id ∧ s.classes.find? id = some className := by
  obtain ⟨other, was, named | ⟨tag, className, isTag, named, classed⟩⟩ := origin
  · rcases share.namesakes was.isMember named with isOne | ⟨tag, isTarget, isOne⟩
    · obtain ⟨className, classed⟩ := was.classed_self (share.isTag isOne)
      exact ⟨other, className, isOne, classed⟩
    · obtain ⟨className, classed⟩ := was.classed_of_namesake isTarget named (share.named isOne)
      exact ⟨tag, className, isOne, classed⟩
  · obtain ⟨declaresTag, noTypedef⟩ := kind_of_tagOf? targets was.isMember isTag
    rcases share.namesakes declaresTag named with isOne | ⟨_, isTarget, -⟩
    · exact ⟨tag, className, isOne, classed⟩
    · exact absurd (Header.exists_of_typedefTarget? isTarget).1 noTypedef

/-! ## All members of a class -/

/-- An item is no class, or one of the right kind with all constants of its enumeration or all
    fields of its structure. -/
def HoldsMembers (job : Job) : Item → Prop
  | .enumClass id _ _ constants => (job.header.decl id).kind = .enum ∧
      ∃ owner, (job.childrenOfKind .enumConstant id).mapM (constant owner) = .ok constants
  | .structClass id _ _ fields => (job.header.decl id).kind ≠ .enum ∧
      ∃ given, List.Forall₂ (job.BecomesField given) (job.childrenOfKind .field id) fields
  | _ => True

theorem Opens.target_kind {id : DeclId} {opening : Opening} (opens : job.Opens id s opening s₁)
    (fit : job.header.TypesFit root) (declares : job.header.DeclaresType root id) :
    if opening.record then (job.header.decl opening.target).kind ≠ .enum
    else (job.header.decl opening.target).kind = .enum := by
  cases opens with
  | @tag _ _ record named fresh renamed kind => cases record <;> simp_all
  | @typedef _ _ _ record _ named fresh renamed kind names tagged =>
    have target := fit.target_kind declares names tagged
    cases record with
    | true => exact target.1
    | false => exact target

/-- The classes that an export writes have all their members. -/
theorem Exports.holdsMembers (fit : job.header.TypesFit root) {task : Task}
    (exports : job.Exports task s s') : task.Among (job.header.DeclaresType root) →
      (∀ item ∈ s.items, job.HoldsMembers item) → ∀ item ∈ s'.items, job.HoldsMembers item := by
  have closed : job.ClosedUnderExport (job.header.DeclaresType root) :=
    closedUnderExport_declaresType
  have extend {items : List Item} (last : Item) (before : ∀ item ∈ items, job.HoldsMembers item)
      (holds : job.HoldsMembers last) : ∀ item ∈ items ++ [last], job.HoldsMembers item :=
    List.forall_mem_append.mpr ⟨before, List.forall_mem_singleton.mpr holds⟩
  induction exports with
  | done | known | other => exact fun _ holds => holds
  | next named first others ihFirst ihOthers =>
    intro among holds
    exact ihOthers (fun _ inside => among _ (List.mem_cons_of_mem _ inside))
      (ihFirst (among _ List.mem_cons_self) holds)
  | enumClass opens record exported =>
    intro declares holds
    have kind := opens.target_kind fit declares
    rw [record] at kind
    exact extend _ (opens.items ▸ holds) ⟨kind, _, exported⟩
  | structClass opens record inside exported ih =>
    intro declares holds
    have kind := opens.target_kind fit declares
    rw [record] at kind
    have inner := ih (opens.among_fields closed declares record) (opens.items ▸ holds)
    exact extend _ inner ⟨kind, _, exported⟩
  | otherName => exact fun _ holds => extend _ holds trivial
  | callback named fresh renamed kind names untagged calls inside ih =>
    intro declares holds
    exact extend _ (ih (closed.callback declares kind names untagged calls) holds) trivial
  | plain named fresh renamed kind names untagged uncalled inside quiet ih =>
    exact fun declares => ih (closed.uncalled declares kind names untagged uncalled)

theorem Performs.holdsMembers (fit : job.header.TypesFit root) {tasks : List Task}
    (performs : job.Performs tasks s s')
    (among : ∀ task ∈ tasks, task.Among (job.header.DeclaresType root))
    (holds : ∀ item ∈ s.items, job.HoldsMembers item) :
    ∀ item ∈ s'.items, job.HoldsMembers item := by
  induction performs with
  | nil => exact holds
  | between same _ ih => exact ih among (same.items ▸ holds)
  | task first _ ih =>
    obtain ⟨amongFirst, amongRest⟩ := List.forall_mem_cons.mp among
    exact ih amongRest (first.holdsMembers fit amongFirst holds)

/-- After a successful run with the name of a tag among the names that were asked for, one of the
    declarations of the tag has a class, which is written with all its members, and no other one has
    a class. -/
theorem exists_class_of_tag (fit : job.header.TypesFit root)
    (share : job.header.ShareName root name tags) {className : String}
    (run : (job.exportHeader className root).Succeeds {} () s) (isMarked : name ∈ s.exported) :
    ∃ id newName item, tags id ∧ s.classes.find? id = some newName ∧ item ∈ s.items ∧
      item.classOf? = some (id, newName) ∧ job.HoldsMembers item ∧
      ∀ other, tags other → s.classes.find? other ≠ none → other = id := by
  have origins := originates_of_exportHeader closedUnderExport_declaresType
    (fun _ wanted => wanted.declaresType) run
  obtain ⟨s₁, performs, rfl⟩ := performs_of_exportHeader run
  have among : ∀ task ∈ job.headerTasks root, task.Among (job.header.DeclaresType root) :=
    fun task isTask => (headerTasks_among task isTask).mono fun _ wanted => wanted.declaresType
  have holds := performs.holdsMembers fit among (by simp [HoldsMembers])
  have one := performs.hasOneClass share among
    { namesMarked := .of_items rfl rfl
      given := fun isMarked => absurd isMarked List.not_mem_nil
      unique := fun _ _ _ _ classed => absurd rfl classed }
  obtain ⟨id, newName, isOne, classed⟩ :=
    (origins.1.marks isMarked).exists_classed fit.targetsAreTags share
  obtain ⟨item, inside, isClass⟩ := origins.2.2 id newName classed
  refine ⟨id, newName, item, isOne, classed, inside, isClass, ?_, ?_⟩
  · rcases List.mem_append.mp inside with before | last
    · exact holds item before
    · rw [List.mem_singleton.mp last]
      trivial
  · intro other isOther classedOther
    have hasClass : s₁.classes.find? id = some newName := classed
    exact one.unique isOther isOne classedOther (by simp [hasClass])

end Job

end HeaderBindings
