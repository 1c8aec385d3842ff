import HeaderBindings.Proofs.Export.Effects
import HeaderBindings.Proofs.Export.Names
import HeaderBindings.Proofs.Header.Unfolding
import HeaderBindings.Proofs.Resolution.References

/-!
# What exports cover

Exporting the mentions of a type marks the names that its canonical form mentions too, as long as
the type definitions on the way have been exported to their end. So the names are known that a
resolution of the type looks up.
-/

namespace HeaderBindings

namespace Job

variable (job : Job) (root : DeclId)

/-- What exporting a declaration exports first. -/
def follows (id : DeclId) : List Mention :=
  match job.header.tagOf? id, (job.header.decl id).underlying with
  | some tag, _ => job.fieldMentions tag
  | none, some underlying =>
      match callbackPrototype? underlying with
      | some prototype => job.header.prototypeMentions prototype
      | none => job.header.mentions underlying
  | none, none => []

/-- All mentioned names are marked. -/
def Covers (s : Progress) (mentions : List Mention) : Prop :=
  ∀ mention ∈ mentions, mention.name ∈ s.exported

/-- A declaration is a type definition, but of no structure or enumeration. -/
def IsPlain (id : DeclId) : Prop :=
  (job.header.decl id).kind = .typedef ∧ job.header.tagOf? id = none

/-- A plain type definition has been exported to its end, if it has been exported at all. -/
def Closed (s : Progress) (id : DeclId) : Prop :=
  ∀ name, (job.header.decl id).properName? = some name → name ∈ s.exported →
    Covers s (job.follows id)

/-- Every plain type definition has been exported to its end, except for open ones. -/
def ClosedExcept (isOpen : DeclId → Prop) (s : Progress) : Prop :=
  ∀ ⦃id : DeclId⦄, job.header.DeclaresType root id → job.IsPlain id → isOpen id ∨ job.Closed s id

/-- Every plain type definition has been exported to its end, except for open ones and for those
    that only wait for a name to be marked. -/
def ClosedAwaiting (isOpen : DeclId → Prop) (awaited : Option String) (s : Progress) : Prop :=
  ∀ ⦃id : DeclId⦄, job.header.DeclaresType root id → job.IsPlain id → isOpen id ∨
    ∀ name, (job.header.decl id).properName? = some name → name ∈ s.exported →
      ∀ mention ∈ job.follows id, mention.name ∈ s.exported ∨ awaited = some mention.name

/-- What exporting a declaration exports first goes by different names. -/
def Branches (id : DeclId) : Prop :=
  ∃ mention ∈ job.follows id, ∃ other ∈ job.follows id, mention.name ≠ other.name

/-- The name that a task marks first, if it was not marked before. -/
def Task.awaited (header : Header) : Task → Option String
  | .decl id => (header.decl id).properName?
  | .mentions list => list.head?.map (·.name)

variable {job root} {s s₁ s' : Progress} {isOpen : DeclId → Prop} {awaited : Option String}

theorem Covers.mono {mentions : List Mention} (covers : Covers s mentions)
    (exported : ∀ name ∈ s.exported, name ∈ s₁.exported) : Covers s₁ mentions :=
  fun mention inside => exported _ (covers mention inside)

theorem Exports.covers {mentions : List Mention} (exports : job.Exports (.mentions mentions) s s') :
    Covers s' mentions :=
  fun mention inside => exports.marks _ ⟨mention, inside, rfl⟩

theorem ClosedExcept.same (closed : job.ClosedExcept root isOpen s)
    (exported : s₁.exported = s.exported) : job.ClosedExcept root isOpen s₁ := by
  intro id declares isPlain
  refine (closed declares isPlain).imp_right fun closes name named marked => ?_
  rw [exported] at marked
  exact (closes name named marked).mono fun _ marked => exported ▸ marked

theorem ClosedExcept.awaiting (closed : job.ClosedExcept root isOpen s)
    (awaited : Option String) : job.ClosedAwaiting root isOpen awaited s := by
  intro id declares isPlain
  refine (closed declares isPlain).imp_right fun closes name named marked mention inside => ?_
  exact .inl (closes name named marked mention inside)

theorem ClosedExcept.close {id : DeclId} {isOpen' : DeclId → Prop}
    (closed : job.ClosedExcept root isOpen' s)
    (opened : ∀ other, isOpen' other → isOpen other ∨ other = id)
    (covers : Covers s (job.follows id)) : job.ClosedExcept root isOpen s := by
  intro other declares isPlain
  rcases closed declares isPlain with open' | closes
  · rcases opened other open' with stillOpen | rfl
    · exact .inl stillOpen
    · exact .inr fun _ _ _ => covers
  · exact .inr closes

/-- A type definition that is open waits for one name only, if it follows no others. -/
theorem ClosedExcept.narrow {id : DeclId}
    (closed : job.ClosedExcept root (fun other => isOpen other ∨ other = id) s) :
    job.ClosedAwaiting root (fun other => isOpen other ∨ other = id ∧ job.Branches id)
      (Task.awaited job.header (.mentions (job.follows id))) s := by
  intro other declares isPlain
  rcases closed declares isPlain with (opened | rfl) | closes
  · exact .inl (.inl opened)
  · by_cases branches : job.Branches other
    · exact .inl (.inr ⟨rfl, branches⟩)
    · refine .inr fun name named marked mention inside => .inr ?_
      cases follows : job.follows other with
      | nil =>
        rw [follows] at inside
        cases inside
      | cons first rest =>
        have isFirst : first ∈ job.follows other := follows ▸ List.mem_cons_self
        have same : first.name = mention.name := by
          by_cases same : first.name = mention.name
          · exact same
          · exact absurd ⟨first, isFirst, mention, inside, same⟩ branches
        simp [Task.awaited, same]
  · exact .inr fun name named marked mention inside =>
      .inl (closes name named marked mention inside)

namespace ClosedAwaiting

variable (closed : job.ClosedAwaiting root isOpen awaited s)

include closed

theorem same (exported : s₁.exported = s.exported) :
    job.ClosedAwaiting root isOpen awaited s₁ := by
  intro id declares isPlain
  rw [exported]
  exact closed declares isPlain

/-- Type definitions are closed when the name is marked that they wait for, and none of their own,
    except for those that open. The name of a plain type definition is its own alone. -/
theorem of_marks (tagTypes : job.header.TagTypes root)
    (unambiguous : job.header.Unambiguous root) {isOpen' : DeclId → Prop}
    (widens : ∀ id, isOpen id → isOpen' id)
    (arrives : ∀ name, awaited = some name → name ∈ s₁.exported)
    (exported : ∀ name ∈ s.exported, name ∈ s₁.exported)
    (isNew : ∀ name ∈ s₁.exported, name ∈ s.exported ∨ ∃ id, job.header.DeclaresType root id ∧
      (job.header.decl id).properName? = some name ∧ (job.IsPlain id → isOpen' id)) :
    job.ClosedExcept root isOpen' s₁ := by
  intro id declares isPlain
  rcases closed declares isPlain with opened | closes
  · exact .inl (widens id opened)
  · by_cases opened : isOpen' id
    · exact .inl opened
    · refine .inr fun name named marked mention inside => ?_
      rcases isNew name marked with before | ⟨other, declaresOther, namedOther, opens⟩
      · rcases closes name named before mention inside with known | waits
        · exact exported _ known
        · exact arrives _ waits
      · obtain rfl := tagTypes.eq_of_untagged unambiguous declares declaresOther named namedOther
          isPlain.2
        exact absurd (opens isPlain) opened

theorem arrived (arrives : ∀ name, awaited = some name → name ∈ s.exported) :
    job.ClosedExcept root isOpen s := by
  intro id declares isPlain
  refine (closed declares isPlain).imp_right fun closes name named marked mention inside => ?_
  exact (closes name named marked mention inside).elim (fun known => known) (arrives _)

end ClosedAwaiting

theorem ClosedAwaiting.first {mention : Mention} {rest : List Mention}
    (closed : job.ClosedAwaiting root isOpen
      (Task.awaited job.header (.mentions (mention :: rest))) s)
    (named : (job.header.decl mention.decl).properName? = some mention.name) :
    job.ClosedAwaiting root isOpen (Task.awaited job.header (.decl mention.decl)) s := by
  rw [Task.awaited, named]
  exact closed

/-- Beginning a class closes the type definitions that wait for its name, and opens none. -/
theorem Begins.closedExcept {id : DeclId} {opening : Opening}
    (begins : job.Begins root id s opening s₁) (agree : job.NamesAgree root s)
    (tagTypes : job.header.TagTypes root) (unambiguous : job.header.Unambiguous root)
    (declares : job.header.DeclaresType root id)
    (closed : job.ClosedAwaiting root isOpen (job.header.decl id).properName? s) :
    job.ClosedExcept root isOpen s₁ := by
  refine closed.of_marks tagTypes unambiguous (fun _ opened => opened)
    (fun _ named => (begins.isNew (.inl named)).2.1)
    (fun name marked => (begins.grows agree).exported marked) fun name marked => ?_
  by_cases isName : (job.header.decl id).properName? = some name ∨
    (job.header.decl opening.target).properName? = some name
  · rcases isName with named | named
    · refine .inr ⟨id, declares, named, fun isPlain => ?_⟩
      have tagged := begins.tag
      rw [isPlain.2] at tagged
      cases tagged
    · refine .inr ⟨opening.target, begins.declares, named, fun isPlain => ?_⟩
      have tagged := Header.tagOf?_self begins.kind
      rw [isPlain.2] at tagged
      cases tagged
  · exact .inl ((begins.isOld isName).1.mp marked)

/-- Marking the name of a declaration closes the type definitions that wait for it, and opens that
    declaration at most. -/
theorem ClosedAwaiting.mark {id : DeclId} {name : String}
    (closed : job.ClosedAwaiting root isOpen (job.header.decl id).properName? s)
    (tagTypes : job.header.TagTypes root) (unambiguous : job.header.Unambiguous root)
    (declares : job.header.DeclaresType root id)
    (named : (job.header.decl id).properName? = some name) :
    job.ClosedExcept root (fun other => isOpen other ∨ other = id) (s.marked name) := by
  rw [named] at closed
  refine closed.of_marks tagTypes unambiguous (fun _ => .inl) ?_
    (fun _ => List.mem_cons_of_mem _) fun other marked => ?_
  · rintro other ⟨⟩
    exact List.mem_cons_self
  · rcases List.mem_cons.mp marked with rfl | before
    · exact .inr ⟨id, declares, named, fun _ => .inr rfl⟩
    · exact .inl before

theorem ClosedAwaiting.mark_other {id : DeclId} {name : String}
    (closed : job.ClosedAwaiting root isOpen (job.header.decl id).properName? s)
    (tagTypes : job.header.TagTypes root) (unambiguous : job.header.Unambiguous root)
    (declares : job.header.DeclaresType root id)
    (named : (job.header.decl id).properName? = some name) (noPlain : ¬ job.IsPlain id) :
    job.ClosedExcept root isOpen (s.marked name) := by
  intro other declaresOther isPlain
  rcases closed.mark tagTypes unambiguous declares named declaresOther isPlain with
    (opened | rfl) | closes
  · exact .inl opened
  · exact absurd isPlain noPlain
  · exact .inr closes

theorem follows_callback {id : DeclId} {underlying prototype : CType}
    (names : (job.header.decl id).underlying = some underlying)
    (untagged : job.header.tagOf? id = none)
    (calls : callbackPrototype? underlying = some prototype) :
    job.follows id = job.header.prototypeMentions prototype := by
  simp [follows, untagged, names, calls]

theorem follows_plain {id : DeclId} {underlying : CType}
    (names : (job.header.decl id).underlying = some underlying)
    (untagged : job.header.tagOf? id = none) (uncalled : callbackPrototype? underlying = none) :
    job.follows id = job.header.mentions underlying := by
  simp [follows, untagged, names, uncalled]

/-- Exporting ends with the same type definitions open that were open before. Those that waited for
    the first name that it marks are closed. -/
theorem Exports.closedExcept {task : Task} (exports : job.Exports task s s')
    (tagTypes : job.header.TagTypes root) (unambiguous : job.header.Unambiguous root) :
    ∀ isOpen, task.Within job.header root → job.NamesAgree root s →
      job.ClosedAwaiting root isOpen (task.awaited job.header) s →
        job.ClosedExcept root isOpen s' := by
  induction exports with
  | done => exact fun _ _ _ closed => closed.arrived fun _ waits => by cases waits
  | next named first others ihFirst ihOthers =>
    intro isOpen within agree closed
    have declares := within _ List.mem_cons_self
    have agree₁ := (first.agree tagTypes unambiguous declares (agree.reported _)).1
    have closed₁ := ihFirst isOpen declares (agree.reported _) ((closed.first named).same rfl)
    exact ihOthers isOpen (fun _ inside => within _ (List.mem_cons_of_mem _ inside)) agree₁
      (closed₁.awaiting _)
  | known named marked =>
    intro isOpen declares agree closed
    refine closed.arrived fun name waits => ?_
    rw [Task.awaited, named] at waits
    cases waits
    exact marked
  | other named fresh renamed kind =>
    intro isOpen declares agree closed
    refine ClosedExcept.same (closed.mark_other tagTypes unambiguous declares named ?_) rfl
    intro isPlain
    rw [isPlain.1] at kind
    cases kind
  | enumClass opens record exported =>
    intro isOpen declares agree closed
    have begins := opens.begins agree tagTypes declares
    exact (begins.closedExcept agree tagTypes unambiguous declares closed).same rfl
  | structClass opens record inside exported ih =>
    intro isOpen declares agree closed
    have begins := opens.begins agree tagTypes declares
    have agree₁ := (begins.agree agree tagTypes unambiguous declares).reported
    have closed₁ := begins.closedExcept agree tagTypes unambiguous declares closed
    exact ClosedExcept.same (ih isOpen (within_fieldMentions begins.declares.1) (agree₁ _)
      ((closed₁.same rfl).awaiting _)) rfl
  | otherName named fresh renamed kind names tagged known =>
    intro isOpen declares agree closed
    refine ClosedExcept.same (closed.mark_other tagTypes unambiguous declares named ?_) rfl
    intro isPlain
    have isTag := isPlain.2
    rw [Header.tagOf?_typedef kind names, tagged] at isTag
    cases isTag
  | callback named fresh renamed kind names untagged calls inside ih =>
    intro isOpen declares agree closed
    have untagged := tagOf?_of_untagged kind names untagged
    have agree₁ := (agree.mark tagTypes unambiguous declares named untagged).reported
    have within := within_prototypeMentions
      (reaches_callbackPrototype? (declares.1.underlying names) calls)
    have follows := follows_callback names untagged calls
    have narrowed := (closed.mark tagTypes unambiguous declares named).narrow
    rw [follows] at narrowed
    have closed₁ := ih _ within (agree₁ _) (narrowed.same rfl)
    exact ClosedExcept.same (closed₁.close (fun _ opened => opened.imp_right And.left)
      (follows ▸ inside.covers)) rfl
  | plain named fresh renamed kind names untagged uncalled inside quiet ih =>
    intro isOpen declares agree closed
    have untagged := tagOf?_of_untagged kind names untagged
    have agree₁ := agree.mark tagTypes unambiguous declares named untagged
    have follows := follows_plain names untagged uncalled
    have narrowed := (closed.mark tagTypes unambiguous declares named).narrow
    rw [follows] at narrowed
    have closed₁ := ih _ (within_mentions (declares.1.underlying names)) agree₁ narrowed
    exact ClosedExcept.same (closed₁.close (fun _ opened => opened.imp_right And.left)
      (follows ▸ inside.covers)) rfl

end Job

end HeaderBindings
