import HeaderBindings.Proofs.Export.Coverage
import HeaderBindings.Proofs.Export.Marking

/-!
# Where marks and classes come from

Every name that a run marks and every class that it records comes from the export of a declaration:
of one that has the name, or of a type definition that gave the name's declaration its class. That
export was performed on the way to the progress that the run leaves, and what it left is there still.
-/

namespace HeaderBindings

namespace Job

variable (job : Job)

/-- A set of declarations contains what exports of its members lead to. -/
structure ClosedUnderExport (members : DeclId → Prop) : Prop where
  fields : ∀ ⦃id : DeclId⦄, members id → (job.header.decl id).kind = .struct →
    ∀ mention ∈ job.fieldMentions id, members mention.decl
  tagged : ∀ ⦃id : DeclId⦄ ⦃underlying : CType⦄ ⦃record : Bool⦄ ⦃target : DeclId⦄, members id →
    (job.header.decl id).kind = .typedef → (job.header.decl id).underlying = some underlying →
      tagTarget? underlying = some (record, target) → members target ∧
        (record = true → ∀ mention ∈ job.fieldMentions target, members mention.decl)
  plain : ∀ ⦃id : DeclId⦄, members id → job.IsPlain id →
    ∀ mention ∈ job.follows id, members mention.decl

/-- What a task asks for is in a set of declarations. -/
def Task.Among (members : DeclId → Prop) : Task → Prop
  | .decl id => members id
  | .mentions list => ∀ mention ∈ list, members mention.decl

/-- A member of a set was exported on the way to `s'`, with a name that was not marked before, and
    nothing that this export left was taken back. -/
inductive WasExported (members : DeclId → Prop) (s' : Progress) (id : DeclId) : Prop where
  | intro {name : String} {s s₁ : Progress} (member : members id)
      (named : (job.header.decl id).properName? = some name) (fresh : name ∉ s.exported)
      (marked : job.NamesMarked s) (exports : job.Exports (.decl id) s s₁)
      (continues : s₁.Continues s') : WasExported members s' id

/-- A name was marked by the export of a declaration with that name, or of a type definition that
    gave such a declaration its class. -/
def MarkOrigin (members : DeclId → Prop) (s' : Progress) (name : String) : Prop :=
  ∃ id, job.WasExported members s' id ∧ ((job.header.decl id).properName? = some name ∨
    ∃ tag className, job.header.tagOf? id = some tag ∧
      (job.header.decl tag).properName? = some name ∧ s'.classes.find? tag = some className)

/-- A member of a set gives a declaration its class: a structure or enumeration itself, or a type
    definition of it. -/
def GivesClass (members : DeclId → Prop) (record : Bool) (tag : DeclId) : Prop :=
  (members tag ∧ (job.header.decl tag).kind = if record then .struct else .enum) ∨
    ∃ id underlying, members id ∧ (job.header.decl id).kind = .typedef ∧
      (job.header.decl id).underlying = some underlying ∧
      tagTarget? underlying = some (record, tag)

/-- A class was begun by a member of a set, and all names that its fields mention are marked. -/
def ClassOrigin (members : DeclId → Prop) (s' : Progress) (tag : DeclId) : Prop :=
  ∃ record, job.GivesClass members record tag ∧
    (record = true → Covers s' (job.fieldMentions tag))

variable {job} {members : DeclId → Prop} {s s₁ s' : Progress}

theorem Task.Among.mono {others : DeclId → Prop} {task : Task} (among : task.Among members)
    (inside : ∀ id, members id → others id) : task.Among others := by
  cases task with
  | decl id => exact inside id among
  | mentions list => exact fun mention isMention => inside _ (among mention isMention)

/-- A plain type definition follows what its prototype mentions, or else what its underlying type
    mentions. -/
theorem mem_follows {id : DeclId} {mention : Mention} (isPlain : job.IsPlain id)
    (isMention : mention ∈ job.follows id) :
    ∃ underlying, (job.header.decl id).underlying = some underlying ∧
      tagTarget? underlying = none ∧
      ((∃ prototype, callbackPrototype? underlying = some prototype ∧
          mention ∈ job.header.prototypeMentions prototype) ∨
        callbackPrototype? underlying = none ∧ mention ∈ job.header.mentions underlying) := by
  obtain ⟨kind, noTag⟩ := isPlain
  cases names : (job.header.decl id).underlying with
  | none => simp [follows, noTag, names] at isMention
  | some underlying =>
    have untagged : tagTarget? underlying = none := by
      rw [Header.tagOf?_typedef kind names] at noTag
      exact Option.map_eq_none_iff.mp noTag
    refine ⟨underlying, rfl, untagged, ?_⟩
    cases calls : callbackPrototype? underlying with
    | some prototype => exact .inl ⟨prototype, rfl, follows_callback names noTag calls ▸ isMention⟩
    | none => exact .inr ⟨rfl, follows_plain names noTag calls ▸ isMention⟩

namespace ClosedUnderExport

variable (closed : job.ClosedUnderExport members) {id : DeclId} {underlying : CType}
  (member : members id) (kind : (job.header.decl id).kind = .typedef)
  (names : (job.header.decl id).underlying = some underlying)
  (untagged : tagTarget? underlying = none)

include closed member kind names untagged

theorem callback {prototype : CType} (calls : callbackPrototype? underlying = some prototype) :
    Task.Among members (.mentions (job.header.prototypeMentions prototype)) := by
  have noTag := tagOf?_of_untagged kind names untagged
  rw [← follows_callback names noTag calls]
  exact closed.plain member ⟨kind, noTag⟩

theorem uncalled (uncalled : callbackPrototype? underlying = none) :
    Task.Among members (.mentions (job.header.mentions underlying)) := by
  have noTag := tagOf?_of_untagged kind names untagged
  rw [← follows_plain names noTag uncalled]
  exact closed.plain member ⟨kind, noTag⟩

end ClosedUnderExport

theorem WasExported.mono {id : DeclId} (was : job.WasExported members s₁ id)
    (continues : s₁.Continues s') : job.WasExported members s' id := by
  obtain ⟨member, named, fresh, marked, exports, before⟩ := was
  exact ⟨member, named, fresh, marked, exports, before.trans continues⟩

theorem MarkOrigin.mono {name : String} (origin : job.MarkOrigin members s₁ name)
    (continues : s₁.Continues s') : job.MarkOrigin members s' name := by
  obtain ⟨id, was, named | ⟨tag, className, isTag, named, classed⟩⟩ := origin
  · exact ⟨id, was.mono continues, .inl named⟩
  · exact ⟨id, was.mono continues, .inr ⟨tag, className, isTag, named, continues.classes classed⟩⟩

theorem ClassOrigin.mono {tag : DeclId} (origin : job.ClassOrigin members s₁ tag)
    (exported : ∀ name ∈ s₁.exported, name ∈ s'.exported) : job.ClassOrigin members s' tag := by
  obtain ⟨record, gives, covers⟩ := origin
  exact ⟨record, gives, fun isRecord => (covers isRecord).mono exported⟩

section

variable {id : DeclId} {opening : Opening} (opens : job.Opens id s opening s₁)

include opens

theorem Opens.tagOf? : job.header.tagOf? id = some opening.target := by
  cases opens with
  | tag named fresh renamed kind => exact Header.tagOf?_self kind
  | typedef named fresh renamed kind names tagged =>
    exact Header.tagOf?_of_tagged kind names tagged

theorem Opens.givesClass (member : members id) :
    job.GivesClass members opening.record opening.target := by
  cases opens with
  | tag named fresh renamed kind => exact .inl ⟨member, kind⟩
  | typedef named fresh renamed kind names tagged =>
    exact .inr ⟨id, _, member, kind, names, tagged⟩

theorem Opens.among_fields (closed : job.ClosedUnderExport members) (member : members id)
    (record : opening.record = true) :
    Task.Among members (.mentions (job.fieldMentions opening.target)) := by
  cases opens with
  | @tag _ _ isRecord named fresh renamed kind =>
    rw [show isRecord = true from record, if_pos rfl] at kind
    exact closed.fields member kind
  | typedef named fresh renamed kind names tagged =>
    exact (closed.tagged member kind names tagged).2 record

/-- A name that beginning a class marks has its origin in the declaration that was exported. -/
theorem Opens.markOrigin {name : String} (was : job.WasExported members s' id)
    (classed : s'.classes.find? opening.target = some opening.newName)
    (isMarked : name ∈ s₁.exported) : name ∈ s.exported ∨ job.MarkOrigin members s' name := by
  rcases opens.mem_exported.mp isMarked with before | named | named
  · exact .inl before
  · exact .inr ⟨id, was, .inl named⟩
  · exact .inr ⟨id, was, .inr ⟨_, _, opens.tagOf?, named, classed⟩⟩

end

/-- Every name that an export marks has its origin there. -/
theorem Exports.markOrigin (closed : job.ClosedUnderExport members) {task : Task}
    (exports : job.Exports task s s') : task.Among members → job.NamesMarked s →
      ∀ name ∈ s'.exported, name ∈ s.exported ∨ job.MarkOrigin members s' name := by
  induction exports with
  | done | known => exact fun _ _ _ => .inl
  | next named first others ihFirst ihOthers =>
    intro among marked name isMarked
    have marked₁ := (first.namesMarked (marked.reported _)).1
    rcases ihOthers (fun _ inside => among _ (List.mem_cons_of_mem _ inside)) marked₁ name
      isMarked with before | origin
    · rcases ihFirst (among _ List.mem_cons_self) (marked.reported _) name before
        with before | origin
      · exact .inl before
      · exact .inr (origin.mono (others.continues marked₁))
    · exact .inr origin
  | other named fresh renamed kind =>
    intro among marked name isMarked
    rcases List.mem_cons.mp isMarked with rfl | before
    · exact .inr ⟨_, ⟨among, named, fresh, marked, .other named fresh renamed kind, .refl _⟩,
        .inl named⟩
    · exact .inl before
  | enumClass opens record exported =>
    intro among marked name isMarked
    obtain ⟨own, named, fresh⟩ := opens.exists_fresh
    exact opens.markOrigin
      ⟨among, named, fresh, marked, .enumClass opens record exported, .refl _⟩
      opens.find?_target isMarked
  | structClass opens record inside exported ih =>
    intro among marked name isMarked
    obtain ⟨own, named, fresh⟩ := opens.exists_fresh
    have marked₁ := opens.namesMarked marked
    rcases ih (opens.among_fields closed among record) (marked₁.reported _) name isMarked
      with before | origin
    · exact opens.markOrigin
        ⟨among, named, fresh, marked, .structClass opens record inside exported, .refl _⟩
        ((inside.continues (marked₁.reported _)).classes opens.find?_target) before
    · exact .inr (origin.mono ((Progress.Continues.reported _).trans (.emitted _)))
  | otherName named fresh renamed kind names tagged known =>
    intro among marked name isMarked
    rcases List.mem_cons.mp isMarked with rfl | before
    · exact .inr ⟨_, ⟨among, named, fresh, marked,
        .otherName named fresh renamed kind names tagged known, .refl _⟩, .inl named⟩
    · exact .inl before
  | callback named fresh renamed kind names untagged calls inside ih =>
    intro among marked name isMarked
    rcases ih (closed.callback among kind names untagged calls)
      (marked.of_same rfl rfl fun _ => List.mem_cons_of_mem _) name isMarked with before | origin
    · rcases List.mem_cons.mp before with rfl | before
      · exact .inr ⟨_, ⟨among, named, fresh, marked,
          .callback named fresh renamed kind names untagged calls inside, .refl _⟩, .inl named⟩
      · exact .inl before
    · exact .inr (origin.mono (((Progress.Continues.reported _).trans (.emitted _)).trans
        (.calledBack _ _)))
  | plain named fresh renamed kind names untagged uncalled inside quiet ih =>
    intro among marked name isMarked
    rcases ih (closed.uncalled among kind names untagged uncalled)
      (marked.of_same rfl rfl fun _ => List.mem_cons_of_mem _) name isMarked with before | origin
    · rcases List.mem_cons.mp before with rfl | before
      · exact .inr ⟨_, ⟨among, named, fresh, marked,
          .plain named fresh renamed kind names untagged uncalled inside quiet, .refl _⟩,
          .inl named⟩
      · exact .inl before
    · exact .inr (origin.mono (.reported _))

/-- Every class that an export records has its origin there. -/
theorem Exports.classOrigin (closed : job.ClosedUnderExport members) {task : Task}
    (exports : job.Exports task s s') : task.Among members →
      ∀ tag className, s'.classes.find? tag = some className →
        s.classes.find? tag = some className ∨ job.ClassOrigin members s' tag := by
  induction exports with
  | done | known | other | otherName => exact fun _ _ _ => .inl
  | next named first others ihFirst ihOthers =>
    intro among tag className classed
    rcases ihOthers (fun _ inside => among _ (List.mem_cons_of_mem _ inside)) tag className classed
      with before | origin
    · rcases ihFirst (among _ List.mem_cons_self) tag className before with before | origin
      · exact .inl before
      · exact .inr (origin.mono others.exported)
    · exact .inr origin
  | enumClass opens record exported =>
    intro among tag className classed
    rcases opens.find?_classes classed with before | ⟨rfl, -⟩
    · exact .inl before
    · refine .inr ⟨_, opens.givesClass among, fun isRecord => ?_⟩
      rw [record] at isRecord
      cases isRecord
  | structClass opens record inside exported ih =>
    intro among tag className classed
    rcases ih (opens.among_fields closed among record) tag className classed with before | origin
    · rcases opens.find?_classes before with before | ⟨rfl, -⟩
      · exact .inl before
      · exact .inr ⟨_, opens.givesClass among, fun _ => inside.covers⟩
    · exact .inr origin
  | callback named fresh renamed kind names untagged calls inside ih =>
    exact fun among => ih (closed.callback among kind names untagged calls)
  | plain named fresh renamed kind names untagged uncalled inside quiet ih =>
    exact fun among => ih (closed.uncalled among kind names untagged uncalled)

/-- Every name that performed tasks mark, and every class that they record, has its origin in
    them. -/
theorem Performs.origins (closed : job.ClosedUnderExport members) {tasks : List Task}
    (performs : job.Performs tasks s s') (among : ∀ task ∈ tasks, task.Among members)
    (marked : job.NamesMarked s) :
    (∀ name ∈ s'.exported, name ∈ s.exported ∨ job.MarkOrigin members s' name) ∧
      ∀ tag className, s'.classes.find? tag = some className →
        s.classes.find? tag = some className ∨ job.ClassOrigin members s' tag := by
  induction performs with
  | nil => exact ⟨fun _ => .inl, fun _ _ => .inl⟩
  | between same _ ih =>
    rw [← same.exported, ← same.classes]
    exact ih among (marked.of_sameNames same)
  | task first rest ih =>
    have marked₁ := (first.namesMarked marked).1
    obtain ⟨amongFirst, amongRest⟩ := List.forall_mem_cons.mp among
    obtain ⟨ihMarks, ihClasses⟩ := ih amongRest marked₁
    constructor
    · intro name isMarked
      rcases ihMarks name isMarked with before | origin
      · exact (first.markOrigin closed amongFirst marked name before).imp_right
          (·.mono (rest.namesMarked marked₁).2)
      · exact .inr origin
    · intro tag className classed
      rcases ihClasses tag className classed with before | origin
      · exact (first.classOrigin closed amongFirst tag className before).imp_right
          (·.mono rest.exported)
      · exact .inr origin

namespace WasExported

variable {id : DeclId} (was : job.WasExported members s' id)

include was

theorem isMember : members id := by
  obtain ⟨member, named, fresh, marked, exports, continues⟩ := was
  exact member

/-- What an exported declaration is, or names as a type definition, has a class, or its name was
    marked before. -/
theorem classed {tag : DeclId} (isTag : job.header.tagOf? id = some tag) :
    (∃ className, s'.classes.find? tag = some className) ∨
      ∃ name own, (job.header.decl tag).properName? = some name ∧
        (job.header.decl id).properName? = some own ∧ name ≠ own ∧ name ∈ s'.exported := by
  obtain ⟨member, named, fresh, marked, exports, continues⟩ := was
  have grows := (exports.continues marked).trans continues
  cases exports with
  | known own known =>
    rw [named] at own
    cases own
    exact absurd known fresh
  | other own _ _ kind =>
    rw [tagOf?_of_other kind] at isTag
    cases isTag
  | enumClass opens =>
    rw [opens.tagOf?] at isTag
    cases isTag
    exact .inl ⟨_, continues.classes opens.find?_target⟩
  | structClass opens record inside =>
    rw [opens.tagOf?] at isTag
    cases isTag
    have grows₁ := inside.continues ((opens.namesMarked marked).reported _)
    exact .inl ⟨_, continues.classes (grows₁.classes opens.find?_target)⟩
  | otherName own _ _ kind names tagged known =>
    rw [Header.tagOf?_of_tagged kind names tagged] at isTag
    cases isTag
    rcases marked.existing? known with classed | ⟨name, ofTag, before⟩
    · exact .inl ⟨_, grows.classes classed⟩
    · exact .inr ⟨_, _, ofTag, named, fun same => fresh (same ▸ before), grows.exported before⟩
  | callback own _ _ kind names untagged | plain own _ _ kind names untagged =>
    rw [tagOf?_of_untagged kind names untagged] at isTag
    cases isTag

/-- A structure or enumeration that was exported has a class. -/
theorem classed_self (isTag : job.header.tagOf? id = some id) :
    ∃ className, s'.classes.find? id = some className := by
  rcases was.classed isTag with classed | ⟨name, own, named, same, different, -⟩
  · exact classed
  · rw [named] at same
    exact absurd (Option.some.inj same) different

/-- A declaration has a class when a type definition of it that has the same name was exported. -/
theorem classed_of_namesake {other : DeclId} {name : String}
    (ofOther : job.header.typedefTarget? id = some other)
    (named : (job.header.decl id).properName? = some name)
    (namedOther : (job.header.decl other).properName? = some name) :
    ∃ className, s'.classes.find? other = some className := by
  obtain ⟨kind, underlying, record, names, tagged⟩ := Header.exists_of_typedefTarget? ofOther
  rcases was.classed (Header.tagOf?_of_tagged kind names tagged) with classed | ⟨ofTag, own, same, sameOwn, different, -⟩
  · exact classed
  · rw [namedOther] at same
    rw [named] at sameOwn
    exact absurd ((Option.some.inj same).symm.trans (Option.some.inj sameOwn)) different

/-- What a plain type definition that was exported follows is marked. One of a function, or of a
    pointer to one, is a callback of the text and of the library class. -/
theorem plain (isPlain : job.IsPlain id) :
    Covers s' (job.follows id) ∧ ∀ underlying prototype,
      (job.header.decl id).underlying = some underlying →
        callbackPrototype? underlying = some prototype →
          ∃ name newName given, (job.header.decl id).properName? = some name ∧
            job.names.apply name = .ok newName ∧
            Item.callback newName (job.header.bindPrototype given prototype (some name)
              (job.header.decl id).comment) ∈ s'.items ∧
            (newName, job.header.bindPrototype given prototype (some name)
              (job.header.decl id).comment) ∈ s'.callbacks := by
  obtain ⟨kind, noTag⟩ := isPlain
  obtain ⟨member, named, fresh, marked, exports, continues⟩ := was
  cases exports with
  | known own known =>
    rw [named] at own
    cases own
    exact absurd known fresh
  | other own _ _ isOther =>
    rw [kind] at isOther
    cases isOther
  | enumClass opens | structClass opens =>
    rw [opens.tagOf?] at noTag
    cases noTag
  | otherName own _ _ _ names tagged =>
    rw [Header.tagOf?_of_tagged kind names tagged] at noTag
    cases noTag
  | plain own _ _ _ names _ uncalled inside =>
    constructor
    · rw [follows_plain names noTag uncalled]
      exact inside.covers.mono fun _ isMarked => continues.exported isMarked
    · intro underlying prototype same calls
      rw [names] at same
      cases same
      rw [calls] at uncalled
      cases uncalled
  | callback own _ renamed _ names _ calls inside =>
    constructor
    · rw [follows_callback names noTag calls]
      exact inside.covers.mono fun _ isMarked => continues.exported isMarked
    · intro underlying prototype same calls'
      rw [names] at same
      cases same
      rw [calls] at calls'
      cases calls'
      exact ⟨_, _, _, own, renamed,
        continues.items (List.mem_append_right _ (List.mem_singleton_self _)),
        continues.callbacks _ (List.mem_append_right _ (List.mem_singleton_self _))⟩

end WasExported

end Job

end HeaderBindings
