import HeaderBindings.Proofs.Export.Tasks

/-!
# Marked names

Whatever the header is like, an export gives names to marked names only, and gives a class to no
declaration without marking its name. So a fresh name was not given before, what has no class yet is
not begun twice, and no export takes back what another one did.
-/

namespace HeaderBindings

namespace Progress

/-- Nothing is taken back, the callbacks of the library class included. -/
structure Continues (s s' : Progress) : Prop extends s.Extends s' where
  callbacks : ∀ entry ∈ s.callbacks, entry ∈ s'.callbacks

variable {s s₁ s₂ : Progress}

theorem Continues.refl (s : Progress) : s.Continues s where
  toExtends := .refl s
  callbacks _ inside := inside

theorem Continues.trans (first : s.Continues s₁) (second : s₁.Continues s₂) : s.Continues s₂ where
  toExtends := first.toExtends.trans second.toExtends
  callbacks entry inside := second.callbacks entry (first.callbacks entry inside)

theorem Continues.reported (records : List Log.Record) : s.Continues (s.reported records) where
  toExtends := .reported records
  callbacks _ inside := inside

theorem Continues.emitted (item : Item) : s.Continues (s.emitted item) where
  toExtends := .emitted item
  callbacks _ inside := inside

theorem Continues.calledBack (name : String) (binding : Binding) :
    s.Continues (s.calledBack name binding) where
  toExtends := .calledBack name binding
  callbacks _ := List.mem_append_left _

theorem SameNames.continues (same : s.SameNames s₁) : s.Continues s₁ where
  toExtends := .of_same same.given same.classes (fun _ marked => same.exported ▸ marked)
    fun _ written => same.items ▸ written
  callbacks := same.callbacks

end Progress

namespace Job

variable (job : Job)

/-- Only marked names were given, and only declarations with a marked name, or with none, have a
    class. -/
structure NamesMarked (s : Progress) : Prop where
  given : ∀ {name newName : String}, s.given.find? name = some newName → name ∈ s.exported
  classes : ∀ {id : DeclId} {name className : String}, s.classes.find? id = some className →
    (job.header.decl id).properName? = some name → name ∈ s.exported

variable {job} {s s₁ s' : Progress}

namespace NamesMarked

theorem of_same (marked : job.NamesMarked s) (given : s₁.given = s.given)
    (classes : s₁.classes = s.classes) (exported : ∀ name ∈ s.exported, name ∈ s₁.exported) :
    job.NamesMarked s₁ where
  given known := exported _ (marked.given (given ▸ known))
  classes known named := exported _ (marked.classes (classes ▸ known) named)

theorem of_sameNames (marked : job.NamesMarked s) (same : s.SameNames s₁) :
    job.NamesMarked s₁ :=
  marked.of_same same.given same.classes fun _ isMarked => same.exported ▸ isMarked

theorem reported (marked : job.NamesMarked s) (records : List Log.Record) :
    job.NamesMarked (s.reported records) :=
  marked.of_same rfl rfl fun _ isMarked => isMarked

theorem of_items (given : s.given = {}) (classes : s.classes = {}) : job.NamesMarked s where
  given known := by
    rw [given] at known
    cases known
  classes known := by
    rw [classes] at known
    cases known

theorem existing? (marked : job.NamesMarked s) {id : DeclId} {existing : String}
    (known : job.existing? s id = some existing) :
    s.classes.find? id = some existing ∨
      ∃ name, (job.header.decl id).properName? = some name ∧ name ∈ s.exported := by
  rcases Option.or_eq_some_iff.mp known with classed | ⟨-, given⟩
  · exact .inl classed
  · obtain ⟨name, named, given⟩ := Option.bind_eq_some_iff.mp given
    exact .inr ⟨name, named, marked.given given⟩

end NamesMarked

section

variable {id : DeclId} {opening : Opening} (opens : job.Opens id s opening s₁)

include opens

/-- Beginning a class marks the name of the declaration and that of its tag. -/
theorem Opens.mem_exported {name : String} :
    name ∈ s₁.exported ↔ name ∈ s.exported ∨ (job.header.decl id).properName? = some name ∨
      (job.header.decl opening.target).properName? = some name := by
  cases opens with
  | tag named => simp [named, or_comm, eq_comm]
  | typedef named =>
    simp only [Progress.said, Progress.reported, Progress.mem_exported_claimed, Progress.classed,
      Progress.named, Progress.marked, List.mem_cons, named, Option.some.injEq]
    grind

theorem Opens.classes : s₁.classes = s.classes.set opening.target opening.newName := by
  cases opens <;> simp

theorem Opens.find?_target : s₁.classes.find? opening.target = some opening.newName := by
  rw [opens.classes, Table.find?_set, if_pos rfl]

variable (marked : job.NamesMarked s)

include marked

/-- A class is begun only for what has none yet: the name of a structure or enumeration would be
    marked, and a type definition asks for it. -/
theorem Opens.unclassed : s.classes.find? opening.target = none := by
  cases opens with
  | tag named fresh =>
    cases known : s.classes.find? id with
    | none => rfl
    | some className => exact absurd (marked.classes known named) fresh
  | typedef _ _ _ _ _ _ unnamed => exact (Option.or_eq_none_iff.mp unnamed).1

theorem Opens.find?_given {name newName : String} (known : s.given.find? name = some newName) :
    s₁.given.find? name = some newName := by
  have isMarked := marked.given known
  cases opens with
  | @tag own _ _ _ fresh =>
    have other : own ≠ name := fun same => fresh (same ▸ isMarked)
    simpa [Table.find?_set, other] using known
  | @typedef own _ _ _ _ _ fresh =>
    have other : own ≠ name := fun same => fresh (same ▸ isMarked)
    simpa [Progress.find?_given_claimed, Table.find?_set, other, isMarked] using known

theorem Opens.mem_exported_of_given {name newName : String}
    (known : s₁.given.find? name = some newName) : name ∈ s₁.exported := by
  rw [opens.mem_exported]
  cases opens with
  | @tag own newName' record named =>
    by_cases same : own = name
    · exact .inr (.inl (same ▸ named))
    · exact .inl (marked.given (by simpa [Table.find?_set, same] using known))
  | @typedef own _ _ _ target named =>
    by_cases same : own = name
    · exact .inr (.inl (same ▸ named))
    · by_cases ofTag : (job.header.decl target).properName? = some name
      · exact .inr (.inr ofTag)
      · have before : s.given.find? name = some newName := by
          simpa [Progress.find?_given_claimed, Table.find?_set, same, ofTag] using known
        exact .inl (marked.given before)

theorem Opens.extends : s.Extends s₁ where
  exported isMarked := opens.exported _ isMarked
  given := opens.find?_given marked
  classes {other className} known := by
    have different : opening.target ≠ other := by
      rintro rfl
      rw [opens.unclassed marked] at known
      cases known
    rw [opens.classes, Table.find?_set, if_neg different]
    exact known
  items written := opens.items ▸ written

theorem Opens.namesMarked : job.NamesMarked s₁ where
  given := opens.mem_exported_of_given marked
  classes {other name className} known named := by
    rcases opens.find?_classes known with before | ⟨rfl, -⟩
    · exact opens.exported _ (marked.classes before named)
    · exact opens.mem_exported.mpr (.inr (.inr named))

end

theorem NamesMarked.otherName (marked : job.NamesMarked s) {name newName existing : String}
    {comment : Option String} (fresh : name ∉ s.exported) {records : List Log.Record} :
    job.NamesMarked ((((s.marked name).reported records).named name newName).emitted
        (.alias newName existing comment)) ∧
      s.Extends ((((s.marked name).reported records).named name newName).emitted
        (.alias newName existing comment)) := by
  constructor
  · constructor
    · intro other newName' known
      by_cases same : name = other
      · exact same ▸ List.mem_cons_self
      · have before : s.given.find? other = some newName' := by
          simpa [Table.find?_set, same] using known
        exact List.mem_cons_of_mem _ (marked.given before)
    · exact fun known named => List.mem_cons_of_mem _ (marked.classes known named)
  · refine ⟨List.mem_cons_of_mem _, ?_, fun known => known, List.mem_append_left _⟩
    intro other newName' known
    have different : name ≠ other := fun same => fresh (same ▸ marked.given known)
    simpa [Table.find?_set, different] using known

/-- An export keeps to marked names, and takes nothing back. -/
theorem Exports.namesMarked {task : Task} (exports : job.Exports task s s') :
    job.NamesMarked s → job.NamesMarked s' ∧ s.Extends s' := by
  induction exports with
  | done | known => exact fun marked => ⟨marked, .refl _⟩
  | next named first others ihFirst ihOthers =>
    intro marked
    obtain ⟨marked₁, grows₁⟩ := ihFirst (marked.of_same rfl rfl fun _ => id)
    obtain ⟨marked₂, grows₂⟩ := ihOthers marked₁
    exact ⟨marked₂, ((Progress.Extends.reported _).trans grows₁).trans grows₂⟩
  | other named fresh renamed kind =>
    intro marked
    exact ⟨marked.of_same rfl rfl fun _ => List.mem_cons_of_mem _,
      (Progress.Extends.marked _).trans (.reported _)⟩
  | enumClass opens record exported =>
    intro marked
    exact ⟨(opens.namesMarked marked).of_same rfl rfl fun _ => id,
      ((opens.extends marked).trans (.reported _)).trans (.emitted _)⟩
  | structClass opens record inside exported ih =>
    intro marked
    obtain ⟨marked₂, grows₂⟩ := ih ((opens.namesMarked marked).of_same rfl rfl fun _ => id)
    exact ⟨marked₂.of_same rfl rfl fun _ => id,
      ((((opens.extends marked).trans (.reported _)).trans grows₂).trans (.reported _)).trans
        (.emitted _)⟩
  | otherName named fresh renamed kind names tagged known =>
    exact fun marked => marked.otherName fresh
  | callback named fresh renamed kind names untagged calls inside ih =>
    intro marked
    obtain ⟨marked₁, grows₁⟩ := ih (marked.of_same rfl rfl fun _ => List.mem_cons_of_mem _)
    exact ⟨marked₁.of_same rfl rfl fun _ => id,
      (((((Progress.Extends.marked _).trans (.reported _)).trans grows₁).trans
        (.reported _)).trans (.emitted _)).trans (.calledBack _ _)⟩
  | plain named fresh renamed kind names untagged uncalled inside quiet ih =>
    intro marked
    obtain ⟨marked₁, grows₁⟩ := ih (marked.of_same rfl rfl fun _ => List.mem_cons_of_mem _)
    exact ⟨marked₁.of_same rfl rfl fun _ => id,
      ((Progress.Extends.marked _).trans grows₁).trans (.reported _)⟩

theorem Exports.continues {task : Task} (exports : job.Exports task s s')
    (marked : job.NamesMarked s) : s.Continues s' where
  toExtends := (exports.namesMarked marked).2
  callbacks := exports.keepsBindings.callbacks

/-- A run keeps to marked names, and takes nothing back. -/
theorem Performs.namesMarked {tasks : List Task} (performs : job.Performs tasks s s')
    (marked : job.NamesMarked s) : job.NamesMarked s' ∧ s.Continues s' := by
  induction performs with
  | nil => exact ⟨marked, .refl _⟩
  | between same _ ih =>
    obtain ⟨marked', continues⟩ := ih (marked.of_sameNames same)
    exact ⟨marked', same.continues.trans continues⟩
  | task first _ ih =>
    obtain ⟨marked', continues⟩ := ih (first.namesMarked marked).1
    exact ⟨marked', (first.continues marked).trans continues⟩

end Job

end HeaderBindings
