import HeaderBindings.Proofs.Export.Derivation

/-!
# What exports leave behind

A task leaves its names marked, every class that it recorded written, and the functions and unnamed
callbacks of the library class as they were. None of this asks anything of the header.
-/

namespace HeaderBindings

/-- The declaration and the name of the class that an item writes. -/
def Item.classOf? : Item → Option (DeclId × String)
  | .enumClass id name _ _ => some (id, name)
  | .structClass id name _ _ => some (id, name)
  | _ => none

namespace Progress

/-- The functions of the library class stay as they were, and no callback without a name is
    added to it. -/
structure KeepsMembers (s s' : Progress) : Prop where
  calls : s'.calls = s.calls
  callbacks : ∀ entry ∈ s'.callbacks, entry ∈ s.callbacks ∨ entry.2.name ≠ none

namespace KeepsMembers

variable {s s₁ s₂ : Progress}

theorem of_eq (calls : s₁.calls = s.calls) (callbacks : s₁.callbacks = s.callbacks) :
    s.KeepsMembers s₁ where
  calls := calls
  callbacks _ inside := .inl (callbacks ▸ inside)

theorem trans (first : s.KeepsMembers s₁) (second : s₁.KeepsMembers s₂) : s.KeepsMembers s₂ where
  calls := second.calls.trans first.calls
  callbacks entry inside := by
    rcases second.callbacks entry inside with before | named
    · exact first.callbacks entry before
    · exact .inr named

theorem reported (records : List Log.Record) : s.KeepsMembers (s.reported records) :=
  .of_eq rfl rfl

theorem emitted (item : Item) : s.KeepsMembers (s.emitted item) :=
  .of_eq rfl rfl

theorem marked (name : String) : s.KeepsMembers (s.marked name) :=
  .of_eq rfl rfl

end KeepsMembers

/-- Callbacks are only added, and no function is bound. -/
structure KeepsBindings (s s₁ : Progress) : Prop where
  callbacks : ∀ entry ∈ s.callbacks, entry ∈ s₁.callbacks
  bound : s₁.bound = s.bound

theorem KeepsBindings.of_eq {s s₁ : Progress} (callbacks : s₁.callbacks = s.callbacks)
    (bound : s₁.bound = s.bound) : s.KeepsBindings s₁ where
  callbacks _ inside := callbacks ▸ inside
  bound := bound

theorem KeepsBindings.trans {s s₁ s₂ : Progress} (first : s.KeepsBindings s₁)
    (second : s₁.KeepsBindings s₂) : s.KeepsBindings s₂ where
  callbacks entry inside := second.callbacks entry (first.callbacks entry inside)
  bound := second.bound.trans first.bound

end Progress

namespace Job

variable {job : Job} {s s₁ s' : Progress}

/-- A task asks for a name. -/
def Task.Names (header : Header) (name : String) : Task → Prop
  | .decl id => (header.decl id).properName? = some name
  | .mentions list => ∃ mention ∈ list, mention.name = name

/-- Giving a name to what was not marked yet leaves the names of what was. -/
theorem find?_set_of_fresh {given : GivenNames} {own newName name : String}
    (fresh : own ∉ s.exported) (marked : name ∈ s.exported) :
    (given.set own newName).find? name = given.find? name := by
  rw [Table.find?_set, if_neg]
  rintro rfl
  exact fresh marked

section

variable {id : DeclId} {opening : Opening} (opens : job.Opens id s opening s₁)

include opens

theorem Opens.exported : ∀ name ∈ s.exported, name ∈ s₁.exported := by
  intro name marked
  cases opens with
  | tag => exact List.mem_cons_of_mem _ marked
  | typedef => simp [marked]

theorem Opens.exists_fresh :
    ∃ name, (job.header.decl id).properName? = some name ∧ name ∉ s.exported := by
  cases opens with
  | tag named fresh | typedef named fresh => exact ⟨_, named, fresh⟩

theorem Opens.marks {name : String} (named : (job.header.decl id).properName? = some name) :
    name ∈ s₁.exported := by
  cases opens with
  | tag own =>
    rw [named] at own
    cases own
    exact List.mem_cons_self
  | typedef own =>
    rw [named] at own
    cases own
    simp

theorem Opens.given_of_marked {name : String} (marked : name ∈ s.exported) :
    s₁.given.find? name = s.given.find? name := by
  cases opens with
  | tag named fresh => exact find?_set_of_fresh fresh marked
  | @typedef own newName _ _ target named fresh =>
    have still : name ∈ (((s.marked own).named own newName).classed target newName).exported :=
      List.mem_cons_of_mem _ marked
    refine (Progress.find?_given_claimed _ _ _).trans ?_
    rw [if_neg fun claims => claims.2 still]
    exact find?_set_of_fresh fresh marked

theorem Opens.items : s₁.items = s.items := by
  cases opens <;> simp

theorem Opens.find?_classes {tag : DeclId} {className : String}
    (known : s₁.classes.find? tag = some className) :
    s.classes.find? tag = some className ∨ opening.target = tag ∧ opening.newName = className := by
  have classes : s₁.classes = s.classes.set opening.target opening.newName := by
    cases opens <;> simp
  rw [classes, Table.find?_set] at known
  split at known
  case isTrue same => exact .inr ⟨same, Option.some.inj known⟩
  case isFalse => exact .inl known

theorem Opens.callbacks : s₁.callbacks = s.callbacks := by
  cases opens <;> simp

theorem Opens.keepsMembers : s.KeepsMembers s₁ :=
  .of_eq (by cases opens <;> simp) opens.callbacks

theorem Opens.keepsBindings : s.KeepsBindings s₁ :=
  .of_eq opens.callbacks (by cases opens <;> simp)

end

theorem Exports.exported {task : Task} (exports : job.Exports task s s') :
    ∀ name ∈ s.exported, name ∈ s'.exported := by
  induction exports with
  | done | known => exact fun _ marked => marked
  | next named first others ihFirst ihOthers =>
    exact fun name marked => ihOthers name (ihFirst name marked)
  | other | otherName => exact fun _ => List.mem_cons_of_mem _
  | enumClass opens => exact opens.exported
  | structClass opens record inside exported ih =>
    exact fun name marked => ih name (opens.exported name marked)
  | callback named fresh renamed kind names untagged calls inside ih =>
    exact fun name marked => ih name (List.mem_cons_of_mem _ marked)
  | plain named fresh renamed kind names untagged uncalled inside quiet ih =>
    exact fun name marked => ih name (List.mem_cons_of_mem _ marked)

/-- A name that is marked keeps the name that it was given, or stays without one. -/
theorem Exports.given_of_marked {task : Task} (exports : job.Exports task s s') :
    ∀ name ∈ s.exported, s'.given.find? name = s.given.find? name := by
  induction exports with
  | done | known | other => exact fun _ _ => rfl
  | next named first others ihFirst ihOthers =>
    exact fun name marked =>
      (ihOthers name (first.exported name marked)).trans (ihFirst name marked)
  | enumClass opens => exact fun name marked => opens.given_of_marked marked
  | structClass opens record inside exported ih =>
    exact fun name marked =>
      (ih name (opens.exported name marked)).trans (opens.given_of_marked marked)
  | otherName named fresh => exact fun name marked => find?_set_of_fresh fresh marked
  | callback named fresh renamed kind names untagged calls inside ih =>
    exact fun name marked => ih name (List.mem_cons_of_mem _ marked)
  | plain named fresh renamed kind names untagged uncalled inside quiet ih =>
    exact fun name marked => ih name (List.mem_cons_of_mem _ marked)

theorem Exports.marks {task : Task} (exports : job.Exports task s s') :
    ∀ name, task.Names job.header name → name ∈ s'.exported := by
  induction exports with
  | done =>
    rintro name ⟨_, inside, -⟩
    cases inside
  | next named first others ihFirst ihOthers =>
    rintro name ⟨mention, inside, rfl⟩
    rcases List.mem_cons.mp inside with rfl | later
    · exact others.exported _ (ihFirst _ named)
    · exact ihOthers _ ⟨mention, later, rfl⟩
  | known own marked =>
    intro name named
    rw [named] at own
    cases own
    exact marked
  | other own | otherName own =>
    intro name named
    rw [named] at own
    cases own
    exact List.mem_cons_self
  | enumClass opens => exact fun name named => opens.marks named
  | structClass opens record inside exported ih =>
    exact fun name named => inside.exported _ (opens.marks named)
  | callback own fresh renamed kind names untagged calls inside ih =>
    intro name named
    rw [named] at own
    cases own
    exact inside.exported _ List.mem_cons_self
  | plain own fresh renamed kind names untagged uncalled inside quiet ih =>
    intro name named
    rw [named] at own
    cases own
    exact inside.exported _ List.mem_cons_self

theorem Exports.items {task : Task} (exports : job.Exports task s s') :
    ∀ item ∈ s.items, item ∈ s'.items := by
  induction exports with
  | done | known | other => exact fun _ written => written
  | next named first others ihFirst ihOthers =>
    exact fun item written => ihOthers item (ihFirst item written)
  | enumClass opens =>
    intro item written
    rw [← opens.items] at written
    exact List.mem_append_left _ written
  | structClass opens record inside exported ih =>
    intro item written
    rw [← opens.items] at written
    exact List.mem_append_left _ (ih item written)
  | otherName => exact fun _ => List.mem_append_left _
  | callback named fresh renamed kind names untagged calls inside ih =>
    exact fun item written => List.mem_append_left _ (ih item written)
  | plain named fresh renamed kind names untagged uncalled inside quiet ih => exact ih

/-- A class that was recorded is written in the end. -/
theorem Exports.written {task : Task} (exports : job.Exports task s s') :
    ∀ id className, s'.classes.find? id = some className →
      s.classes.find? id = some className ∨
        ∃ item ∈ s'.items, item.classOf? = some (id, className) := by
  induction exports with
  | done | known | other | otherName => exact fun _ _ => .inl
  | next named first others ihFirst ihOthers =>
    intro id className known
    rcases ihOthers id className known with before | written
    · rcases ihFirst id className before with before | ⟨item, inside, isClass⟩
      · exact .inl before
      · exact .inr ⟨item, others.items item inside, isClass⟩
    · exact .inr written
  | enumClass opens =>
    intro id className known
    rcases opens.find?_classes known with before | ⟨rfl, rfl⟩
    · exact .inl before
    · exact .inr ⟨_, List.mem_append_right _ (List.mem_singleton_self _), rfl⟩
  | structClass opens record inside exported ih =>
    intro id className known
    rcases ih id className known with before | ⟨item, written, isClass⟩
    · rcases opens.find?_classes before with before | ⟨rfl, rfl⟩
      · exact .inl before
      · exact .inr ⟨_, List.mem_append_right _ (List.mem_singleton_self _), rfl⟩
    · exact .inr ⟨item, List.mem_append_left _ written, isClass⟩
  | callback named fresh renamed kind names untagged calls inside ih =>
    intro id className known
    rcases ih id className known with before | ⟨item, written, isClass⟩
    · exact .inl before
    · exact .inr ⟨item, List.mem_append_left _ written, isClass⟩
  | plain named fresh renamed kind names untagged uncalled inside quiet ih => exact ih

/-- Exports add no function and no callback without a name to the library class. -/
theorem Exports.keepsMembers {task : Task} (exports : job.Exports task s s') :
    s.KeepsMembers s' := by
  induction exports with
  | done | known | other | otherName => exact .of_eq rfl rfl
  | next named first others ihFirst ihOthers =>
    exact ((Progress.KeepsMembers.reported _).trans ihFirst).trans ihOthers
  | enumClass opens => exact (opens.keepsMembers.trans (.reported _)).trans (.emitted _)
  | structClass opens record inside exported ih =>
    refine Progress.KeepsMembers.trans ?_ (.emitted _)
    exact ((opens.keepsMembers.trans (.reported _)).trans ih).trans (.reported _)
  | callback named fresh renamed kind names untagged calls inside ih =>
    refine (((Progress.KeepsMembers.marked _).trans (.reported _)).trans ih).trans ⟨rfl, ?_⟩
    intro entry inside
    rcases List.mem_append.mp inside with before | added
    · exact .inl before
    · rw [List.mem_singleton.mp added]
      exact .inr (by simp [Header.bindPrototype])
  | plain named fresh renamed kind names untagged uncalled inside quiet ih =>
    exact ((Progress.KeepsMembers.marked _).trans ih).trans (.reported _)

/-- Exports take no callback back and bind no function. -/
theorem Exports.keepsBindings {task : Task} (exports : job.Exports task s s') :
    s.KeepsBindings s' := by
  induction exports with
  | done | known | other | otherName => exact .of_eq rfl rfl
  | next named first others ihFirst ihOthers =>
    exact ⟨(ihFirst.trans ihOthers).callbacks, (ihFirst.trans ihOthers).bound⟩
  | enumClass opens => exact opens.keepsBindings.trans (.of_eq rfl rfl)
  | structClass opens record inside exported ih =>
    have begun := opens.keepsBindings
    exact ⟨fun entry before => ih.callbacks entry (begun.callbacks entry before),
      ih.bound.trans begun.bound⟩
  | callback named fresh renamed kind names untagged calls inside ih =>
    exact ⟨fun entry before => List.mem_append_left _ (ih.callbacks entry before), ih.bound⟩
  | plain named fresh renamed kind names untagged uncalled inside quiet ih =>
    exact ⟨ih.callbacks, ih.bound⟩

end Job

end HeaderBindings
