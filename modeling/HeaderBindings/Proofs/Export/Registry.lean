import HeaderBindings.Proofs.Export.Nesting
import HeaderBindings.Proofs.Export.Run

/-!
# The registry is written once

Whatever is asked of an export, and wherever it fails, what was registered stays: marked names stay
marked, a name that was given and a class that was recorded are not changed, and the text and the
library class only grow at their ends. The one exception is a declaration with the empty name that
is asked for by itself. A type definition gives it a class without marking its name, for the empty
name marks nothing, and so it may be given another class afterwards.
-/

namespace HeaderBindings

namespace Progress

/-- Nothing that was registered or written is taken back or changed, but the classes of some
    declarations may be replaced. -/
structure Keeps (isLoose : DeclId → Prop) (s s' : Progress) : Prop where
  exported : ∀ name ∈ s.exported, name ∈ s'.exported
  given : ∀ {name newName : String}, s.given.find? name = some newName →
    s'.given.find? name = some newName
  classes : ∀ {id : DeclId} {className : String}, s.classes.find? id = some className →
    s'.classes.find? id = some className ∨
      (∃ other, s'.classes.find? id = some other) ∧ isLoose id
  calls : s.calls <+: s'.calls
  callbacks : s.callbacks <+: s'.callbacks
  items : s.items <+: s'.items

namespace Keeps

variable {isLoose : DeclId → Prop} {s s₁ s₂ : Progress}

theorem refl (s : Progress) : s.Keeps isLoose s :=
  ⟨fun _ marked => marked, id, .inl, List.prefix_rfl, List.prefix_rfl, List.prefix_rfl⟩

theorem trans (first : s.Keeps isLoose s₁) (second : s₁.Keeps isLoose s₂) : s.Keeps isLoose s₂ where
  exported name marked := second.exported name (first.exported name marked)
  given known := second.given (first.given known)
  classes known := by
    rcases first.classes known with same | ⟨⟨other, replaced⟩, loose⟩
    · exact second.classes same
    · rcases second.classes replaced with same | ⟨again, -⟩
      · exact .inr ⟨⟨other, same⟩, loose⟩
      · exact .inr ⟨again, loose⟩
  calls := first.calls.trans second.calls
  callbacks := first.callbacks.trans second.callbacks
  items := first.items.trans second.items

theorem of_adds (adds : s.Adds s₁) : s.Keeps isLoose s₁ where
  exported name marked := by rwa [adds.exported]
  given known := by rwa [adds.given]
  classes known := .inl (by rwa [adds.classes])
  calls := adds.calls
  callbacks := adds.callbacks
  items := adds.items

end Keeps

/-- A class claims a name and is recorded, in either order. -/
theorem classed_claimed (s : Progress) (id : DeclId) (newName : String) (tag : Option String) :
    (s.classed id newName).claimed tag newName = (s.claimed tag newName).classed id newName := by
  cases tag with
  | none => rfl
  | some tag =>
    simp only [claimed]
    split
    · rename_i known
      rw [if_pos (by exact known)]
    · rename_i fresh
      rw [if_neg (by exact fresh)]
      rfl

/-- A name that is marked is not claimed. -/
theorem claimed_of_marked {s : Progress} {tag : Option String} {newName : String}
    (marked : ∀ name, tag = some name → name ∈ s.exported) : s.claimed tag newName = s := by
  cases tag with
  | none => rfl
  | some tag => rw [claimed, if_pos (marked tag rfl)]

end Progress

/-- A request asks for a declaration with the empty name by itself, before that name is marked. -/
def Request.Loosens (header : Header) (s : Progress) (request : Request) (id : DeclId) : Prop :=
  request = .declaration id ∧ (header.decl id).name = some "" ∧ "" ∉ s.exported

namespace Job

variable (job : Job)

/-- Every name that was given a new name is marked, and so is a name that the new one comes from. A
    declaration with a class has its name marked, if it has one that is not empty. -/
structure Registered (s : Progress) : Prop where
  marked : ∀ {name newName : String}, s.given.find? name = some newName → name ∈ s.exported
  renamed : ∀ {name newName : String}, s.given.find? name = some newName →
    ∃ source ∈ s.exported, job.names.apply source = .ok newName
  tagMarked : ∀ {id : DeclId} {className name : String}, s.classes.find? id = some className →
    (job.header.decl id).properName? = some name → name ∈ s.exported

/-- What is registered stays as it was. -/
def KeepsRegistry (isLoose : DeclId → Prop) (s s' : Progress) : Prop :=
  job.Registered s → job.Registered s' ∧ s.Keeps isLoose s'

/-- The discipline of a registry that is written once. -/
def registry (isLoose : DeclId → Prop) : job.Discipline fun _ => True where
  Leads := job.KeepsRegistry isLoose
  Fails _ _ := True
  refl s registered := ⟨registered, .refl s⟩
  trans first second registered := by
    obtain ⟨between, keeps⟩ := first registered
    obtain ⟨after, keepsAgain⟩ := second between
    exact ⟨after, keeps.trans keepsAgain⟩
  adds := by
    intro s s' adds registered
    refine ⟨⟨fun known => ?_, fun known => ?_, fun known named => ?_⟩, .of_adds adds⟩
    · rw [adds.exported]
      exact registered.marked (adds.given ▸ known)
    · rw [adds.exported]
      exact registered.renamed (adds.given ▸ known)
    · rw [adds.exported]
      exact registered.tagMarked (adds.classes ▸ known) named
  before _ _ := trivial
  caused _ := trivial

variable {job} {isLoose : DeclId → Prop} {s : Progress}

theorem Registered.start : job.Registered {} where
  marked known := by cases known
  renamed known := by cases known
  tagMarked known := by cases known

theorem keepsRegistry_marked (name : String) : job.KeepsRegistry isLoose s (s.marked name) := by
  intro registered
  refine ⟨⟨fun known => ?_, fun known => ?_, fun known named => ?_⟩,
    ⟨fun _ => List.mem_cons_of_mem _, id, .inl, List.prefix_rfl, List.prefix_rfl,
      List.prefix_rfl⟩⟩
  · exact List.mem_cons_of_mem _ (registered.marked known)
  · obtain ⟨source, marked, renamed⟩ := registered.renamed known
    exact ⟨source, List.mem_cons_of_mem _ marked, renamed⟩
  · exact List.mem_cons_of_mem _ (registered.tagMarked known named)

/-- A marked name that was not given a name yet is given the new name of a marked one. -/
theorem keepsRegistry_named {name newName source : String} (free : s.given.find? name = none)
    (marked : name ∈ s.exported) (isSource : source ∈ s.exported)
    (renamed : job.names.apply source = .ok newName) :
    job.KeepsRegistry isLoose s (s.named name newName) := by
  intro registered
  refine ⟨⟨fun known => ?_, fun known => ?_, registered.tagMarked⟩,
    ⟨fun _ marked => marked, fun known => ?_, .inl, List.prefix_rfl, List.prefix_rfl,
      List.prefix_rfl⟩⟩
  · rw [Progress.named, Table.find?_set] at known
    split at known
    case isTrue same => exact same ▸ marked
    case isFalse => exact registered.marked known
  · rw [Progress.named, Table.find?_set] at known
    split at known
    case isTrue =>
      cases known
      exact ⟨source, isSource, renamed⟩
    case isFalse => exact registered.renamed known
  · rw [Progress.named, Table.find?_set, if_neg]
    · exact known
    · rintro rfl
      rw [free] at known
      cases known

/-- A declaration without a class, whose name is marked, is recorded with one. -/
theorem keepsRegistry_classed {id : DeclId} {newName : String}
    (free : s.classes.find? id = none ∨ isLoose id)
    (marked : ∀ name, (job.header.decl id).properName? = some name → name ∈ s.exported) :
    job.KeepsRegistry isLoose s (s.classed id newName) := by
  intro registered
  refine ⟨⟨registered.marked, registered.renamed, fun {other _ name} known named => ?_⟩,
    ⟨fun _ marked => marked, fun known => known, fun {other _} known => ?_, List.prefix_rfl,
      List.prefix_rfl, List.prefix_rfl⟩⟩
  · rw [Progress.classed, Table.find?_set] at known
    split at known
    case isTrue same => exact marked name (same ▸ named)
    case isFalse => exact registered.tagMarked known named
  · rw [Progress.classed, Table.find?_set]
    split
    case isTrue same =>
      subst same
      refine .inr ⟨⟨newName, rfl⟩, free.resolve_left fun unclassed => ?_⟩
      rw [unclassed] at known
      cases known
    case isFalse => exact .inl known

theorem Registered.free (registered : job.Registered s) {name : String}
    (fresh : name ∉ s.exported) : s.given.find? name = none := by
  cases known : s.given.find? name with
  | none => rfl
  | some newName => exact absurd (registered.marked known) fresh

/-- A name that was not marked before is marked, and it is given its new name. -/
theorem keepsRegistry_alias {name newName : String} (fresh : name ∉ s.exported)
    (renamed : job.names.apply name = .ok newName) :
    job.KeepsRegistry isLoose s ((s.marked name).named name newName) := by
  intro registered
  have gives : job.KeepsRegistry isLoose (s.marked name) ((s.marked name).named name newName) :=
    keepsRegistry_named (registered.free fresh) List.mem_cons_self List.mem_cons_self renamed
  exact (job.registry isLoose).trans (keepsRegistry_marked name) gives registered

/-- A class claims the name of its tag for the new name of a marked one. -/
theorem keepsRegistry_claimed {tag : Option String} {newName source : String}
    (isSource : source ∈ s.exported) (renamed : job.names.apply source = .ok newName) :
    job.KeepsRegistry isLoose s (s.claimed tag newName) := by
  intro registered
  cases tag with
  | none => exact ⟨registered, .refl s⟩
  | some tag =>
    simp only [Progress.claimed]
    split
    case isTrue => exact ⟨registered, .refl s⟩
    case isFalse fresh =>
      have gives : job.KeepsRegistry isLoose (s.marked tag) ((s.marked tag).named tag newName) :=
        keepsRegistry_named (registered.free fresh) List.mem_cons_self
          (List.mem_cons_of_mem _ isSource) renamed
      exact (job.registry isLoose).trans (keepsRegistry_marked tag) gives registered

/-- A name that was not marked before gives a class to a declaration that has none, and the name of
    that is claimed. -/
theorem keepsRegistry_class {name newName : String} {target : DeclId} (fresh : name ∉ s.exported)
    (renamed : job.names.apply name = .ok newName)
    (free : job.Registered s → s.classes.find? target = none ∨ isLoose target) :
    job.KeepsRegistry isLoose s
      ((((s.marked name).named name newName).classed target newName).claimed
        (job.header.decl target).properName? newName) := by
  intro registered
  rw [Progress.classed_claimed]
  have claims : job.KeepsRegistry isLoose s (((s.marked name).named name newName).claimed
      (job.header.decl target).properName? newName) :=
    (job.registry isLoose).trans (keepsRegistry_alias fresh renamed)
      (keepsRegistry_claimed List.mem_cons_self renamed)
  refine (job.registry isLoose).trans claims (keepsRegistry_classed ?_ ?_) registered
  · rw [Progress.classes_claimed]
    exact free registered
  · exact fun tag named => (Progress.mem_exported_claimed _ _ _).mpr (.inr named)

/-- An export within any budget keeps the registry, but for the class of a declaration with the
    empty name. -/
theorem holds_exportWithin {budget : Nat} {id : DeclId}
    (loose : (job.header.decl id).name = some "" → "" ∉ s.exported → isLoose id) :
    (job.registry isLoose).Holds (job.exportWithin budget id) s s := by
  induction budget generalizing id s with
  | zero =>
    rw [exportWithin_zero]
    refine Discipline.holds_ifNamed ((job.registry isLoose).refl s) fun name named => ?_
    refine .exportOnce_bind (fun _ => .of_pure ((job.registry isLoose).refl s)) fun _ => ?_
    exact .of_throw (keepsRegistry_marked name) trivial
  | succ budget ih =>
    rw [exportWithin_succ, exportStep]
    refine Discipline.holds_ifNamed ((job.registry isLoose).refl s) fun name named => ?_
    refine .exportOnce_bind (fun _ => .of_pure ((job.registry isLoose).refl s)) fun fresh => ?_
    refine Discipline.holds_exportNew (keepsRegistry_marked name) ?_ ?_ ?_ ?_
    · intro other own s proper
      exact ih fun isEmpty => absurd isEmpty (Decl.name_ne_empty proper)
    · intro newName renamed
      have onlyName : ∀ tag, (job.header.decl id).properName? = some tag → tag = name := by
        intro tag proper
        exact Option.some.inj ((Option.filter_eq_some_iff.mp proper).1.symm.trans named)
      have opens : (job.Registered s → s.classes.find? id = none ∨ isLoose id) → _ :=
        keepsRegistry_class fresh renamed
      rw [Progress.claimed_of_marked fun tag proper => onlyName tag proper ▸ List.mem_cons_self]
        at opens
      refine opens fun registered => ?_
      by_cases isEmpty : name = ""
      · exact .inr (loose (isEmpty ▸ named) (isEmpty ▸ fresh))
      · refine .inl ?_
        cases known : s.classes.find? id with
        | none => rfl
        | some className =>
          have proper : (job.header.decl id).properName? = some name :=
            Option.filter_eq_some_iff.mpr ⟨named, by simpa using isEmpty⟩
          exact absurd (registered.tagMarked known proper) fresh
    · exact fun newName renamed => keepsRegistry_alias fresh renamed
    · intro newName target renamed unnamed
      exact keepsRegistry_class fresh renamed fun _ => .inl (Option.or_eq_none_iff.mp unnamed).1

theorem keepsRegistry_perform (request : Request) :
    job.KeepsRegistry (request.Loosens job.header s) s ((job.perform request).outcome s).2 := by
  have visits : (job.registry (request.Loosens job.header s)).Visits job.exportDecl :=
    fun proper => holds_exportWithin fun isEmpty => absurd isEmpty (Decl.name_ne_empty proper)
  refine (Discipline.holds_performVia ((job.registry _).refl s) visits (fun _ => trivial) ?_).leads
  rintro id rfl
  exact holds_exportWithin fun isEmpty fresh => ⟨rfl, isEmpty, fresh⟩

theorem after_append (requests : List Request) (request : Request) :
    job.after (requests ++ [request]) = ((job.perform request).outcome (job.after requests)).2 := by
  rw [after, List.foldl_append]
  rfl

theorem registered_after (requests : List Request) : job.Registered (job.after requests) := by
  induction requests using List.reverseRecOn with
  | nil => exact .start
  | append_singleton earlier request ih =>
    rw [after_append]
    exact (keepsRegistry_perform request ih).1

variable (job) in
/-- After any requests, failed ones included: every name that was given a new name is marked, and
    the new name is that of a marked one. Another request takes no mark back, changes no name that
    was given and no class that was recorded, and only adds to the ends of the library class and of
    the text. The class of a declaration with the empty name may change, once, when that is asked
    for by itself. -/
theorem after_writes_once (earlier : List Request) (request : Request) :
    let s := job.after earlier
    let s' := job.after (earlier ++ [request])
    (∀ name newName, s.given.find? name = some newName →
      name ∈ s.exported ∧ ∃ source ∈ s.exported, job.names.apply source = .ok newName) ∧
    (∀ name ∈ s.exported, name ∈ s'.exported) ∧
    (∀ name newName, s.given.find? name = some newName → s'.given.find? name = some newName) ∧
    (∀ id className, s.classes.find? id = some className →
      s'.classes.find? id = some className ∨
        (∃ other, s'.classes.find? id = some other) ∧
          request = .declaration id ∧ (job.header.decl id).name = some "" ∧ "" ∉ s.exported) ∧
    s.calls <+: s'.calls ∧
    s.callbacks <+: s'.callbacks ∧
    s.items.flatMap Item.chunks <+: s'.items.flatMap Item.chunks := by
  intro s s'
  have registered := job.registered_after earlier
  have keeps : s.Keeps (request.Loosens job.header s) s' := by
    rw [show s' = _ from job.after_append earlier request]
    exact (keepsRegistry_perform request registered).2
  refine ⟨fun name newName known => ⟨registered.marked known, registered.renamed known⟩,
    keeps.exported, fun _ _ => keeps.given, fun _ _ => keeps.classes, keeps.calls,
    keeps.callbacks, ?_⟩
  obtain ⟨added, same⟩ := keeps.items
  rw [← same, List.flatMap_append]
  exact List.prefix_append _ _

end Job

/-!
A type definition of a structure with the empty name. The structure has its class from the type
definition, and another one after it was asked for by itself.
-/

namespace EmptyName

def record : CType := { kind := .record, spelling := "struct ", declaration := some 1 }

def job : Job :=
  ⟨⟨#[{ kind := .typedef, name := some "T", underlying := some record },
    { kind := .struct, name := some "" }]⟩, .prefixing⟩

/-- A class that was recorded is changed. -/
theorem class_overwritten :
    (job.after [.declaration 0]).classes.find? 1 = some "X_T" ∧
      (job.after ([.declaration 0] ++ [.declaration 1])).classes.find? 1 = some "X_" := by
  constructor <;> cbv

end EmptyName

end HeaderBindings
