import HeaderBindings.Proofs.Export.Run

/-!
# What errors tell

A run logs an error just when the text refers to a structure by its own name: in the class of
another structure, in a callback, or in a function of the library class.
-/

namespace HeaderBindings

/-- How the records in the fields of a class, or in the signatures of a callback, are called. -/
def Item.references : Item → List RecordName
  | .structClass _ _ _ fields =>
      fields.flatMap fun field => field.type.toList.flatMap (·.references)
  | .callback _ binding => binding.references
  | _ => []

namespace Progress

/-- How the records are called in the functions of the library class and in its callbacks without a
    name. Callbacks with a name are items, too. -/
def memberReferences (s : Progress) : List RecordName :=
  s.calls.flatMap (·.2.references) ++
    (s.callbacks.filter (·.2.name.isNone)).flatMap (·.2.references)

/-- How the records in a text are called. -/
def references (s : Progress) : List RecordName :=
  s.items.flatMap (·.references) ++ s.memberReferences

/-- An error is logged just when the text refers to a structure by its own name. -/
def ErrorsTell (s : Progress) : Prop :=
  Log.HasError s.log ↔ ∃ name, .own name ∈ s.references

variable {s s₁ : Progress} {reference : RecordName}

theorem mem_references_emitted {item : Item} :
    reference ∈ (s.emitted item).references ↔
      reference ∈ s.references ∨ reference ∈ item.references := by
  simp only [references, memberReferences, emitted, List.flatMap_append, List.flatMap_singleton,
    List.mem_append]
  tauto

theorem mem_references_called {name : String} {binding : Binding} :
    reference ∈ ({ s with calls := s.calls ++ [(name, binding)] } : Progress).references ↔
      reference ∈ s.references ∨ reference ∈ binding.references := by
  simp only [references, memberReferences, List.flatMap_append, List.flatMap_singleton,
    List.mem_append]
  tauto

theorem mem_references_calledBack {label : String} {binding : Binding}
    (unnamed : binding.name = none) :
    reference ∈ (s.calledBack label binding).references ↔
      reference ∈ s.references ∨ reference ∈ binding.references := by
  simp only [references, memberReferences, calledBack, List.filter_append, List.flatMap_append,
    List.mem_append]
  simp [unnamed, or_assoc]

namespace ErrorsTell

/-- Errors still tell when references are added together with a report of those by own names. -/
theorem add (tells : s.ErrorsTell) {records : List Log.Record} {more : List RecordName}
    (log : s₁.log = s.log ++ records)
    (added : ∀ {reference : RecordName}, reference ∈ s₁.references ↔
      reference ∈ s.references ∨ reference ∈ more)
    (report : Log.HasError records ↔ ∃ name, .own name ∈ more) : s₁.ErrorsTell := by
  unfold ErrorsTell
  simp only [log, Log.hasError_append, report, added, exists_or]
  exact or_congr_left tells

theorem quiet (tells : s.ErrorsTell) {records : List Log.Record}
    (noError : ¬ Log.HasError records) (log : s₁.log = s.log ++ records)
    (references : s₁.references = s.references) : s₁.ErrorsTell := by
  unfold ErrorsTell
  rw [log, Log.hasError_append, or_iff_left noError, references]
  exact tells

theorem marked (tells : s.ErrorsTell) (name : String) : (s.marked name).ErrorsTell :=
  tells

theorem named (tells : s.ErrorsTell) (name newName : String) : (s.named name newName).ErrorsTell :=
  tells

theorem said (tells : s.ErrorsTell) {level : Log.Level} (message : String)
    (noError : level ≠ .error) : (s.said level message).ErrorsTell :=
  tells.quiet (by simpa [Log.HasError] using noError) rfl rfl

theorem emitted (tells : s.ErrorsTell) {item : Item} (none : item.references = []) :
    (s.emitted item).ErrorsTell := by
  unfold ErrorsTell
  simp only [mem_references_emitted, none, List.not_mem_nil, or_false]
  exact tells

theorem written (tells : s.ErrorsTell) {records : List Log.Record} {item : Item}
    (report : Log.HasError records ↔ ∃ name, .own name ∈ item.references) :
    ((s.reported records).emitted item).ErrorsTell :=
  tells.add rfl mem_references_emitted report

/-- A callback with a name refers to nothing that is no item. -/
theorem calledBack (tells : s.ErrorsTell) {label : String} {binding : Binding}
    (named : binding.name.isNone = false) : (s.calledBack label binding).ErrorsTell := by
  unfold ErrorsTell
  rw [show (s.calledBack label binding).references = s.references by
    simp [Progress.references, memberReferences, List.filter_append, named]]
  exact tells

end ErrorsTell

end Progress

namespace Job

variable {job : Job} {root : DeclId} {s s₁ s' : Progress}

/-- What is reported while declarations become fields is an error just when a field refers to a
    structure by its own name. -/
theorem hasError_fieldReports {given : GivenNames} {decls : List Decl} {fields : List Field}
    (become : List.Forall₂ (job.BecomesField given) decls fields) :
    Log.HasError (decls.flatMap (job.fieldReport given)) ↔
      ∃ name, .own name ∈ fields.flatMap fun field => field.type.toList.flatMap (·.references) := by
  induction become with
  | nil => simp [Log.HasError]
  | @cons decl field decls fields becomes _ ih =>
    obtain ⟨name, type, named, own, rfl⟩ := becomes
    have first : Log.HasError (job.fieldReport given decl) ↔
        ∃ own, .own own ∈ (job.header.fieldType? given type).toList.flatMap (·.references) := by
      have start : ∀ (record : Log.Record) (records : List Log.Record), record.level ≠ .error →
          (Log.HasError (record :: records) ↔ Log.HasError records) := by
        intro record records quiet
        simp [Log.HasError, quiet]
      rw [fieldReport, named, own]
      rw [start _ _ (by simp), Header.hasError_fieldReport]
      cases job.header.fieldType? given type <;> simp
    rw [List.flatMap_cons, List.flatMap_cons, Log.hasError_append, ih, first]
    simp only [List.mem_append, exists_or]

theorem Opens.errorsTell {id : DeclId} {opening : Opening} (opens : job.Opens id s opening s₁)
    (tells : s.ErrorsTell) : s₁.ErrorsTell := by
  cases opens with
  | tag => exact tells
  | typedef =>
    refine Progress.ErrorsTell.said ?_ _ (by simp)
    unfold Progress.claimed
    split
    · exact tells
    · split <;> exact tells

/-- Exports log an error just when they write an item that refers to a structure by its own
    name. -/
theorem Exports.errorsTell {task : Task} (exports : job.Exports task s s') :
    s.ErrorsTell → s'.ErrorsTell := by
  induction exports with
  | done | known => exact id
  | next named first others ihFirst ihOthers =>
    exact fun tells => ihOthers (ihFirst (tells.said _ (by simp)))
  | other => exact fun tells => (tells.marked _).said _ (by simp)
  | enumClass opens => exact fun tells => ((opens.errorsTell tells).said _ (by simp)).emitted rfl
  | structClass opens record inside exported ih =>
    intro tells
    exact (ih ((opens.errorsTell tells).said _ (by simp))).written (hasError_fieldReports exported)
  | otherName =>
    exact fun tells => (((tells.marked _).said _ (by simp)).named _ _).emitted rfl
  | callback named fresh renamed kind names untagged calls inside ih =>
    intro tells
    refine Progress.ErrorsTell.calledBack ?_ rfl
    refine Progress.ErrorsTell.written (ih ((tells.marked _).said _ (by simp))) ?_
    exact Header.hasError_bindPrototypeReport _ _
  | plain named fresh renamed kind names untagged uncalled inside quiet ih =>
    intro tells
    exact (ih (tells.marked _)).quiet (by simpa [Log.HasError] using quiet) rfl rfl

theorem Step.errorsTell (step : job.Step root s s') (tells : s.ErrorsTell) : s'.ErrorsTell := by
  cases step with
  | exports within exports => exact exports.errorsTell tells
  | reported quiet => exact tells.quiet quiet rfl rfl
  | wrote frame =>
    refine tells.emitted ?_
    rcases frame with rfl | rfl | ⟨cls, rfl⟩ <;> rfl
  | bound => exact tells
  | calledBack label reaches calls covers =>
    exact tells.add rfl (Progress.mem_references_calledBack rfl)
      (Header.hasError_bindPrototypeReport none none)
  | called newName reaches covers bound =>
    exact tells.add rfl Progress.mem_references_called (Header.hasError_bindFunctionReport bound)

theorem Steps.errorsTell (steps : job.Steps root {} s) : s.ErrorsTell := by
  induction steps with
  | refl => simp [Progress.ErrorsTell, Progress.references, Progress.memberReferences, Log.HasError]
  | tail _ step ih => exact step.errorsTell ih

end Job

end HeaderBindings
