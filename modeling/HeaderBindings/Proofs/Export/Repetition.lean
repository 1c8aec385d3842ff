import HeaderBindings.Proofs.Export.Functions
import HeaderBindings.Proofs.Export.StructClasses

/-!
# Exporting a header again

A successful export of a header leaves it exhausted: the functions in scope are bound and complete,
and the names of the type declarations in scope are marked. An export of an exhausted header finds
nothing to do. It writes the frame of the text once more, with the same library class inside, and
changes nothing else but the log.
-/

namespace HeaderBindings

namespace Exporter

variable {α : Type} {visit : α → Exporter Unit} {list : List α} {s s' : Progress}

/-- What every visit keeps is kept by visiting all. -/
theorem kept_of_forM (kept : Progress → Prop)
    (keeps : ∀ x ∈ list, ∀ {s s' : Progress}, (visit x).Succeeds s () s' → kept s → kept s')
    (run : (list.forM visit).Succeeds s () s') (before : kept s) : kept s' := by
  induction list generalizing s with
  | nil =>
    rw [succeeds_forM_nil] at run
    rwa [run]
  | cons x rest ih =>
    obtain ⟨keepsFirst, keepsRest⟩ := List.forall_mem_cons.mp keeps
    obtain ⟨middle, first, others⟩ := succeeds_forM_cons.mp run
    exact ih keepsRest others (keepsFirst first before)

/-- What a visit settles and no later visit takes back is settled for all after the last one. -/
theorem settled_of_forM (settled : α → Progress → Prop)
    (settles : ∀ x ∈ list, ∀ {s s' : Progress}, (visit x).Succeeds s () s' → settled x s')
    (keeps : ∀ x ∈ list, ∀ {s s' : Progress}, (visit x).Succeeds s () s' →
      ∀ y, settled y s → settled y s')
    (run : (list.forM visit).Succeeds s () s') : ∀ x ∈ list, settled x s' := by
  induction list generalizing s with
  | nil => exact nofun
  | cons x rest ih =>
    obtain ⟨settlesFirst, settlesRest⟩ := List.forall_mem_cons.mp settles
    obtain ⟨-, keepsRest⟩ := List.forall_mem_cons.mp keeps
    obtain ⟨middle, first, others⟩ := succeeds_forM_cons.mp run
    intro y inside
    rcases List.mem_cons.mp inside with rfl | later
    · exact kept_of_forM (settled y) (fun z among _ _ visits => keepsRest z among visits y) others
        (settlesFirst first)
    · exact ih settlesRest keepsRest others y later

theorem succeeds_forM_of_still (still : ∀ x ∈ list, (visit x).Succeeds s () s) :
    (list.forM visit).Succeeds s () s := by
  induction list with
  | nil => exact succeeds_forM_nil.mpr rfl
  | cons x rest ih =>
    obtain ⟨first, others⟩ := List.forall_mem_cons.mp still
    exact succeeds_forM_cons.mpr ⟨s, first, ih others⟩

/-- Visits that only report, from where a report changes nothing, report one after another. -/
theorem succeeds_forM_of_reports (ready : Progress → Prop) (records : α → List Log.Record)
    (each : ∀ x ∈ list, ∀ {s : Progress}, ready s →
      (visit x).Succeeds s () (s.reported (records x)) ∧ ready (s.reported (records x)))
    (isReady : ready s) :
    (list.forM visit).Succeeds s () (s.reported (list.flatMap records)) := by
  induction list generalizing s with
  | nil => exact succeeds_forM_nil.mpr (by simp)
  | cons x rest ih =>
    obtain ⟨visitFirst, visitRest⟩ := List.forall_mem_cons.mp each
    obtain ⟨first, isReadyThen⟩ := visitFirst isReady
    have both : s.reported ((x :: rest).flatMap records) =
        (s.reported (records x)).reported (rest.flatMap records) := by simp
    rw [both]
    exact succeeds_forM_cons.mpr ⟨_, first, ih visitRest isReadyThen⟩

end Exporter

namespace Job

open Exporter

variable (job : Job)

/-- A function is bound, and has a result type and a list of arguments. -/
structure IsBound (s : Progress) (id : DeclId) : Prop where
  result : (job.header.decl id).resultType.isSome
  arguments : (job.header.decl id).arguments.isSome
  bound : (job.header.decl id).name.getD "" ∈ s.bound

/-- Nothing in scope is left to export. -/
structure Exhausted (root : DeclId) (s : Progress) : Prop where
  functions : ∀ id ∈ job.childrenInScope root (· = .function), job.IsBound s id
  types : ∀ id ∈ job.childrenInScope root (·.declaresType), job.IsKnown s id

/-- What is reported of a function that is bound already. -/
def boundAgainReport (id : DeclId) : List Log.Record :=
  let decl := job.header.decl id
  [⟨.info, .declarations, "Parse function: `" ++ decl.name.getD "None" ++ "`"⟩,
    ⟨.debug, .declarations, "Function `" ++ decl.name.getD "" ++ "` already bound"⟩]

variable {job} {root id : DeclId} {className : String} {s s' : Progress}

theorem IsBound.mono (isBound : job.IsBound s id) (grows : ∀ name ∈ s.bound, name ∈ s'.bound) :
    job.IsBound s' id :=
  ⟨isBound.result, isBound.arguments, grows _ isBound.bound⟩

theorem Exhausted.of_same (exhausted : job.Exhausted root s) (bound : s'.bound = s.bound)
    (exported : s'.exported = s.exported) : job.Exhausted root s' where
  functions other inside := (exhausted.functions other inside).mono fun _ known => bound ▸ known
  types other inside name named := exported ▸ exhausted.types other inside name named

section

variable {name : String} (named : (job.header.decl id).name = some name)

include named

theorem mem_bound_of_bindFunction
    (run : (job.bindFunction (job.header.decl id)).Succeeds s () s') {other : String} :
    other ∈ s'.bound ↔ other = name ∨ other ∈ s.bound := by
  have marks := takes_of_bindFunction named run
  by_cases known : name ∈ s.bound
  · rw [if_pos known] at marks
    rw [marks.2]
    exact ⟨.inr, fun found => found.elim (· ▸ known) fun before => before⟩
  · rw [if_neg known] at marks
    obtain ⟨_, -, bound⟩ := marks
    rw [bound, List.mem_cons]

theorem isBound_of_bindFunction
    (run : (job.bindFunction (job.header.decl id)).Succeeds s () s') : job.IsBound s' id := by
  have bound := (mem_bound_of_bindFunction named run).mpr (.inl rfl)
  obtain ⟨isResult, areArguments, -⟩ := bindsFunction_of_run named run
  exact ⟨isResult, areArguments, by rw [named]; exact bound⟩

theorem IsBound.bindFunction (isBound : job.IsBound s id) :
    (job.bindFunction (job.header.decl id)).Succeeds s ()
      (s.reported (job.boundAgainReport id)) := by
  obtain ⟨result, isResult⟩ := Option.isSome_iff_exists.mp isBound.result
  obtain ⟨arguments, areArguments⟩ := Option.isSome_iff_exists.mp isBound.arguments
  have known : name ∈ s.bound := by
    have bound := isBound.bound
    rwa [named] at bound
  simp [Job.bindFunction, bindFunctionVia, ifNamed_of_name named, isResult, areArguments,
    succeeds_bind, bindOnce_succeeds, known, boundAgainReport, named]

end

/-- A successful export leaves the header exhausted, whatever was exported before. -/
theorem exhausted_of_exportHeader {start : Progress}
    (run : (job.exportHeader className root).Succeeds start () s) :
    job.Exhausted root s ∧ s.items.getLast? = some (.library ⟨className, s.callbacks, s.calls⟩) := by
  simp only [exportHeader, exportHeaderVia, addLibraryClass, succeeds_bind, emit_succeeds,
    succeeds_get] at run
  obtain ⟨_, _, rfl, _, _, rfl, _, s₁, functions, _, s₂, declarations, _, _, ⟨got, same⟩, last⟩ :=
    run
  have binds : ∀ id ∈ job.childrenInScope root (· = .function), job.IsBound s₁ id := by
    apply settled_of_forM (fun id s => job.IsBound s id) ?_ ?_ functions
    · intro id inside _ _ visits
      exact isBound_of_bindFunction (name_of_mem_childrenInScope inside) visits
    · intro id inside _ _ visits other isBound
      have named := name_of_mem_childrenInScope inside
      exact isBound.mono fun _ known => (mem_bound_of_bindFunction named visits).mpr (.inr known)
  have sameBound : s₂.bound = s₁.bound := by
    apply kept_of_forM (fun s => s.bound = s₁.bound) ?_ declarations rfl
    intro id inside _ _ visits before
    have exports := exports_of_exportDecl (getD_name_of_mem_childrenInScope inside) visits
    exact exports.keepsBindings.bound.trans before
  have marks : ∀ id ∈ job.childrenInScope root (·.declaresType), job.IsKnown s₂ id := by
    apply settled_of_forM (fun id s => job.IsKnown s id) ?_ ?_ declarations
    · intro id inside _ _ visits name isName
      obtain ⟨-, -, own, proper⟩ := exists_name_of_mem_childrenInScope inside
      cases isName.symm.trans (Decl.name_of_properName? proper)
      exact (exports_of_exportDecl proper visits).marks _ proper
    · intro id inside _ _ visits other marked name isName
      have named := getD_name_of_mem_childrenInScope inside
      exact (exports_of_exportDecl named visits).exported _ (marked name isName)
  have exhausted : job.Exhausted root s₂ :=
    ⟨fun id inside => (binds id inside).mono fun _ known => sameBound ▸ known, marks⟩
  rw [last, same, got]
  exact ⟨exhausted.of_same rfl rfl, List.getLast?_concat⟩

theorem Exhausted.bindFunctions (exhausted : job.Exhausted root s) :
    ((job.childrenInScope root (· = .function)).forM fun id =>
      job.bindFunction (job.header.decl id)).Succeeds s ()
        (s.reported ((job.childrenInScope root (· = .function)).flatMap job.boundAgainReport)) := by
  apply succeeds_forM_of_reports (job.Exhausted root) _ ?_ exhausted
  intro id inside s exhausted
  exact ⟨(exhausted.functions id inside).bindFunction (name_of_mem_childrenInScope inside),
    exhausted.of_same rfl rfl⟩

theorem Exhausted.exportDecls (exhausted : job.Exhausted root s) :
    ((job.childrenInScope root (·.declaresType)).forM job.exportDecl).Succeeds s () s :=
  succeeds_forM_of_still fun id inside => (exhausted.types id inside).exportWithin

/-- Exporting an exhausted header writes the frame of the text with the library class, and reports
    that every function is bound already. -/
theorem Exhausted.exportHeader (exhausted : job.Exhausted root s) :
    (job.exportHeader className root).Succeeds s ()
      { s with
        items := s.items ++ [.ffiImport, .blank, .library ⟨className, s.callbacks, s.calls⟩]
        log := s.log ++
          (job.childrenInScope root (· = .function)).flatMap job.boundAgainReport } := by
  have framed : job.Exhausted root ((s.emitted .ffiImport).emitted .blank) :=
    exhausted.of_same rfl rfl
  have bound : job.Exhausted root (((s.emitted .ffiImport).emitted .blank).reported
      ((job.childrenInScope root (· = .function)).flatMap job.boundAgainReport)) :=
    framed.of_same rfl rfl
  simp only [Job.exportHeader, exportHeaderVia, addLibraryClass, succeeds_bind, emit_succeeds,
    succeeds_get]
  refine ⟨(), _, rfl, (), _, rfl, (), _, framed.bindFunctions, (), _, bound.exportDecls, _, _,
    ⟨rfl, rfl⟩, ?_⟩
  simp

/-- Exporting a header again succeeds and adds nothing to what was registered. It appends the import,
    an empty line, and the library class that closes the text already. -/
theorem exportHeader_again {start : Progress}
    (run : (job.exportHeader className root).Succeeds start () s) :
    ∃ library,
      s.items.getLast? = some (.library library) ∧
      (job.exportHeader className root).Succeeds s ()
        { s with
          items := s.items ++ [.ffiImport, .blank, .library library]
          log := s.log ++
            (job.childrenInScope root (· = .function)).flatMap job.boundAgainReport } ∧
      [Item.ffiImport, .blank, .library library].flatMap Item.chunks =
        [.line "import 'dart:ffi';", .line "", .comment "Library class",
          .block ("class " ++ className) library.body] := by
  obtain ⟨exhausted, last⟩ := exhausted_of_exportHeader run
  exact ⟨_, last, exhausted.exportHeader, rfl⟩

end Job

/-- A function that is declared twice is bound once, and neither of its declarations is bound when
    the header is exported again. -/
theorem NestedCallbacks.exported_again :
    ∃ library,
      exported.items.getLast? = some (.library library) ∧
      library.calls.map (·.1) = ["X_f", "X_g"] ∧
      (job.exportHeader "Lib" 0).Succeeds exported ()
        { exported with
          items := exported.items ++ [.ffiImport, .blank, .library library]
          log := exported.log ++ [1, 2, 3].flatMap job.boundAgainReport } := by
  obtain ⟨library, last, again, -⟩ := Job.exportHeader_again run
  have isLast := (Job.exhausted_of_exportHeader run).2
  rw [last, Option.some.injEq, Item.library.injEq] at isLast
  have inScope : job.childrenInScope 0 (· = .function) = [1, 2, 3] := by cbv
  rw [inScope] at again
  exact ⟨library, last, by rw [isLast, outcome.2.1], again⟩

end HeaderBindings
