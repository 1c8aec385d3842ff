import Mathlib.Data.Finset.Card
import HeaderBindings.Proofs.Export.Discipline

/-!
# Exports end

Declarations refer to each other in cycles, and exports follow the references. What keeps them from
going on for ever is that an export nests only under a name that it has just marked: exports nest no
deeper than there are names of declarations still unmarked. So the budget that bounds the nesting is
never used up, and an export does what the same steps do without any budget.
-/

namespace HeaderBindings

namespace Exporter

variable {α β : Type}

/-- A part of an export does the same as another, unless its budget is used up. -/
def Refines (part other : Exporter α) : Prop :=
  ∀ s, (part.outcome s).1 = .error .nesting ∨ part.outcome s = other.outcome s

namespace Refines

theorem refl (part : Exporter α) : part.Refines part :=
  fun _ => .inr rfl

theorem bind {part other : Exporter α} {next otherNext : α → Exporter β}
    (first : part.Refines other) (rest : ∀ value, (next value).Refines (otherNext value)) :
    (part >>= next).Refines (other >>= otherNext) := by
  intro s
  rw [outcome_bind, outcome_bind]
  rcases first s with spent | same
  · rcases ends : part.outcome s with ⟨result, s₁⟩
    rw [ends] at spent
    dsimp only at spent
    subst spent
    exact .inl rfl
  · rw [same]
    rcases other.outcome s with ⟨result, s₁⟩
    cases result with
    | ok value => exact rest value s₁
    | error failure => exact .inr rfl

theorem forM {visit other : α → Exporter Unit} (each : ∀ x, (visit x).Refines (other x))
    (list : List α) : (list.forM visit).Refines (list.forM other) := by
  induction list with
  | nil => exact .refl _
  | cons x rest ih =>
    simp only [List.forM_eq_forM, List.forM_cons]
    exact (each x).bind fun _ => ih

theorem ite {condition : Prop} [Decidable condition] {part part' other other' : Exporter α}
    (yes : part.Refines other) (no : part'.Refines other') :
    Refines (if condition then part else part') (if condition then other else other') := by
  split
  · exact yes
  · exact no

theorem ifNamed {decl : Decl} {part other : String → Exporter Unit}
    (each : ∀ name, (part name).Refines (other name)) :
    (Job.ifNamed decl part).Refines (Job.ifNamed decl other) := by
  cases named : decl.name with
  | none =>
    rw [Job.ifNamed_of_nameless named, Job.ifNamed_of_nameless named]
    exact .refl _
  | some name =>
    rw [Job.ifNamed_of_name named, Job.ifNamed_of_name named]
    exact each name

/-- A class claims the name of its tag, and then the export goes on. -/
theorem claims {part other : Exporter Unit} (refines : part.Refines other) {tag : Option String}
    {newName : String} :
    Refines
      (match tag with
      | some tag => do
          let isNew ← exportOnce tag
          if isNew = true then do
            give tag newName
            part
          else part
      | _ => part)
      (match tag with
      | some tag => do
          let isNew ← exportOnce tag
          if isNew = true then do
            give tag newName
            other
          else other
      | _ => other) := by
  cases tag with
  | none => exact refines
  | some tag =>
    exact (Refines.refl _).bind fun _ => .ite ((Refines.refl _).bind fun _ => refines) refines

end Refines

end Exporter

namespace Job

open Exporter

variable {job : Job}

section

variable {visit other : DeclId → Exporter Unit} (each : ∀ id, (visit id).Refines (other id))

include each

theorem refines_followAll (mentions : List Mention) :
    (followAll visit mentions).Refines (followAll other mentions) :=
  .forM (fun _ => (Refines.refl _).bind fun _ => each _) mentions

theorem refines_exportStruct (name newName : String) (id : DeclId) (comment : Option String) :
    (job.exportStruct visit name newName id comment).Refines
      (job.exportStruct other name newName id comment) :=
  (Refines.refl _).bind fun _ =>
    (Refines.forM (fun _ => refines_followAll each _) _).bind fun _ => .refl _

theorem refines_exportCallbackTypedef (name newName : String) (decl : Decl) (prototype : CType) :
    (job.exportCallbackTypedef visit name newName decl prototype).Refines
      (job.exportCallbackTypedef other name newName decl prototype) :=
  (Refines.refl _).bind fun _ => (refines_followAll each _).bind fun _ => .refl _

theorem refines_exportPlainTypedef (name newName : String) (underlying : CType) :
    (job.exportPlainTypedef visit name newName underlying).Refines
      (job.exportPlainTypedef other name newName underlying) :=
  (refines_followAll each _).bind fun _ => .refl _

theorem refines_exportTagTypedef (name newName : String) (decl : Decl) (record : Bool)
    (target : DeclId) :
    (job.exportTagTypedef visit name newName decl record target).Refines
      (job.exportTagTypedef other name newName decl record target) := by
  refine (Refines.refl _).bind fun existing => ?_
  cases existing with
  | some existing => exact .refl _
  | none =>
    refine (Refines.refl _).bind fun _ => (Refines.refl _).bind fun _ => Refines.claims ?_
    exact .ite ((Refines.refl _).bind fun _ => refines_exportStruct each _ _ _ _) (.refl _)

theorem refines_exportTypedef (name newName : String) (id : DeclId) :
    (job.exportTypedef visit name newName id).Refines
      (job.exportTypedef other name newName id) := by
  unfold exportTypedef
  cases names : (job.header.decl id).underlying with
  | none =>
    simp only [names]
    exact .refl _
  | some underlying =>
    simp only [names]
    cases tagTarget? underlying with
    | some found => exact refines_exportTagTypedef each _ _ _ _ _
    | none =>
      cases callbackPrototype? underlying with
      | some prototype => exact refines_exportCallbackTypedef each _ _ _ _
      | none => exact refines_exportPlainTypedef each _ _ _

theorem refines_exportNew (name : String) (id : DeclId) :
    (job.exportNew visit name id).Refines (job.exportNew other name id) := by
  refine (Refines.refl _).bind fun newName => ?_
  dsimp only
  cases (job.header.decl id).kind with
  | struct =>
    exact (Refines.refl _).bind fun _ => (Refines.refl _).bind fun _ =>
      refines_exportStruct each _ _ _ _
  | typedef => exact refines_exportTypedef each _ _ _
  | _ => exact .refl _

theorem refines_bindArguments (name newName : String) (unnamed : Nat) (arguments : List Decl) :
    (job.bindArguments visit name newName unnamed arguments).Refines
      (job.bindArguments other name newName unnamed arguments) := by
  induction arguments generalizing unnamed with
  | nil => exact .refl _
  | cons argument rest ih =>
    unfold bindArguments
    cases argument.type with
    | none => exact .refl _
    | some type =>
      dsimp only
      cases type.functionPointee? with
      | some prototype =>
        refine (refines_followAll each _).bind fun _ => ?_
        exact (Refines.refl _).bind fun _ => (Refines.refl _).bind fun _ =>
          (Refines.refl _).bind fun _ => ih _
      | none => exact (refines_followAll each _).bind fun _ => ih _

theorem refines_bindFunction (decl : Decl) :
    (job.bindFunctionVia visit decl).Refines (job.bindFunctionVia other decl) := by
  refine (Refines.refl _).bind fun _ => ?_
  cases decl.resultType with
  | none => exact .refl _
  | some result =>
    cases decl.arguments with
    | none => exact .refl _
    | some arguments =>
      refine .ifNamed fun name => (Refines.refl _).bind fun _ => .ite ?_ (.refl _)
      refine (Refines.refl _).bind fun newName => ?_
      exact (refines_followAll each _).bind fun _ =>
        (refines_bindArguments each _ _ _ _).bind fun _ => .refl _

theorem refines_performVia (request : Request) :
    (job.performVia visit request).Refines (job.performVia other request) := by
  cases request with
  | header className root =>
    refine (Refines.refl _).bind fun _ => (Refines.refl _).bind fun _ => ?_
    refine (Refines.forM (fun _ => refines_bindFunction each _) _).bind fun _ => ?_
    exact (Refines.forM each _).bind fun _ => .refl _
  | function id => exact refines_bindFunction each _
  | type => exact refines_followAll each _
  | prototype => exact refines_followAll each _
  | declaration id => exact each id

end

/-- One export of a declaration, with a way to export what it mentions. -/
def exportStep (job : Job) (visit : DeclId → Exporter Unit) (id : DeclId) : Exporter Unit :=
  ifNamed (job.header.decl id) fun name => do
    if ← exportOnce name then job.exportNew visit name id

theorem exportWithin_zero (id : DeclId) :
    job.exportWithin 0 id = (ifNamed (job.header.decl id) fun name => do
      if ← exportOnce name then throw .nesting) := by
  unfold exportWithin
  rfl

theorem exportWithin_succ (budget : Nat) (id : DeclId) :
    job.exportWithin (budget + 1) id = job.exportStep (job.exportWithin budget) id := by
  rw [exportWithin, exportStep]

theorem refines_exportStep {visit other : DeclId → Exporter Unit}
    (each : ∀ id, (visit id).Refines (other id)) (id : DeclId) :
    (job.exportStep visit id).Refines (job.exportStep other id) := by
  refine .ifNamed fun name => (Refines.refl _).bind fun isNew => ?_
  exact .ite (refines_exportNew each _ _) (.refl _)

/-- A larger budget changes nothing, unless the smaller one is used up. -/
theorem refines_exportWithin (budget : Nat) :
    ∀ id, (job.exportWithin budget id).Refines (job.exportWithin (budget + 1) id) := by
  induction budget with
  | zero =>
    intro id
    rw [exportWithin_zero, exportWithin_succ, exportStep]
    exact .ifNamed fun name => (Refines.refl _).bind fun isNew => .ite (fun _ => .inl rfl) (.refl _)
  | succ budget ih =>
    intro id
    rw [exportWithin_succ, exportWithin_succ]
    exact refines_exportStep ih id

end Job

/-- The names of declarations. -/
def Header.declNames (header : Header) : Finset String :=
  (header.decls.toList.filterMap (·.name)).toFinset

theorem Header.mem_declNames {header : Header} {id : DeclId} {name : String}
    (named : (header.decl id).name = some name) : name ∈ header.declNames := by
  simp only [declNames, List.mem_toFinset, List.mem_filterMap]
  refine ⟨header.decl id, ?_, named⟩
  unfold Header.decl at named ⊢
  rw [Array.getD_eq_getD_getElem?] at named ⊢
  cases place : header.decls[id]? with
  | none => simp [place] at named
  | some decl => exact Array.mem_toList_iff.mpr (Array.mem_of_getElem? place)

theorem Header.card_declNames_le (header : Header) : header.declNames.card ≤ header.decls.size := by
  refine (List.toFinset_card_le _).trans ?_
  rw [← Array.length_toList]
  exact List.length_filterMap_le _ _

namespace Job

variable (job : Job)

/-- The names of declarations that are not yet marked as exported. -/
def openNames (s : Progress) : Finset String :=
  job.header.declNames \ s.exported.toFinset

variable {job} {s s₁ : Progress}

theorem card_openNames_le (grows : ∀ name ∈ s.exported, name ∈ s₁.exported) :
    (job.openNames s₁).card ≤ (job.openNames s).card := by
  refine Finset.card_le_card (Finset.sdiff_subset_sdiff subset_rfl fun name marked => ?_)
  exact List.mem_toFinset.mpr (grows name (List.mem_toFinset.mp marked))

theorem mem_openNames {id : DeclId} {name : String} (named : (job.header.decl id).name = some name)
    (fresh : name ∉ s.exported) : name ∈ job.openNames s :=
  Finset.mem_sdiff.mpr
    ⟨Header.mem_declNames named, fun marked => fresh (List.mem_toFinset.mp marked)⟩

/-- Marking the name of a declaration leaves fewer names open. -/
theorem card_openNames_marked {id : DeclId} {name : String}
    (named : (job.header.decl id).name = some name) (fresh : name ∉ s.exported) :
    (job.openNames (s.marked name)).card < (job.openNames s).card := by
  refine Finset.card_lt_card
    (Finset.ssubset_iff_of_subset ?_ |>.mpr ⟨name, mem_openNames named fresh, ?_⟩)
  · refine Finset.sdiff_subset_sdiff subset_rfl fun other marked => ?_
    exact List.mem_toFinset.mpr (List.mem_cons_of_mem _ (List.mem_toFinset.mp marked))
  · simp [openNames]

theorem Cause.ne_nesting {isBound : DeclId → Prop} {failure : Failure}
    (cause : job.Cause isBound failure) : failure ≠ .nesting := by
  cases cause <;> simp

variable (job) in
/-- The discipline of a budget: names stay marked, and the budget is not used up where it is at
    least the number of open names. -/
def withinBudget (budget : Nat) : job.Discipline fun _ => True where
  Leads s s' := ∀ name ∈ s.exported, name ∈ s'.exported
  Fails s failure := failure = .nesting → budget < (job.openNames s).card
  refl _ _ marked := marked
  trans first second name marked := second name (first name marked)
  adds adds name marked := by rwa [adds.exported]
  before grows fails spent := (fails spent).trans_le (card_openNames_le grows)
  caused cause spent := absurd spent cause.ne_nesting

theorem grows_claimed {name newName : String} {target : DeclId} {tag : Option String} :
    ∀ other ∈ s.exported,
      other ∈ (((s.named name newName).classed target newName).claimed tag newName).exported :=
  fun _ marked => (Progress.mem_exported_claimed _ _ _).mpr (.inl marked)

/-- An export within a budget uses that up only if fewer names are open. The name that it marks pays
    for one level of nesting. -/
theorem within_exportWithin {budget : Nat} {id : DeclId} :
    (job.withinBudget budget).Holds (job.exportWithin budget id) s s := by
  induction budget generalizing id s with
  | zero =>
    rw [exportWithin_zero]
    refine Discipline.holds_ifNamed (fun _ marked => marked) fun name named => ?_
    refine .exportOnce_bind (fun _ => .of_pure fun _ marked => marked) fun fresh => ?_
    refine .of_throw (fun _ => List.mem_cons_of_mem _) fun _ => ?_
    exact Finset.card_pos.mpr ⟨name, mem_openNames named fresh⟩
  | succ budget ih =>
    rw [exportWithin_succ, exportStep]
    refine Discipline.holds_ifNamed (fun _ marked => marked) fun name named => ?_
    refine .exportOnce_bind (fun _ => .of_pure fun _ marked => marked) fun fresh => ?_
    have visits : (job.withinBudget budget).Visits (job.exportWithin budget) := fun _ => ih
    have inside : (job.withinBudget budget).Holds (job.exportNew (job.exportWithin budget) name id)
        (s.marked name) (s.marked name) :=
      Discipline.holds_exportNew (fun _ marked => marked) visits (fun _ _ _ marked => marked)
        (fun _ _ _ marked => marked) fun _ _ _ _ => grows_claimed
    refine ⟨fun other marked => inside.leads other (List.mem_cons_of_mem _ marked), ?_⟩
    intro failure failed spent
    have openInside := inside.fails failed spent
    have fewer := card_openNames_marked named fresh
    omega

/-- A part of an export that visits declarations does the same within all budgets that are at least
    the number of open names, and uses none of them up. -/
theorem outcome_eq_of_enough {part : (DeclId → Exporter Unit) → Exporter Unit}
    (refines : ∀ {visit other : DeclId → Exporter Unit}, (∀ id, (visit id).Refines (other id)) →
      (part visit).Refines (part other))
    (holds : ∀ budget, (job.withinBudget budget).Holds (part (job.exportWithin budget)) s s)
    {budget other : Nat} (enough : (job.openNames s).card ≤ budget)
    (enoughOther : (job.openNames s).card ≤ other) :
    (part (job.exportWithin budget)).outcome s = (part (job.exportWithin other)).outcome s ∧
      ((part (job.exportWithin other)).outcome s).1 ≠ .error .nesting := by
  have unspent : ∀ budget, (job.openNames s).card ≤ budget →
      ((part (job.exportWithin budget)).outcome s).1 ≠ .error .nesting := by
    intro budget enough spent
    exact absurd ((holds budget).fails spent rfl) (Nat.not_lt.mpr enough)
  have least : ∀ extra, (part (job.exportWithin ((job.openNames s).card + extra))).outcome s =
      (part (job.exportWithin (job.openNames s).card)).outcome s := by
    intro extra
    induction extra with
    | zero => rfl
    | succ extra ih =>
      have next := refines (job.refines_exportWithin ((job.openNames s).card + extra)) s
      rw [← ih]
      exact (next.resolve_left (unspent _ (Nat.le_add_right _ _))).symm
  obtain ⟨extra, rfl⟩ := Nat.exists_eq_add_of_le enough
  obtain ⟨more, rfl⟩ := Nat.exists_eq_add_of_le enoughOther
  exact ⟨(least extra).trans (least more).symm, unspent _ (Nat.le_add_right _ _)⟩

theorem enough_nestingBudget : (job.openNames s).card ≤ job.nestingBudget := by
  have fewer : (job.openNames s).card ≤ job.header.declNames.card :=
    Finset.card_le_card Finset.sdiff_subset
  have bounded := job.header.card_declNames_le
  unfold nestingBudget
  omega

theorem visits_exportWithin (budget : Nat) :
    (job.withinBudget budget).Visits (job.exportWithin budget) :=
  fun _ => within_exportWithin

theorem within_performVia (request : Request) (budget : Nat) :
    (job.withinBudget budget).Holds (job.performVia (job.exportWithin budget) request) s s :=
  Discipline.holds_performVia (fun _ marked => marked) (visits_exportWithin budget)
    (fun _ => trivial) fun _ _ => within_exportWithin

/-- A request does the same within every budget that is at least the number of open names, and uses
    none of them up. -/
theorem perform_eq_within (request : Request) {budget : Nat}
    (enough : (job.openNames s).card ≤ budget) :
    (job.performVia (job.exportWithin budget) request).outcome s =
        (job.perform request).outcome s ∧
      ((job.perform request).outcome s).1 ≠ .error .nesting :=
  outcome_eq_of_enough (fun each => refines_performVia each request)
    (within_performVia request) enough enough_nestingBudget

theorem within_exportTypedef (name newName : String) (id : DeclId) (budget : Nat) :
    (job.withinBudget budget).Holds
      (job.exportTypedef (job.exportWithin budget) name newName id) s s :=
  Discipline.holds_exportTypedef (fun _ marked => marked) (visits_exportWithin budget)
    (fun _ marked => marked) (fun _ _ => grows_claimed) fun _ spent => by cases spent

theorem within_exportStruct (name newName : String) (id : DeclId) (comment : Option String)
    (budget : Nat) :
    (job.withinBudget budget).Holds
      (job.exportStruct (job.exportWithin budget) name newName id comment) s s :=
  Discipline.holds_exportStruct (fun _ marked => marked) (visits_exportWithin budget)

/-- Exports end, whatever the declarations refer to and from whatever progress they go on. An export
    nests no deeper than there are open names: cut off at that depth or at any greater one, it comes
    to the same outcome, which is not that of a budget used up. And without any budget, the export
    of a declaration is one step that exports what is mentioned in the same way. -/
theorem exports_end (job : Job) (s : Progress) (extra : Nat) :
    let visit := job.exportWithin ((job.openNames s).card + extra)
    (∀ request, (job.performVia visit request).outcome s = (job.perform request).outcome s ∧
      ((job.perform request).outcome s).1 ≠ .error .nesting) ∧
    (∀ name newName id,
      (job.exportTypedef visit name newName id).outcome s =
        (job.exportTypedef job.exportDecl name newName id).outcome s ∧
      ((job.exportTypedef job.exportDecl name newName id).outcome s).1 ≠ .error .nesting) ∧
    (∀ name newName id comment,
      (job.exportStruct visit name newName id comment).outcome s =
        (job.exportStruct job.exportDecl name newName id comment).outcome s ∧
      ((job.exportStruct job.exportDecl name newName id comment).outcome s).1 ≠
        .error .nesting) ∧
    (∀ id, (job.perform (.declaration id)).outcome s =
      (job.exportStep job.exportDecl id).outcome s) := by
  intro visit
  have enough : (job.openNames s).card ≤ (job.openNames s).card + extra := Nat.le_add_right _ _
  refine ⟨fun request => ?_, fun name newName id => ?_, fun name newName id comment => ?_,
    fun id => ?_⟩
  · exact perform_eq_within request enough
  · exact outcome_eq_of_enough (fun each => refines_exportTypedef each name newName id)
      (within_exportTypedef name newName id) enough enough_nestingBudget
  · exact outcome_eq_of_enough (fun each => refines_exportStruct each name newName id comment)
      (within_exportStruct name newName id comment) enough enough_nestingBudget
  · rw [← (perform_eq_within (.declaration id) (Nat.le_succ_of_le enough_nestingBudget)).1,
      performVia, exportWithin_succ]
    rfl

/-! ## Failures -/

/-- The discipline of failures: a failure has a cause, unless a budget is used up. -/
def blames (job : Job) (isBound : DeclId → Prop) : job.Discipline isBound where
  Leads _ _ := True
  Fails _ failure := job.Cause isBound failure ∨ failure = .nesting
  refl _ := trivial
  trans _ _ := trivial
  adds _ := trivial
  before _ fails := fails
  caused := .inl

theorem blames_exportWithin {isBound : DeclId → Prop} (budget : Nat) (id : DeclId) :
    (job.blames isBound).Holds (job.exportWithin budget id) s s := by
  induction budget generalizing id s with
  | zero =>
    rw [exportWithin_zero]
    refine Discipline.holds_ifNamed trivial fun name _ => ?_
    exact .exportOnce_bind (fun _ => .of_pure trivial) fun _ => .of_throw trivial (.inr rfl)
  | succ budget ih =>
    rw [exportWithin_succ]
    refine Discipline.holds_ifNamed trivial fun name _ => ?_
    refine .exportOnce_bind (fun _ => .of_pure trivial) fun _ => ?_
    exact Discipline.holds_exportNew trivial (fun _ => ih _) (fun _ _ => trivial)
      (fun _ _ => trivial) fun _ _ _ _ => trivial

/-- The export of a header that fails does so for a cause. -/
theorem cause_of_exportHeader {className : String} {root : DeclId} {failure : Failure}
    (failed : ((job.exportHeader className root).outcome s).1 = .error failure) :
    job.Cause (· ∈ job.childrenInScope root (· = .function)) failure := by
  have ends : ((job.exportHeader className root).outcome s).1 ≠ .error .nesting :=
    (perform_eq_within (.header className root) (Nat.le_refl _)).2
  have holds : (job.blames (· ∈ job.childrenInScope root (· = .function))).Holds
      (job.performVia job.exportDecl (.header className root)) s s :=
    Discipline.holds_exportHeader trivial (fun _ => blames_exportWithin _ _) fun _ => id
  rcases holds.fails failed with cause | spent
  · exact cause
  · exact absurd (spent ▸ failed) ends

end Job

end HeaderBindings
