import HeaderBindings.Export.Progress

/-!
# Successful parts of an export

A part of an export is a program that changes the progress and may fail. Here is what it means for
it to succeed, and what that says about the programs that parts are made of: a sequence succeeds
just when its parts do, one after another.
-/

namespace HeaderBindings

namespace Exporter

variable {α β : Type} {s s' : Progress}

/-- What a part of an export comes to, and the progress that it leaves. -/
def outcome (part : Exporter α) (s : Progress) : Except Failure α × Progress :=
  part.run.run s

/-- A part of an export succeeds with a value and leaves `s'`. -/
def Succeeds (part : Exporter α) (s : Progress) (value : α) (s' : Progress) : Prop :=
  part.outcome s = (.ok value, s')

theorem Succeeds.of_fst {part : Exporter α} {value : α} (comes : (part.outcome s).1 = .ok value) :
    part.Succeeds s value (part.outcome s).2 :=
  Prod.ext comes rfl

theorem outcome_bind (part : Exporter α) (next : α → Exporter β) (s : Progress) :
    (part >>= next).outcome s =
      match part.outcome s with
      | (.ok value, middle) => (next value).outcome middle
      | (.error failure, middle) => (.error failure, middle) := by
  rcases first : part.outcome s with ⟨result, middle⟩
  have run : StateT.run (ExceptT.run part) s = (result, middle) := first
  change StateT.run (ExceptT.run (part >>= next)) s = _
  rw [ExceptT.run_bind, StateT.run_bind, run]
  cases result <;> rfl

@[simp] theorem succeeds_pure {value result : α} :
    (pure value : Exporter α).Succeeds s result s' ↔ result = value ∧ s' = s := by
  change (Except.ok value, s) = (Except.ok result, s') ↔ _
  simp only [Prod.mk.injEq, Except.ok.injEq, eq_comm]

theorem succeeds_bind {part : Exporter α} {next : α → Exporter β} {result : β} :
    (part >>= next).Succeeds s result s' ↔
      ∃ value middle, part.Succeeds s value middle ∧ (next value).Succeeds middle result s' := by
  simp only [Succeeds, outcome_bind]
  rcases part.outcome s with ⟨first, middle⟩
  cases first with
  | error failure => simp
  | ok value =>
    constructor
    · intro rest
      exact ⟨value, middle, rfl, rest⟩
    · rintro ⟨_, _, same, rest⟩
      cases same
      exact rest

@[simp] theorem succeeds_map {part : Exporter α} {f : α → β} {result : β} :
    (f <$> part).Succeeds s result s' ↔ ∃ value, part.Succeeds s value s' ∧ result = f value := by
  rw [map_eq_pure_bind, succeeds_bind]
  simp only [succeeds_pure]
  constructor
  · rintro ⟨value, _, run, rfl, rfl⟩
    exact ⟨value, run, rfl⟩
  · rintro ⟨value, run, rfl⟩
    exact ⟨value, s', run, rfl, rfl⟩

@[simp] theorem succeeds_get {value : Progress} :
    (get : Exporter Progress).Succeeds s value s' ↔ value = s ∧ s' = s := by
  change (Except.ok s, s) = (Except.ok value, s') ↔ _
  simp only [Prod.mk.injEq, Except.ok.injEq, eq_comm]

@[simp] theorem succeeds_modify {change : Progress → Progress} {value : Unit} :
    (modify change : Exporter Unit).Succeeds s value s' ↔ s' = change s := by
  change (Except.ok (), change s) = (Except.ok value, s') ↔ _
  simp only [Prod.mk.injEq, true_and, eq_comm]

@[simp] theorem succeeds_set {new : Progress} {value : PUnit} :
    (set new : Exporter PUnit).Succeeds s value s' ↔ s' = new :=
  @succeeds_modify s s' (fun _ => new) value

@[simp] theorem not_succeeds_throw {failure : Failure} {value : α} :
    ¬ (throw failure : Exporter α).Succeeds s value s' := by
  change ¬ (Except.error failure, s) = (Except.ok value, s')
  simp

@[simp] theorem succeeds_liftM {result : Except Failure α} {value : α} :
    (liftM result : Exporter α).Succeeds s value s' ↔ result = .ok value ∧ s' = s := by
  change (result, s) = (Except.ok value, s') ↔ _
  simp only [Prod.mk.injEq, eq_comm]

theorem succeeds_forM_nil {visit : α → Exporter Unit} {value : Unit} :
    (List.forM [] visit).Succeeds s value s' ↔ s' = s := by
  simp only [List.forM_eq_forM, List.forM_nil, succeeds_pure, true_and]

theorem succeeds_forM_cons {visit : α → Exporter Unit} {x : α} {rest : List α} {value : Unit} :
    (List.forM (x :: rest) visit).Succeeds s value s' ↔
      ∃ middle, (visit x).Succeeds s () middle ∧
        (List.forM rest visit).Succeeds middle value s' := by
  simp only [List.forM_eq_forM, List.forM_cons, succeeds_bind]
  constructor
  · rintro ⟨_, middle, first, others⟩
    exact ⟨middle, first, others⟩
  · rintro ⟨middle, first, others⟩
    exact ⟨(), middle, first, others⟩

theorem succeeds_forM_append {visit : α → Exporter Unit} {left right : List α} {value : Unit} :
    (List.forM (left ++ right) visit).Succeeds s value s' ↔
      ∃ middle, (List.forM left visit).Succeeds s () middle ∧
        (List.forM right visit).Succeeds middle value s' := by
  induction left generalizing s with
  | nil => simp only [List.nil_append, succeeds_forM_nil, exists_eq_left]
  | cons x left ih =>
    simp only [List.cons_append, succeeds_forM_cons, ih]
    constructor
    · rintro ⟨_, first, middle, others, last⟩
      exact ⟨middle, ⟨_, first, others⟩, last⟩
    · rintro ⟨middle, ⟨_, first, others⟩, last⟩
      exact ⟨_, first, middle, others, last⟩

theorem succeeds_forM_flatMap {visit : β → Exporter Unit} {parts : α → List β} {list : List α}
    {value : Unit} :
    (List.forM list fun x => List.forM (parts x) visit).Succeeds s value s' ↔
      (List.forM (list.flatMap parts) visit).Succeeds s value s' := by
  induction list generalizing s with
  | nil => simp only [List.flatMap_nil, succeeds_forM_nil]
  | cons x rest ih => simp only [List.flatMap_cons, succeeds_forM_cons, succeeds_forM_append, ih]

end Exporter

end HeaderBindings
