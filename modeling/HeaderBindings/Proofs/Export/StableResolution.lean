import HeaderBindings.Proofs.Export.Lookups
import HeaderBindings.Proofs.Export.Registry

/-!
# Resolutions stay as they are

A resolution depends on the given names only through those that it looks up, and a name that was
given is never changed. So a type resolves alike for the rest of an export, once all names that its
resolution looks up have been given. A signature is stored at some time of an export and written
much later; it is right then because of this.
-/

namespace HeaderBindings

namespace Header

variable {header : Header} {given other : GivenNames}

/-- All names that the resolution of a type looks up have been given. -/
def LookupsGiven (header : Header) (given : GivenNames) (type : CType) : Prop :=
  ∀ name, header.LooksUp type name → ∃ newName, given.find? name = some newName

/-- A table of given names that has all entries of another agrees with that on given names. -/
theorem LookupsGiven.agree {type : CType} (known : header.LookupsGiven given type)
    (entries : ∀ {name newName : String}, given.find? name = some newName →
      other.find? name = some newName) :
    ∀ name, header.LooksUp type name → given.find? name = other.find? name := by
  intro name looks
  obtain ⟨newName, isGiven⟩ := known name looks
  rw [isGiven, entries isGiven]

/-- The parameters of a function resolve alike under two tables that resolve their types alike. -/
theorem resolveParameters_congr {native : Bool} {decls : List Decl}
    (alike : ∀ type ∈ decls.filterMap (·.type),
      header.resolve given native type = header.resolve other native type) :
    header.resolveParameters given native decls = header.resolveParameters other native decls := by
  induction decls with
  | nil => rfl
  | cons decl rest ih =>
    unfold resolveParameters
    cases own : decl.type with
    | none => rfl
    | some type =>
      rw [List.filterMap_cons_some own, List.forall_mem_cons] at alike
      simp only [alike.1, ih alike.2]

/-- A function is bound alike, or fails alike, under two tables of given names that resolve the
    types of its signature alike. -/
theorem bindFunction_congr {decl : Decl}
    (alike : ∀ native, ∀ type ∈ header.signatureTypes decl,
      header.resolve given native type = header.resolve other native type) :
    header.bindFunction given decl = header.bindFunction other decl := by
  have signature : ∀ native,
      header.functionSignature given native decl (header.argumentsOf decl) =
        header.functionSignature other native decl (header.argumentsOf decl) := by
    intro native
    have result : header.resolveResult given native decl.resultType =
        header.resolveResult other native decl.resultType := by
      cases own : decl.resultType with
      | none => rfl
      | some type => exact alike native type (by simp [signatureTypes, own])
    have parameters := resolveParameters_congr fun type isParameter =>
      alike native type (List.mem_append_right _ isParameter)
    rw [functionSignature, functionSignature, result, parameters]
  rw [bindFunction, bindFunction, signature, signature]

end Header

namespace Progress.Keeps

variable {isLoose : DeclId → Prop} {s s' : Progress} (keeps : s.Keeps isLoose s') {header : Header}

include keeps

theorem loosened : s.Keeps (fun _ => True) s' :=
  { keeps with
    classes := fun known => (keeps.classes known).imp_right (.imp_right fun _ => trivial) }

/-- A type whose names have been given resolves at any later time as it does now. -/
theorem resolve_eq {type : CType} (known : header.LookupsGiven s.given type) (native : Bool) :
    header.resolve s'.given native type = header.resolve s.given native type :=
  (Header.resolve_of_lookups native (known.agree keeps.given)).symm

end Progress.Keeps

namespace Job

variable (job : Job)

/-- What was registered is kept through any further requests, failed ones included. -/
theorem keeps_after (earlier later : List Request) :
    (job.after earlier).Keeps (fun _ => True) (job.after (earlier ++ later)) := by
  induction later using List.reverseRecOn with
  | nil =>
    rw [List.append_nil]
    exact .refl _
  | append_singleton before request ih =>
    rw [← List.append_assoc, after_append]
    have next := (keepsRegistry_perform request (job.registered_after (earlier ++ before))).2
    exact ih.trans next.loosened

/-- Once all names that its types look up have been given, a prototype has the same signatures after
    any further requests, and so has a function. -/
theorem signatures_stable (earlier later : List Request) :
    (∀ prototype : CType,
      (∀ type ∈ prototype.result.toList ++ prototype.arguments,
        job.header.LookupsGiven (job.after earlier).given type) →
      ∀ name comment,
        job.header.bindPrototype (job.after (earlier ++ later)).given prototype name comment =
          job.header.bindPrototype (job.after earlier).given prototype name comment) ∧
    ∀ decl : Decl,
      (∀ type ∈ job.header.signatureTypes decl,
        job.header.LookupsGiven (job.after earlier).given type) →
      job.header.bindFunction (job.after (earlier ++ later)).given decl =
        job.header.bindFunction (job.after earlier).given decl := by
  have keeps := job.keeps_after earlier later
  constructor
  · intro prototype known name comment
    exact Header.bindPrototype_congr
      (fun native type isPart => keeps.resolve_eq (known type isPart) native) name comment
  · intro decl known
    exact Header.bindFunction_congr fun native type isPart =>
      keeps.resolve_eq (known type isPart) native

/-- A type resolves alike under two tables of given names just when they agree on the names that its
    resolution looks up. Once all of these have been given, the type resolves alike after any
    further requests, failed ones included. -/
theorem resolve_local_stable (type : CType) :
    (∀ (given other : GivenNames) (native : Bool),
      job.header.resolve given native type = job.header.resolve other native type ↔
        ∀ name, job.header.LooksUp type name → given.find? name = other.find? name) ∧
    ∀ earlier later : List Request,
      (∀ name, job.header.LooksUp type name →
        ∃ newName, (job.after earlier).given.find? name = some newName) →
      ∀ native,
        job.header.resolve (job.after (earlier ++ later)).given native type =
          job.header.resolve (job.after earlier).given native type := by
  constructor
  · exact fun given other native => Header.resolve_eq_iff native type
  · exact fun earlier later known => (job.keeps_after earlier later).resolve_eq known

end Job

/-! The structure with a field of a callback type, asked for by itself. -/

namespace CallbackCycle

/-- The type of the callback has both structures looked up, and nothing else. -/
theorem looksUp_pointer {name : String} (looks : job.header.LooksUp pointer name) :
    name = "A" ∨ name = "B" := by
  obtain ⟨inside, isVisited, kind, named⟩ := looks
  have visited : job.header.visited pointer =
      [pointer, prototype, void, void, pointerA, recordA, pointerB, recordB, pointerA, recordA,
        pointerB, recordB] := rfl
  have among : inside = recordA ∨ inside = recordB := by
    simp only [visited, List.mem_cons, List.not_mem_nil, or_false] at isVisited
    rcases isVisited with rfl | rfl | rfl | rfl | rfl | rfl | rfl | rfl | rfl | rfl | rfl | rfl
    all_goals first | exact absurd kind (by decide) | exact .inl rfl | exact .inr rfl
  rcases among with rfl | rfl
  · exact .inl (Option.some.inj named).symm
  · exact .inr (Option.some.inj named).symm

/-- After the structure was exported, the type of the callback resolves as it does with the two
    names alone, and still does so after a request that fails and the whole header. -/
theorem pointer_resolves_alike :
    (∀ name, job.header.LooksUp pointer name →
      ∃ newName, (job.after [.declaration 3]).given.find? name = some newName) ∧
    job.header.resolve ⟨[("B", "X_B"), ("A", "X_A")]⟩ false pointer =
      job.header.resolve (job.after [.declaration 3]).given false pointer ∧
    ((job.perform (.function 3)).outcome (job.after [.declaration 3])).1 =
      .error (.malformed (some "A") .functionResult) ∧
    job.header.resolve
        (job.after ([.declaration 3] ++ [.function 3, .header "Lib" 0])).given false pointer =
      .pointer (.nativeFunction (.native .void)
        [.pointer (.record "X_A"), .pointer (.record "X_B")]) := by
  have givenA : (job.after [.declaration 3]).given.find? "A" = some "X_A" := by cbv
  have givenB : (job.after [.declaration 3]).given.find? "B" = some "X_B" := by cbv
  have known : ∀ name, job.header.LooksUp pointer name →
      ∃ newName, (job.after [.declaration 3]).given.find? name = some newName := by
    intro name looks
    rcases looksUp_pointer looks with rfl | rfl
    · exact ⟨_, givenA⟩
    · exact ⟨_, givenB⟩
  obtain ⟨localTo, stable⟩ := job.resolve_local_stable pointer
  have alike : job.header.resolve ⟨[("B", "X_B"), ("A", "X_A")]⟩ false pointer =
      job.header.resolve (job.after [.declaration 3]).given false pointer := by
    refine (localTo _ _ false).mpr fun name looks => ?_
    rcases looksUp_pointer looks with rfl | rfl
    · rw [givenA]
      rfl
    · rw [givenB]
      rfl
  refine ⟨known, alike, by cbv, ?_⟩
  rw [stable [.declaration 3] [.function 3, .header "Lib" 0] known false, ← alike]
  rfl

end CallbackCycle

end HeaderBindings
