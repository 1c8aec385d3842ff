import HeaderBindings.Proofs.Binding.MemberName
import HeaderBindings.Proofs.Export.Run
import Mathlib.Data.List.Nodup

/-!
# Constants of an enumeration

The class of an enumeration has a member for each constant, and each constant loses the name of the
enumeration for itself. So two constants have one member name just when one of them is left as the
other, or both are left as the same name.
-/

namespace HeaderBindings

namespace Job

open Exporter MemberName

variable {owner : String}

/-- The names of the constants of an enumeration. -/
def constantNames (job : Job) (id : DeclId) : List String :=
  (job.childrenOfKind .enumConstant id).filterMap (·.properName?)

/-- The short names of some names are all different just when no two of these meet. -/
theorem nodup_map_short_iff {names : List String} (distinct : names.Nodup) :
    (names.map (short · owner)).Nodup ↔
      ∀ name ∈ names, ∀ other ∈ names, name ≠ other →
        ¬ Meets owner.toList name.toList other.toList := by
  have eq_iff {name other : String} (different : name ≠ other) :
      short name owner = short other owner ↔
        Meets owner.toList name.toList other.toList ∨
          Meets owner.toList other.toList name.toList := by
    rw [short, short, String.ofList_inj]
    exact shortChars_eq_iff fun same => different (String.toList_injective same)
  rw [List.nodup_map_iff_inj_on distinct]
  constructor
  · intro injective name isName other isOther different meets
    exact different (injective name isName other isOther ((eq_iff different).mpr (.inl meets)))
  · intro apart name isName other isOther same
    by_contra different
    rcases (eq_iff different).mp same with meets | meets
    · exact apart name isName other isOther different meets
    · exact apart other isOther name isName (Ne.symm different) meets

/-- Either every declaration has a name and a value, and the constants have the short names of the
    declarations, or one of these lacks its name or its value. -/
theorem mapM_constant_cases (owner : String) (decls : List Decl) :
    (∃ constants, decls.mapM (constant owner) = .ok constants ∧
      constants.map (·.name) = (decls.filterMap (·.properName?)).map (short · owner)) ∨
    (decls.mapM (constant owner) = .error (.malformed (some owner) .constant) ∧
      ∃ decl ∈ decls, decl.properName? = none ∨ decl.value = none) := by
  induction decls with
  | nil => exact .inl ⟨[], rfl, rfl⟩
  | cons decl rest ih =>
    rw [List.mapM_cons]
    cases named : decl.properName? with
    | none =>
      right
      have fails : constant owner decl = .error (.malformed (some owner) .constant) := by
        simp [constant, named]
      rw [fails]
      exact ⟨rfl, decl, List.mem_cons_self, .inl named⟩
    | some name =>
      cases valued : decl.value with
      | none =>
        right
        have fails : constant owner decl = .error (.malformed (some owner) .constant) := by
          simp [constant, named, valued]
        rw [fails]
        exact ⟨rfl, decl, List.mem_cons_self, .inr valued⟩
      | some value =>
        have first : constant owner decl = .ok ⟨short name owner, value⟩ := by
          simp [constant, named, valued]
        rw [first, List.filterMap_cons_some named, List.map_cons]
        rcases ih with ⟨constants, others, names⟩ | ⟨fails, other, inside, lacks⟩
        · exact .inl ⟨⟨short name owner, value⟩ :: constants, by rw [others]; rfl, by
            rw [List.map_cons, names]⟩
        · exact .inr ⟨by rw [fails]; rfl, other, List.mem_cons_of_mem _ inside, lacks⟩

/-- An enumeration whose constants have different names either fails because one of them has no name
    or no value, and writes nothing, or has a class with a member for each constant in order. These
    members have different names just when no two of its constants meet. -/
theorem exportEnum_members (job : Job) (owner newName : String) (id : DeclId)
    (comment : Option String) (s : Progress) (distinct : (job.constantNames id).Nodup) :
    (∃ s', (job.exportEnum owner newName id comment).outcome s =
        (.error (.malformed (some owner) .constant), s') ∧ s'.items = s.items ∧
      ∃ decl ∈ job.childrenOfKind .enumConstant id,
        decl.properName? = none ∨ decl.value = none) ∨
    ∃ s' constants, (job.exportEnum owner newName id comment).Succeeds s () s' ∧
      s'.items = s.items ++ [.enumClass id newName (comment.filter (· ≠ "")) constants] ∧
      constants.map (·.name) = (job.constantNames id).map (short · owner) ∧
      ((constants.map (·.name)).Nodup ↔
        ∀ name ∈ job.constantNames id, ∀ other ∈ job.constantNames id, name ≠ other →
          ¬ Meets owner.toList name.toList other.toList) := by
  rcases mapM_constant_cases owner (job.childrenOfKind .enumConstant id) with
    ⟨constants, exported, names⟩ | ⟨fails, lacks⟩
  · right
    refine ⟨_, constants, exportEnum_succeeds.mpr ⟨constants, exported, rfl⟩, rfl, names, ?_⟩
    rw [names]
    exact nodup_map_short_iff distinct
  · left
    refine ⟨s.said .info (asText "Translate enum" owner newName), ?_, rfl, lacks⟩
    rw [exportEnum, outcome_bind]
    simp only [fails]
    rfl

end Job

/-! An enumeration with a constant that is named like another one without the name of the
enumeration, and one whose constants all have that name. -/

namespace Colors

/-- `enum Color { RED, COLOR_RED }; enum Color { COLOR_RED, COLOR__GREEN };` -/
def job : Job :=
  ⟨⟨#[{ kind := .enum, name := some "Color", children := [1, 2] },
    { kind := .enumConstant, name := some "RED", value := some 0 },
    { kind := .enumConstant, name := some "COLOR_RED", value := some 1 },
    { kind := .enum, name := some "Color", children := [2, 4] },
    { kind := .enumConstant, name := some "COLOR__GREEN", value := some 2 }]⟩, .prefixing⟩

/-- A class declares a member twice although its constants have different names. -/
theorem member_repeated :
    (job.constantNames 0).Nodup ∧
      ∃ s' : Progress, ∃ constants : List Constant,
        (job.exportEnum "Color" "X_Color" 0 none).Succeeds {} () s' ∧
          s'.items = [.enumClass 0 "X_Color" none constants] ∧
          ¬ (constants.map (·.name)).Nodup := by
  refine ⟨by decide, _, [⟨"RED", 0⟩, ⟨"RED", 1⟩], Job.exportEnum_succeeds.mpr ⟨_, rfl, rfl⟩, ?_, ?_⟩
  · rfl
  · decide

/-- With the name of the enumeration before each constant the members stay different. -/
theorem prefixed_members_distinct :
    (job.constantNames 3).Nodup ∧
      ∃ constants : List Constant,
        constants.map (·.name) = ["RED", "GREEN"] ∧ (constants.map (·.name)).Nodup := by
  have distinct : (job.constantNames 3).Nodup := by decide
  refine ⟨distinct, ?_⟩
  rcases Job.exportEnum_members job "Color" "X_Color" 3 none {} distinct with
    ⟨_, -, -, lacks⟩ | ⟨_, constants, -, -, names, iff⟩
  · exact absurd lacks (by decide)
  · exact ⟨constants, names.trans (by decide), iff.mpr (by decide)⟩

end Colors

end HeaderBindings
