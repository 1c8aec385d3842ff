import HeaderBindings.Proofs.Header.Coherence
import HeaderBindings.Resolution.Basic

/-!
# Unfolding types

A type unfolds to what it is written with: to what it points to, to its result and parameters, and
to what the type definition that it names stands for. Exports follow types as they are written and
resolutions follow their canonical forms; where unfolding ends, the two can be compared.
-/

namespace HeaderBindings

/-- A type is canonical all the way down: neither it nor anything that it is made of has another
    canonical form. -/
inductive CType.IsCanonical : CType → Prop where
  | intro {type : CType} (own : type.ownCanonical = none)
      (parts : ∀ part ∈ type.parts, part.IsCanonical) : type.IsCanonical

theorem CType.IsCanonical.canonical_eq {type : CType} (isCanonical : type.IsCanonical) :
    type.canonical = type := by
  cases isCanonical with
  | intro own => rw [CType.canonical, own, Option.getD_none]

theorem CType.IsCanonical.part {type part : CType} (isCanonical : type.IsCanonical)
    (isPart : part ∈ type.parts) : part.IsCanonical := by
  cases isCanonical with
  | intro _ parts => exact parts part isPart

namespace Header

variable (header : Header)

/-- A type unfolds to another in one step. -/
inductive UnfoldsTo : CType → CType → Prop where
  /-- A pointer unfolds to what it points to. -/
  | pointee {type pointee : CType} (kind : type.kind = .pointer)
      (points : type.pointee = some pointee) : UnfoldsTo type pointee
  /-- A function type unfolds to its result and its parameters. -/
  | prototype {type part : CType} (kind : type.kind.isFunction = true)
      (isPart : type.result = some part ∨ part ∈ type.arguments) : UnfoldsTo type part
  /-- A type that is declared by a type definition unfolds to what that stands for. -/
  | defined {type underlying : CType} {id : DeclId} (declared : type.declaration = some id)
      (kind : (header.decl id).kind = .typedef)
      (names : (header.decl id).underlying = some underlying) : UnfoldsTo type underlying

/-- Unfolding a type ends. -/
def Grounded (type : CType) : Prop :=
  Acc (fun part type => header.UnfoldsTo type part) type

/-- Unfolding ends for every type that a walk from the root comes to. -/
def TypesGrounded (root : DeclId) : Prop :=
  ∀ ⦃type : CType⦄, header.Reaches root (.type type) → header.Grounded type

/-- Unfolding a type ends, and its canonical form is what unfolding leads to. -/
inductive Unfolded : CType → Prop where
  | pointer {type pointee : CType} (kind : type.kind = .pointer)
      (points : type.pointee = some pointee) (canonicalKind : type.canonical.kind = .pointer)
      (canonicalPoints : type.canonical.pointee = some pointee.canonical)
      (below : Unfolded pointee) : Unfolded type
  | function {type : CType} (kind : type.kind.isFunction = true)
      (canonicalKind : type.canonical.kind.isFunction = true)
      (results : type.canonical.result = type.result.map CType.canonical)
      (arguments : type.canonical.arguments = type.arguments.map CType.canonical)
      (below : ∀ part, type.result = some part ∨ part ∈ type.arguments → Unfolded part) :
      Unfolded type
  | defined {type underlying : CType} {id : DeclId} {name : String}
      (noPointer : type.kind ≠ .pointer) (noFunction : type.kind.isFunction = false)
      (declared : type.declaration = some id) (kind : (header.decl id).kind = .typedef)
      (named : (header.decl id).properName? = some name)
      (names : (header.decl id).underlying = some underlying)
      (same : underlying.canonical = type.canonical) (below : Unfolded underlying) : Unfolded type
  | tagged {type : CType} (noPointer : type.kind ≠ .pointer)
      (noFunction : type.kind.isFunction = false) (isTagged : type.IsTagged) : Unfolded type
  | plain {type : CType} (same : type.canonical = type) : Unfolded type

/-- Unfolding ends in canonical forms for every type that a walk from the root comes to. -/
def TypesUnfolded (root : DeclId) : Prop :=
  ∀ ⦃type : CType⦄, header.Reaches root (.type type) → header.Unfolded type

/-- Only pointers have a pointee, among the types that a walk from the root comes to. -/
def PointeesOfPointers (root : DeclId) : Prop :=
  ∀ ⦃type pointee : CType⦄, header.Reaches root (.type type) → type.pointee = some pointee →
    type.kind = .pointer

/-- Every structure type that a walk from the root comes to is declared with a name. -/
def RecordsNamed (root : DeclId) : Prop :=
  ∀ ⦃type : CType⦄ ⦃id : DeclId⦄, header.Reaches root (.type type) → type.kind = .record →
    type.declaration = some id → (header.decl id).properName? ≠ none

variable {header : Header} {root : DeclId}

/-- Unfolding ends where every type is larger than what its type definition stands for. -/
theorem TypesGrounded.of_size (smaller : ∀ type id underlying, header.Reaches root (.type type) →
    type.declaration = some id → (header.decl id).underlying = some underlying →
      (header.decl id).kind = .typedef → sizeOf underlying < sizeOf type) :
    header.TypesGrounded root := by
  intro type reaches
  induction size : sizeOf type using Nat.strongRecOn generalizing type with
  | ind size ih =>
    subst size
    refine .intro type fun part unfolds => ?_
    cases unfolds with
    | pointee kind points =>
      have isPart := CType.mem_parts_pointee points
      exact ih _ (CType.sizeOf_parts isPart) (reaches.part isPart) rfl
    | prototype kind isPart =>
      have isPart := isPart.elim CType.mem_parts_result CType.mem_parts_argument
      exact ih _ (CType.sizeOf_parts isPart) (reaches.part isPart) rfl
    | defined declared kind names =>
      exact ih _ (smaller type _ part reaches declared names kind)
        ((reaches.declaration declared).1.underlying names) rfl

theorem IsCoherent.kind_of_record {type : CType} (coherent : header.IsCoherent type)
    (kind : type.canonical.kind = .record) :
    type.kind ≠ .pointer ∧ type.kind.isFunction = false := by
  constructor
  · intro own
    obtain ⟨_, _, pointer, _⟩ := coherent.pointer own
    rw [kind] at pointer
    cases pointer
  · cases own : type.kind.isFunction with
    | false => rfl
    | true =>
      have function := (coherent.function own).1
      rw [kind] at function
      cases function

/-- A type whose canonical form is a structure type names that structure: it is declared by it or by
    a type definition of it. -/
theorem IsCoherent.exists_tag {type : CType} (coherent : header.IsCoherent type)
    (canonical : header.IsTagType type.canonical) (kind : type.canonical.kind = .record) :
    ∃ id tag, type.declaration = some id ∧ type.canonical.declaration = some tag ∧
      header.tagOf? id = some tag ∧ (id = tag ∨ (header.decl id).properName? ≠ none) := by
  obtain ⟨tag, declared, tagKind⟩ := canonical.record kind
  have ofTag : header.tagOf? tag = some tag := by simp [tagOf?, tagKind]
  have ofDefined : header.IsDefined type →
      ∃ id tag, type.declaration = some id ∧ type.canonical.declaration = some tag ∧
        header.tagOf? id = some tag ∧ (id = tag ∨ (header.decl id).properName? ≠ none) := by
    rintro ⟨id, name, underlying, isId, idKind, named, names, same⟩
    refine ⟨id, tag, isId, declared, ?_, .inr (by simp [named])⟩
    rw [tagOf?_typedef idKind names]
    simp [Job.tagTarget?, same, kind, declared]
  have ofTagged : type.declaration = type.canonical.declaration →
      ∃ id tag, type.declaration = some id ∧ type.canonical.declaration = some tag ∧
        header.tagOf? id = some tag ∧ (id = tag ∨ (header.decl id).properName? ≠ none) := by
    intro same
    exact ⟨tag, tag, same.trans declared, declared, ofTag, .inl rfl⟩
  obtain ⟨noPointer, noFunction⟩ := coherent.kind_of_record kind
  cases own : type.kind with
  | pointer => exact absurd own noPointer
  | function | functionNoParameters =>
    rw [own] at noFunction
    cases noFunction
  | typedef => exact ofDefined (coherent.typedef own)
  | elaborated =>
    rcases coherent.elaborated own with defined | ⟨same, -, -⟩
    · exact ofDefined defined
    · exact ofTagged same
  | record => exact ofTagged (coherent.tag (.inl own)).2.symm
  | enum =>
    have enum := (coherent.tag (.inr own)).1
    rw [kind, own] at enum
    cases enum
  | scalar s =>
    have same := coherent.other (.inr ⟨s, own⟩)
    rw [CType.canonical, same, Option.getD_none, own] at kind
    cases kind
  | unsupported =>
    have same := coherent.other (.inl own)
    rw [CType.canonical, same, Option.getD_none, own] at kind
    cases kind

namespace Coherent

variable (coherent : header.Coherent root)

include coherent

theorem isCanonical_of_own {type : CType} :
    header.Reaches root (.type type) → type.ownCanonical = none → type.IsCanonical := by
  induction type using CType.inductionOnParts with
  | step type ih =>
    intro reaches own
    exact .intro own fun part isPart =>
      ih part isPart (reaches.part isPart) ((coherent reaches).parts own part isPart)

theorem isCanonical {type : CType} (reaches : header.Reaches root (.type type)) :
    type.canonical.IsCanonical :=
  coherent.isCanonical_of_own reaches.canonical (coherent reaches).canonical

/-- A type has been unfolded when its parts have, and what the type definition that it names stands
    for. -/
theorem unfolded_of_below {type : CType} (reaches : header.Reaches root (.type type))
    (ofPointee : type.kind = .pointer → ∀ pointee, type.pointee = some pointee →
      header.Unfolded pointee)
    (ofPart : type.kind.isFunction = true →
      ∀ part, type.result = some part ∨ part ∈ type.arguments → header.Unfolded part)
    (ofDefined : type.kind ≠ .pointer → type.kind.isFunction = false →
      ∀ id name underlying, type.declaration = some id → (header.decl id).kind = .typedef →
        (header.decl id).properName? = some name →
          (header.decl id).underlying = some underlying → header.Unfolded underlying) :
    header.Unfolded type := by
  have isCoherent := coherent reaches
  have ofIsDefined : type.kind ≠ .pointer → type.kind.isFunction = false →
      header.IsDefined type → header.Unfolded type := by
    rintro noPointer noFunction ⟨id, name, underlying, declared, kind, named, names, same⟩
    exact .defined noPointer noFunction declared kind named names same
      (ofDefined noPointer noFunction id name underlying declared kind named names)
  have ofOwn : type.ownCanonical = none → header.Unfolded type := by
    intro own
    exact .plain (by rw [CType.canonical, own, Option.getD_none])
  cases kind : type.kind with
  | pointer =>
    obtain ⟨pointee, points, canonicalKind, canonicalPoints⟩ := isCoherent.pointer kind
    exact .pointer kind points canonicalKind canonicalPoints (ofPointee kind pointee points)
  | function | functionNoParameters =>
    have isFunction : type.kind.isFunction = true := by rw [kind]; rfl
    obtain ⟨canonicalKind, results, arguments⟩ := isCoherent.function isFunction
    exact .function isFunction canonicalKind results arguments (ofPart isFunction)
  | typedef =>
    exact ofIsDefined (by simp [kind]) (by simp [kind, TypeKind.isFunction])
      (isCoherent.typedef kind)
  | elaborated =>
    rcases isCoherent.elaborated kind with isDefined | isTagged
    · exact ofIsDefined (by simp [kind]) (by simp [kind, TypeKind.isFunction]) isDefined
    · exact .tagged (by simp [kind]) (by simp [kind, TypeKind.isFunction]) isTagged
  | record | enum =>
    obtain ⟨canonicalKind, same⟩ := isCoherent.tag (by simp [kind])
    exact .tagged (by simp [kind]) (by simp [kind, TypeKind.isFunction])
      ⟨same.symm, by simp [canonicalKind, kind],
        by simp [canonicalKind, kind, TypeKind.isFunction]⟩
  | scalar scalar => exact ofOwn (isCoherent.other (.inr ⟨scalar, kind⟩))
  | unsupported => exact ofOwn (isCoherent.other (.inl kind))

theorem typesUnfolded (grounded : header.TypesGrounded root) : header.TypesUnfolded root := by
  intro type reaches
  induction grounded reaches with
  | intro type _ ih =>
    refine coherent.unfolded_of_below reaches ?_ ?_ ?_
    · intro kind pointee points
      exact ih pointee (.pointee kind points) (reaches.part (CType.mem_parts_pointee points))
    · intro kind part isPart
      exact ih part (.prototype kind isPart)
        (reaches.part (isPart.elim CType.mem_parts_result CType.mem_parts_argument))
    · intro _ _ id _ underlying declared kind _ names
      exact ih underlying (.defined declared kind names)
        ((reaches.declaration declared).1.underlying names)

/-- The declaration that a reachable type is called by, if its canonical form is a structure type:
    its name stands for that structure. -/
theorem standsFor_record {type : CType} (reaches : header.Reaches root (.type type))
    (kind : type.canonical.kind = .record) :
    ∃ id tag, header.declarationOf? type = some (header.decl id) ∧
      type.declaration = some id ∧ type.canonical.declaration = some tag ∧
      ∀ name, (header.decl id).properName? = some name → header.StandsFor root name tag := by
  obtain ⟨id, tag, declared, canonical, isTag, -⟩ :=
    (coherent reaches).exists_tag (coherent reaches.canonical).toIsTagType kind
  refine ⟨id, tag, by simp [declarationOf?, declared], declared, canonical, ?_⟩
  exact fun name named => ⟨id, reaches.declaration declared, named, isTag⟩

theorem named_record (recordsNamed : header.RecordsNamed root) {type : CType}
    (reaches : header.Reaches root (.type type)) (kind : type.canonical.kind = .record) :
    ∃ name, (header.declarationOf? type).bind (·.properName?) = some name := by
  obtain ⟨id, tag, declared, canonical, -, same | named⟩ :=
    (coherent reaches).exists_tag (coherent reaches.canonical).toIsTagType kind
  · have named := recordsNamed reaches.canonical kind canonical
    rw [← same] at named
    obtain ⟨name, named⟩ := Option.ne_none_iff_exists'.mp named
    exact ⟨name, by simp [declarationOf?, declared, named]⟩
  · obtain ⟨name, named⟩ := Option.ne_none_iff_exists'.mp named
    exact ⟨name, by simp [declarationOf?, declared, named]⟩

end Coherent

end Header

end HeaderBindings
