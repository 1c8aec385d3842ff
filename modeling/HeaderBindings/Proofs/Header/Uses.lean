import Mathlib.Data.Fintype.EquivFin
import HeaderBindings.Proofs.Header.Unfolding

/-!
# Uses between declarations

A structure uses the declarations that the types of its fields mention, and a type definition those
that its underlying type mentions. Where no declaration comes to use itself, unfolding types ends,
and what the canonical form of a type mentions is used by what the type itself mentions.
-/

namespace HeaderBindings

namespace Header

variable (header : Header)

/-- The types that a declaration is written with: a structure with those of its fields, and a type
    definition with the one that it stands for. -/
def writtenTypes (id : DeclId) : List CType :=
  match (header.decl id).kind with
  | .struct =>
      (((header.childrenOf id).map header.decl).filter (·.kind = .field)).filterMap (·.type)
  | .typedef => (header.decl id).underlying.toList
  | _ => []

/-- A declaration uses another one if a type mentions it that the first is written with. -/
def Uses (id other : DeclId) : Prop :=
  ∃ type ∈ header.writtenTypes id, ∃ mention ∈ header.mentions type, mention.decl = other

/-- No declaration of a type that a walk from the root comes to uses itself, directly or through
    others. -/
def Acyclic (root : DeclId) : Prop :=
  ∀ ⦃id : DeclId⦄, header.DeclaresType root id → ¬ Relation.TransGen header.Uses id id

variable {header : Header} {root id other : DeclId}

theorem writtenTypes_struct (kind : (header.decl id).kind = .struct) :
    header.writtenTypes id =
      (((header.childrenOf id).map header.decl).filter (·.kind = .field)).filterMap (·.type) := by
  rw [writtenTypes, kind]

theorem Reaches.writtenType {type : CType} (reaches : header.Reaches root (.decl id))
    (written : type ∈ header.writtenTypes id) : header.Reaches root (.type type) := by
  unfold writtenTypes at written
  split at written
  · obtain ⟨field, isField, own⟩ := List.mem_filterMap.mp written
    obtain ⟨child, isChild, rfl⟩ := List.mem_map.mp (List.mem_of_mem_filter isField)
    exact (reaches.child isChild).ownType own
  · exact reaches.underlying (Option.mem_toList.mp written)
  · cases written

theorem uses_of_mem {type : CType} {mention : Mention} (written : type ∈ header.writtenTypes id)
    (inside : mention ∈ header.mentions type) : header.Uses id mention.decl :=
  ⟨type, written, mention, inside, rfl⟩

theorem uses_of_underlying {underlying : CType} {mention : Mention}
    (kind : (header.decl id).kind = .typedef)
    (names : (header.decl id).underlying = some underlying)
    (inside : mention ∈ header.mentions underlying) : header.Uses id mention.decl :=
  uses_of_mem (by simp [writtenTypes, kind, names]) inside

theorem Uses.declares (uses : header.Uses id other) (declares : header.DeclaresType root id) :
    header.DeclaresType root other := by
  obtain ⟨type, written, mention, inside, rfl⟩ := uses
  exact (declares.1.writtenType written).mention inside

/-- Only structures and type definitions use declarations. -/
theorem Uses.kind (uses : header.Uses id other) :
    (header.decl id).kind = .struct ∨ (header.decl id).kind = .typedef := by
  obtain ⟨type, written, -⟩ := uses
  unfold writtenTypes at written
  split at written
  case h_1 kind => exact .inl kind
  case h_2 kind => exact .inr kind
  case h_3 => cases written

/-- Only declarations of the table use any. -/
theorem Uses.lt_size (uses : header.Uses id other) : id < header.decls.size := by
  by_contra outside
  have isDefault : header.decl id = {} := by
    simp only [decl, Array.getD_eq_getD_getElem?, Array.getElem?_eq_none (Nat.not_lt.mp outside),
      Option.getD_none]
  have kind := uses.kind
  simp [isDefault] at kind

namespace Acyclic

/-- No declaration comes to use itself where a rank falls with each use. -/
theorem of_rank (rank : DeclId → Nat)
    (falls : ∀ id, header.Reaches root (.decl id) → ∀ type ∈ header.writtenTypes id,
      ∀ mention ∈ header.mentions type, rank mention.decl < rank id) : header.Acyclic root := by
  intro id declares cycle
  have fallsOnUse : ∀ {id other}, header.DeclaresType root id → header.Uses id other →
      rank other < rank id := by
    rintro id _ declares ⟨type, written, mention, inside, rfl⟩
    exact falls id declares.1 type written mention inside
  have below : ∀ {other}, Relation.TransGen header.Uses id other →
      header.DeclaresType root other ∧ rank other < rank id := by
    intro other leads
    induction leads with
    | single uses => exact ⟨uses.declares declares, fallsOnUse declares uses⟩
    | tail _ uses ih => exact ⟨uses.declares ih.1, (fallsOnUse ih.1 uses).trans ih.2⟩
  exact Nat.lt_irrefl _ (below cycle).2

variable (acyclic : header.Acyclic root)

include acyclic

theorem wellFounded : WellFounded fun other id : Fin header.decls.size =>
    header.DeclaresType root id ∧ Relation.TransGen header.Uses id other := by
  have trans : IsTrans (Fin header.decls.size) fun other id =>
      header.DeclaresType root id ∧ Relation.TransGen header.Uses id other :=
    ⟨fun _ _ _ second first => ⟨first.1, first.2.trans second.2⟩⟩
  have irrefl : Std.Irrefl fun other id : Fin header.decls.size =>
      header.DeclaresType root id ∧ Relation.TransGen header.Uses id other :=
    ⟨fun _ cycle => acyclic cycle.1 cycle.2⟩
  exact Finite.wellFounded_of_trans_of_irrefl _

/-- What holds of a type declaration whenever it holds of those that it uses holds of all. One
    outside the table uses nothing. -/
theorem induction {motive : DeclId → Prop}
    (step : ∀ id, header.DeclaresType root id → (∀ other, header.Uses id other → motive other) →
      motive id)
    (declares : header.DeclaresType root id) : motive id := by
  have ofUsed : ∀ id, header.DeclaresType root id →
      (∀ place : Fin header.decls.size, header.Uses id place → motive place) → motive id := by
    intro id declares ofPlace
    refine step id declares fun other uses => ?_
    by_cases inside : other < header.decls.size
    · exact ofPlace ⟨other, inside⟩ uses
    · exact step other (uses.declares declares) fun _ usesMore => absurd usesMore.lt_size inside
  have ofTable : ∀ place : Fin header.decls.size, header.DeclaresType root place →
      motive place := by
    intro place
    induction place using acyclic.wellFounded.induction with
    | _ place ih =>
      exact fun declares => ofUsed place declares fun next uses =>
        ih next ⟨declares, .single uses⟩ (uses.declares declares)
  exact ofUsed id declares fun place uses => ofTable place (uses.declares declares)

end Acyclic

namespace Coherent

variable (coherent : header.Coherent root)

include coherent

/-- A type has been unfolded when that has for which the type definitions stand that it mentions. -/
theorem unfolded_of_mentions {type : CType} :
    header.Reaches root (.type type) →
      (∀ mention ∈ header.mentions type, ∀ underlying, (header.decl mention.decl).kind = .typedef →
        (header.decl mention.decl).underlying = some underlying → header.Unfolded underlying) →
        header.Unfolded type := by
  induction type using CType.inductionOnParts with
  | step type ih =>
    intro reaches below
    refine coherent.unfolded_of_below reaches ?_ ?_ ?_
    · intro kind pointee points
      have isPart := CType.mem_parts_pointee points
      refine ih pointee isPart (reaches.part isPart) fun mention inside => below mention ?_
      rw [header.mentions_of_pointer kind, points]
      simpa using inside
    · intro kind part isPart
      have inParts := isPart.elim CType.mem_parts_result CType.mem_parts_argument
      refine ih part inParts (reaches.part inParts) fun mention inside => below mention ?_
      rw [header.mentions_of_function kind]
      exact header.mem_prototypeMentions.mpr ⟨part, isPart, inside⟩
    · intro noPointer noFunction id name underlying declared kind named names
      exact below _ (header.mem_mentions_declared noPointer noFunction declared named) underlying
        kind names

theorem typesUnfolded_of_acyclic (acyclic : header.Acyclic root) : header.TypesUnfolded root := by
  have ofTypedef : ∀ id, header.DeclaresType root id → ∀ underlying,
      (header.decl id).kind = .typedef → (header.decl id).underlying = some underlying →
        header.Unfolded underlying := by
    intro id declares
    refine acyclic.induction (motive := fun id => ∀ underlying, (header.decl id).kind = .typedef →
      (header.decl id).underlying = some underlying → header.Unfolded underlying) ?_ declares
    intro id declares ih underlying kind names
    exact coherent.unfolded_of_mentions (declares.1.underlying names) fun mention inside =>
      ih mention.decl (uses_of_underlying kind names inside)
  intro type reaches
  exact coherent.unfolded_of_mentions reaches fun mention inside =>
    ofTypedef mention.decl (reaches.mention inside)

end Coherent

/-- What the canonical form of a type mentions is mentioned by the type itself or used, directly or
    through others, by what the type mentions. -/
theorem Unfolded.exists_start {type : CType} (unfolded : header.Unfolded type) :
    ∀ mention ∈ header.mentions type.canonical, ∃ start ∈ header.mentions type,
      Relation.ReflTransGen header.Uses start.decl mention.decl := by
  induction unfolded with
  | pointer kind points canonicalKind canonicalPoints _ ih =>
    rw [header.mentions_of_pointer kind, points, header.mentions_of_pointer canonicalKind,
      canonicalPoints]
    simpa using ih
  | function kind canonicalKind results arguments _ ih =>
    intro mention inside
    rw [header.mentions_of_function canonicalKind] at inside
    obtain ⟨own, isOwn, inside⟩ := header.mem_prototypeMentions_map results arguments inside
    obtain ⟨start, isStart, leads⟩ := ih own isOwn mention inside
    rw [header.mentions_of_function kind]
    exact ⟨start, header.mem_prototypeMentions.mpr ⟨own, isOwn, isStart⟩, leads⟩
  | @defined type underlying id name noPointer noFunction declared kind named names same _ ih =>
    intro mention inside
    rw [← same] at inside
    obtain ⟨start, isStart, leads⟩ := ih mention inside
    exact ⟨_, header.mem_mentions_declared noPointer noFunction declared named,
      .head (uses_of_underlying kind names isStart) leads⟩
  | @tagged type noPointer noFunction isTagged =>
    obtain ⟨same, canonicalNoPointer, canonicalNoFunction⟩ := isTagged
    intro mention inside
    rw [header.mentions_of_other canonicalNoPointer canonicalNoFunction] at inside
    obtain ⟨declared, -, named⟩ := header.mem_ownMention.mp inside
    exact ⟨_, header.mem_mentions_declared noPointer noFunction (same.trans declared) named, .refl⟩
  | plain same =>
    rw [same]
    exact fun mention inside => ⟨mention, inside, .refl⟩

/-- A type definition uses what the canonical form of its underlying type mentions. -/
theorem Unfolded.uses_of_canonical {underlying : CType} {mention : Mention}
    (unfolded : header.Unfolded underlying) (kind : (header.decl id).kind = .typedef)
    (names : (header.decl id).underlying = some underlying)
    (inside : mention ∈ header.mentions underlying.canonical) :
    Relation.TransGen header.Uses id mention.decl := by
  obtain ⟨start, isStart, leads⟩ := unfolded.exists_start mention inside
  exact .head' (uses_of_underlying kind names isStart) leads

end Header

end HeaderBindings
