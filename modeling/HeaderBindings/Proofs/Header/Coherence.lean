import Mathlib.Logic.Relation
import HeaderBindings.Export.TypeDefinition
import HeaderBindings.Proofs.Header.Parts

/-!
# Coherent headers

What a header's parser promises about the declarations and types that a walk from the root comes
to. Exporting asks for none of this: it is what the properties of exports assume.
-/

namespace HeaderBindings

/-- What a walk through a header comes to. -/
inductive Node where
  | decl (id : DeclId)
  | type (type : CType)

/-- A node is among some declarations and types. -/
def Node.Among (ids : List DeclId) (types : List CType) : Node → Prop
  | .decl id => id ∈ ids
  | .type inside => inside ∈ types

/-- A type is named by the tag of its canonical form. -/
def CType.IsTagged (type : CType) : Prop :=
  type.declaration = type.canonical.declaration ∧ type.canonical.kind ≠ .pointer ∧
    type.canonical.kind.isFunction = false

namespace Header

variable (header : Header)

/-- The nodes that a walk goes to next. -/
def links : Node → List Node
  | .decl id =>
      ((header.decl id).children ++ (header.decl id).arguments.getD []).map .decl ++
        ((header.decl id).type.toList ++ (header.decl id).resultType.toList ++
          (header.decl id).underlying.toList).map .type
  | .type type => type.parts.map .type ++ type.declaration.toList.map .decl

/-- A walk from the root comes to a node. -/
def Reaches (root : DeclId) (node : Node) : Prop :=
  Relation.ReflTransGen (fun node next => next ∈ header.links node) (.decl root) node

/-- A declaration that a walk comes to declares a type: by its kind, or because a type that the
    walk comes to names it. -/
def DeclaresType (root id : DeclId) : Prop :=
  header.Reaches root (.decl id) ∧
    ((header.decl id).kind.declaresType = true ∨
      ∃ type, header.Reaches root (.type type) ∧ type.declaration = some id)

/-- The structure or enumeration that a type definition names. -/
def typedefTarget? (id : DeclId) : Option DeclId :=
  match (header.decl id).kind with
  | .typedef => ((header.decl id).underlying.bind Job.tagTarget?).map (·.2)
  | _ => none

/-- The structure or enumeration that a declaration is, or names as a type definition. -/
def tagOf? (id : DeclId) : Option DeclId :=
  match (header.decl id).kind with
  | .struct | .enum => some id
  | _ => header.typedefTarget? id

/-- Two type declarations share a name only if one is a type definition of the other. -/
def Unambiguous (root : DeclId) : Prop :=
  ∀ ⦃id other : DeclId⦄ ⦃name : String⦄,
    header.DeclaresType root id → header.DeclaresType root other → id ≠ other →
      (header.decl id).properName? = some name → (header.decl other).properName? = some name →
        header.typedefTarget? id = some other ∨ header.typedefTarget? other = some id

/-- A name stands for a structure or enumeration: it is the name of that or of a type definition
    of it. -/
def StandsFor (root : DeclId) (name : String) (tag : DeclId) : Prop :=
  ∃ id, header.DeclaresType root id ∧ (header.decl id).properName? = some name ∧
    header.tagOf? id = some tag

/-- A structure type is declared by a structure, and an enumeration type by an enumeration. -/
structure IsTagType (type : CType) : Prop where
  record : type.kind = .record →
    ∃ id, type.declaration = some id ∧ (header.decl id).kind = .struct
  enum : type.kind = .enum →
    ∃ id, type.declaration = some id ∧ (header.decl id).kind = .enum

/-- A type is declared by a type definition with a name, whose underlying type has the same
    canonical form. -/
def IsDefined (type : CType) : Prop :=
  ∃ id name underlying, type.declaration = some id ∧ (header.decl id).kind = .typedef ∧
    (header.decl id).properName? = some name ∧ (header.decl id).underlying = some underlying ∧
    underlying.canonical = type.canonical

/-- What a type and its canonical form have to do with each other. -/
structure IsCoherent (type : CType) : Prop extends header.IsTagType type where
  canonical : type.canonical.ownCanonical = none
  parts : type.ownCanonical = none → ∀ part ∈ type.parts, part.ownCanonical = none
  pointer : type.kind = .pointer →
    ∃ pointee, type.pointee = some pointee ∧ type.canonical.kind = .pointer ∧
      type.canonical.pointee = some pointee.canonical
  function : type.kind.isFunction = true →
    type.canonical.kind.isFunction = true ∧
      type.canonical.result = type.result.map CType.canonical ∧
      type.canonical.arguments = type.arguments.map CType.canonical
  typedef : type.kind = .typedef → header.IsDefined type
  elaborated : type.kind = .elaborated → header.IsDefined type ∨ type.IsTagged
  tag : type.kind = .record ∨ type.kind = .enum →
    type.canonical.kind = type.kind ∧ type.canonical.declaration = type.declaration
  other : type.kind = .unsupported ∨ (∃ s, type.kind = .scalar s) → type.ownCanonical = none

/-- Every type that a walk comes to names the right kind of declaration, if it is the type of a
    structure or enumeration. -/
def TagTypes (root : DeclId) : Prop :=
  ∀ ⦃type : CType⦄, header.Reaches root (.type type) → header.IsTagType type

/-- Every type that a walk comes to is coherent. -/
def Coherent (root : DeclId) : Prop :=
  ∀ ⦃type : CType⦄, header.Reaches root (.type type) → header.IsCoherent type

variable {header : Header} {root : DeclId}

namespace Reaches

theorem step {node next : Node} (reaches : header.Reaches root node)
    (link : next ∈ header.links node) : header.Reaches root next :=
  Relation.ReflTransGen.tail reaches link

theorem child {id child : DeclId} (reaches : header.Reaches root (.decl id))
    (inside : child ∈ header.childrenOf id) : header.Reaches root (.decl child) := by
  have inside : child ∈ (header.decl id).children := inside
  exact reaches.step (by simp [links, inside])

theorem argument {id argument : DeclId} (reaches : header.Reaches root (.decl id))
    (inside : argument ∈ (header.decl id).arguments.getD []) :
    header.Reaches root (.decl argument) :=
  reaches.step (by simp [links, inside])

theorem ownType {id : DeclId} {type : CType} (reaches : header.Reaches root (.decl id))
    (own : (header.decl id).type = some type) : header.Reaches root (.type type) :=
  reaches.step (by simp [links, own])

theorem resultType {id : DeclId} {type : CType} (reaches : header.Reaches root (.decl id))
    (returns : (header.decl id).resultType = some type) : header.Reaches root (.type type) :=
  reaches.step (by simp [links, returns])

theorem underlying {id : DeclId} {type : CType} (reaches : header.Reaches root (.decl id))
    (names : (header.decl id).underlying = some type) : header.Reaches root (.type type) :=
  reaches.step (by simp [links, names])

theorem part {type part : CType} (reaches : header.Reaches root (.type type))
    (isPart : part ∈ type.parts) : header.Reaches root (.type part) :=
  reaches.step (by simp [links, isPart])

theorem canonical {type : CType} (reaches : header.Reaches root (.type type)) :
    header.Reaches root (.type type.canonical) := by
  rcases type.canonical_eq_or_mem_parts with same | isPart
  · rw [same]
    exact reaches
  · exact reaches.part isPart

theorem declaration {type : CType} {id : DeclId} (reaches : header.Reaches root (.type type))
    (declared : type.declaration = some id) : header.DeclaresType root id :=
  ⟨reaches.step (by simp [links, declared]), .inr ⟨type, reaches, declared⟩⟩

theorem mention {type : CType} {mention : Mention} (reaches : header.Reaches root (.type type)) :
    mention ∈ header.mentions type → header.DeclaresType root mention.decl := by
  induction type using CType.inductionOnParts with
  | step type ih =>
    intro isMention
    rcases header.mem_mentions isMention with ⟨declared, -⟩ | ⟨part, isPart, inside⟩
    · exact reaches.declaration declared
    · exact ih part isPart (reaches.part isPart) inside

end Reaches

theorem tagTarget?_eq_some {underlying : CType} {record : Bool} {target : DeclId}
    (tagged : Job.tagTarget? underlying = some (record, target)) :
    underlying.canonical.kind = (if record then .record else .enum) ∧
      underlying.canonical.declaration = some target := by
  unfold Job.tagTarget? at tagged
  cases kind : underlying.canonical.kind with
  | record | enum => simp_all
  | _ => simp [kind] at tagged

theorem typedefTarget?_eq {id : DeclId} {underlying : CType}
    (kind : (header.decl id).kind = .typedef)
    (names : (header.decl id).underlying = some underlying) :
    header.typedefTarget? id = (Job.tagTarget? underlying).map (·.2) := by
  simp [typedefTarget?, kind, names]

/-- What names a structure or enumeration as a type definition is a type definition of it. -/
theorem exists_of_typedefTarget? {id target : DeclId}
    (names : header.typedefTarget? id = some target) :
    (header.decl id).kind = .typedef ∧ ∃ underlying record,
      (header.decl id).underlying = some underlying ∧
        Job.tagTarget? underlying = some (record, target) := by
  unfold typedefTarget? at names
  split at names
  case h_2 => cases names
  case h_1 kind =>
    obtain ⟨⟨record, _⟩, tagged, rfl⟩ := Option.map_eq_some_iff.mp names
    obtain ⟨underlying, known, tagged⟩ := Option.bind_eq_some_iff.mp tagged
    exact ⟨kind, underlying, record, known, tagged⟩

theorem tagOf?_typedef {id : DeclId} {underlying : CType}
    (kind : (header.decl id).kind = .typedef)
    (names : (header.decl id).underlying = some underlying) :
    header.tagOf? id = (Job.tagTarget? underlying).map (·.2) := by
  simp only [tagOf?, kind]
  exact typedefTarget?_eq kind names

theorem tagOf?_of_tagged {id target : DeclId} {underlying : CType} {record : Bool}
    (kind : (header.decl id).kind = .typedef)
    (names : (header.decl id).underlying = some underlying)
    (tagged : Job.tagTarget? underlying = some (record, target)) :
    header.tagOf? id = some target := by
  rw [tagOf?_typedef kind names, tagged, Option.map_some]

theorem tagOf?_self {id : DeclId} {record : Bool}
    (kind : (header.decl id).kind = if record then .struct else .enum) :
    header.tagOf? id = some id := by
  cases record <;> simp_all [tagOf?]

/-- A walk stays among declarations and types that link to nothing else. -/
theorem Reaches.among {ids : List DeclId} {types : List CType} (start : root ∈ ids)
    (declLinks : ∀ id ∈ ids, ∀ next ∈ header.links (.decl id), next.Among ids types)
    (typeLinks : ∀ type ∈ types, ∀ next ∈ header.links (.type type), next.Among ids types)
    {node : Node} (reaches : header.Reaches root node) : node.Among ids types := by
  induction reaches with
  | refl => exact start
  | @tail before _ _ link ih =>
    cases before with
    | decl id => exact declLinks id ih _ link
    | type type => exact typeLinks type ih _ link

/-- The links of the declarations and of the types, one list for each, lead to nothing else. -/
theorem Reaches.among_of_links {ids : List DeclId} {types : List CType}
    {ofIds ofTypes : List (List Node)} {node : Node} (reaches : header.Reaches root node)
    (declLinks : ids.map (fun id => header.links (.decl id)) = ofIds)
    (typeLinks : types.map (fun type => header.links (.type type)) = ofTypes)
    (start : root ∈ ids)
    (within : ∀ links ∈ ofIds ++ ofTypes, ∀ next ∈ links, next.Among ids types) :
    node.Among ids types := by
  subst declLinks typeLinks
  refine reaches.among start (fun id inside => within _ ?_) (fun type inside => within _ ?_)
  · exact List.mem_append_left _ (List.mem_map_of_mem inside)
  · exact List.mem_append_right _ (List.mem_map_of_mem inside)

theorem Unambiguous.of_distinct {ids : List DeclId}
    (within : ∀ id, header.Reaches root (.decl id) → id ∈ ids)
    (distinct : ∀ id ∈ ids, ∀ other ∈ ids, id ≠ other →
      (header.decl id).properName? = none ∨
        (header.decl id).properName? ≠ (header.decl other).properName?) :
    header.Unambiguous root := by
  intro id other name declares declaresOther different named namedOther
  rcases distinct id (within id declares.1) other (within other declaresOther.1) different with
    unnamed | apart
  · rw [named] at unnamed
    cases unnamed
  · rw [named, namedOther] at apart
    exact absurd rfl apart

theorem Coherent.tagTypes (coherent : header.Coherent root) : header.TagTypes root :=
  fun _ reaches => (coherent reaches).toIsTagType

namespace TagTypes

variable (tagTypes : header.TagTypes root)

include tagTypes

theorem target {underlying : CType} {record : Bool} {target : DeclId}
    (reaches : header.Reaches root (.type underlying))
    (tagged : Job.tagTarget? underlying = some (record, target)) :
    header.DeclaresType root target ∧
      (header.decl target).kind = if record then .struct else .enum := by
  obtain ⟨kind, declared⟩ := tagTarget?_eq_some tagged
  refine ⟨reaches.canonical.declaration declared, ?_⟩
  have isTag := tagTypes reaches.canonical
  cases record with
  | true =>
    obtain ⟨id, same, kind⟩ := isTag.record kind
    rw [declared] at same
    cases same
    exact kind
  | false =>
    obtain ⟨id, same, kind⟩ := isTag.enum kind
    rw [declared] at same
    cases same
    exact kind

theorem tagOf?_of_typedefTarget? {id target : DeclId} (reaches : header.Reaches root (.decl id))
    (names : header.typedefTarget? id = some target) :
    header.tagOf? id = some target ∧ header.tagOf? target = some target := by
  obtain ⟨kind, underlying, record, known, tagged⟩ := exists_of_typedefTarget? names
  constructor
  · exact tagOf?_of_tagged kind known tagged
  · exact tagOf?_self (tagTypes.target (reaches.underlying known) tagged).2

theorem tagOf?_eq_of_name (unambiguous : header.Unambiguous root) {id other : DeclId}
    {name : String} (declares : header.DeclaresType root id)
    (declaresOther : header.DeclaresType root other)
    (named : (header.decl id).properName? = some name)
    (namedOther : (header.decl other).properName? = some name) :
    header.tagOf? id = header.tagOf? other := by
  by_cases same : id = other
  · rw [same]
  · rcases unambiguous declares declaresOther same named namedOther with names | names
    · obtain ⟨ofTypedef, ofTarget⟩ := tagTypes.tagOf?_of_typedefTarget? declares.1 names
      rw [ofTypedef, ofTarget]
    · obtain ⟨ofTypedef, ofTarget⟩ := tagTypes.tagOf?_of_typedefTarget? declaresOther.1 names
      rw [ofTypedef, ofTarget]

/-- A name stands for what every type declaration with that name is or names. -/
theorem standsFor_iff (unambiguous : header.Unambiguous root) {id tag : DeclId} {name : String}
    (declares : header.DeclaresType root id)
    (named : (header.decl id).properName? = some name) :
    header.StandsFor root name tag ↔ header.tagOf? id = some tag := by
  constructor
  · rintro ⟨other, declaresOther, namedOther, isTag⟩
    rw [tagTypes.tagOf?_eq_of_name unambiguous declares declaresOther named namedOther]
    exact isTag
  · intro isTag
    exact ⟨id, declares, named, isTag⟩

theorem standsFor_unique (unambiguous : header.Unambiguous root) {name : String}
    {tag other : DeclId} (stands : header.StandsFor root name tag)
    (standsOther : header.StandsFor root name other) : tag = other := by
  obtain ⟨id, declares, named, isTag⟩ := stands
  have isOther := (tagTypes.standsFor_iff unambiguous declares named).mp standsOther
  rw [isTag] at isOther
  exact Option.some.inj isOther

/-- A type declaration that is no structure or enumeration, and names none, shares its name with
    no other. -/
theorem eq_of_untagged (unambiguous : header.Unambiguous root) {id other : DeclId} {name : String}
    (declares : header.DeclaresType root id) (declaresOther : header.DeclaresType root other)
    (named : (header.decl id).properName? = some name)
    (namedOther : (header.decl other).properName? = some name)
    (untagged : header.tagOf? id = none) : other = id := by
  by_cases same : id = other
  · exact same.symm
  · rcases unambiguous declares declaresOther same named namedOther with names | names
    · have tagged := (tagTypes.tagOf?_of_typedefTarget? declares.1 names).1
      rw [untagged] at tagged
      cases tagged
    · have tagged := (tagTypes.tagOf?_of_typedefTarget? declaresOther.1 names).2
      rw [untagged] at tagged
      cases tagged

end TagTypes

end Header

end HeaderBindings
