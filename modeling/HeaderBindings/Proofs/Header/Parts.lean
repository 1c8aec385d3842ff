import HeaderBindings.Export.Mention

/-!
# Parts of types

The types that a type is made of, and induction along them. What a type mentions is told by its kind
from what its parts mention.
-/

namespace HeaderBindings

namespace CType

/-- The types that a type is made of: its canonical form, what it points to, its result and its
    parameters. -/
def parts (type : CType) : List CType :=
  type.ownCanonical.toList ++ type.pointee.toList ++ type.result.toList ++ type.arguments

theorem sizeOf_parts {type part : CType} (isPart : part ∈ type.parts) :
    sizeOf part < sizeOf type := by
  obtain ⟨kind, spelling, rawKind, own, pointee, result, arguments, declaration⟩ := type
  simp only [parts, List.mem_append, Option.mem_toList] at isPart
  rcases isPart with ((rfl | rfl) | rfl) | isArgument
  · simp only [mk.sizeOf_spec, Option.some.sizeOf_spec]
    omega
  · simp only [mk.sizeOf_spec, Option.some.sizeOf_spec]
    omega
  · simp only [mk.sizeOf_spec, Option.some.sizeOf_spec]
    omega
  · have smaller := List.sizeOf_lt_of_mem isArgument
    simp only [mk.sizeOf_spec]
    omega

/-- What holds of a type whenever it holds of its parts holds of every type. -/
theorem inductionOnParts {motive : CType → Prop}
    (step : ∀ type, (∀ part ∈ type.parts, motive part) → motive type) (type : CType) :
    motive type :=
  step type fun part _isPart => inductionOnParts step part
termination_by sizeOf type
decreasing_by exact sizeOf_parts _isPart

theorem mem_parts_pointee {type pointee : CType} (points : type.pointee = some pointee) :
    pointee ∈ type.parts := by
  simp [parts, points]

theorem mem_parts_result {type result : CType} (returns : type.result = some result) :
    result ∈ type.parts := by
  simp [parts, returns]

theorem mem_parts_argument {type argument : CType} (takes : argument ∈ type.arguments) :
    argument ∈ type.parts := by
  simp [parts, takes]

theorem mem_parts_canonical {type canonical : CType} (own : type.ownCanonical = some canonical) :
    canonical ∈ type.parts := by
  simp [parts, own]

/-- The canonical form of a type is the type itself or one of its parts. -/
theorem canonical_eq_or_mem_parts (type : CType) :
    type.canonical = type ∨ type.canonical ∈ type.parts := by
  cases own : type.ownCanonical with
  | none => exact .inl (by simp [canonical, own])
  | some canonical => exact .inr (by simp [CType.canonical, parts, own])

/-- A type that points to a function is a pointer, canonically, and the prototype is the canonical
    form of what it points to. -/
theorem functionPointee?_eq_some {type prototype : CType}
    (points : type.functionPointee? = some prototype) :
    type.canonical.kind = .pointer ∧ prototype.kind.isFunction = true ∧
      ∃ pointee, type.canonical.pointee = some pointee ∧ pointee.canonical = prototype := by
  unfold functionPointee? at points
  split at points
  case isFalse => cases points
  case isTrue kind =>
    obtain ⟨isPointee, isFunction⟩ := Option.filter_eq_some_iff.mp points
    exact ⟨kind, isFunction, Option.map_eq_some_iff.mp isPointee⟩

end CType

namespace Header

variable (header : Header)

theorem mentionsOption_eq (type : Option CType) :
    header.mentionsOption type = type.toList.flatMap header.mentions := by
  cases type <;> simp [mentionsOption]

theorem mentions_of_pointer {type : CType} (kind : type.kind = .pointer) :
    header.mentions type = type.pointee.toList.flatMap header.mentions := by
  obtain ⟨_, spelling, rawKind, own, pointee, result, arguments, declaration⟩ := type
  cases kind
  simp only [mentions, mentionsOption_eq]

theorem mentions_of_function {type : CType} (kind : type.kind.isFunction = true) :
    header.mentions type = header.prototypeMentions type := by
  obtain ⟨kind', spelling, rawKind, own, pointee, result, arguments, declaration⟩ := type
  cases kind' <;> simp_all [mentions, prototypeMentions, TypeKind.isFunction]

theorem mentions_of_other {type : CType} (noPointer : type.kind ≠ .pointer)
    (noFunction : type.kind.isFunction = false) :
    header.mentions type = header.ownMention type.spelling type.declaration := by
  obtain ⟨kind', spelling, rawKind, own, pointee, result, arguments, declaration⟩ := type
  cases kind' <;> simp_all [mentions, TypeKind.isFunction]

theorem mem_ownMention {spelling : String} {declaration : Option DeclId} {mention : Mention} :
    mention ∈ header.ownMention spelling declaration ↔
      declaration = some mention.decl ∧ mention.spelling = spelling ∧
        (header.decl mention.decl).properName? = some mention.name := by
  cases declaration with
  | none => simp [ownMention]
  | some id =>
    simp only [ownMention, List.mem_map, Option.mem_toList]
    constructor
    · rintro ⟨name, named, rfl⟩
      exact ⟨rfl, rfl, named⟩
    · rintro ⟨same, rfl, named⟩
      cases same
      exact ⟨mention.name, named, rfl⟩

theorem mem_prototypeMentions {prototype : CType} {mention : Mention} :
    mention ∈ header.prototypeMentions prototype ↔
      ∃ part, (prototype.result = some part ∨ part ∈ prototype.arguments) ∧
        mention ∈ header.mentions part := by
  simp only [prototypeMentions, mentionsOption_eq, mentionsList_eq_flatMap, List.mem_append,
    List.mem_flatMap, Option.mem_toList, or_and_right, exists_or]

theorem mem_mentions_declared {type : CType} {id : DeclId} {name : String}
    (noPointer : type.kind ≠ .pointer) (noFunction : type.kind.isFunction = false)
    (declared : type.declaration = some id) (named : (header.decl id).properName? = some name) :
    ⟨type.spelling, name, id⟩ ∈ header.mentions type := by
  rw [header.mentions_of_other noPointer noFunction, mem_ownMention]
  exact ⟨declared, rfl, named⟩

theorem mem_mentions_record {type : CType} {id : DeclId} {name : String}
    (kind : type.kind = .record) (declared : type.declaration = some id)
    (named : (header.decl id).properName? = some name) :
    ⟨type.spelling, name, id⟩ ∈ header.mentions type :=
  header.mem_mentions_declared (by simp [kind]) (by simp [kind, TypeKind.isFunction]) declared named

/-- A prototype made of canonical forms mentions what the canonical form of one of the types does
    that it was written with. -/
theorem mem_prototypeMentions_map {type prototype : CType} {mention : Mention}
    (results : prototype.result = type.result.map CType.canonical)
    (arguments : prototype.arguments = type.arguments.map CType.canonical)
    (inside : mention ∈ header.prototypeMentions prototype) :
    ∃ own, (type.result = some own ∨ own ∈ type.arguments) ∧
      mention ∈ header.mentions own.canonical := by
  obtain ⟨part, isPart, inside⟩ := header.mem_prototypeMentions.mp inside
  rw [results, arguments, Option.map_eq_some_iff, List.mem_map] at isPart
  rcases isPart with ⟨own, isResult, rfl⟩ | ⟨own, isArgument, rfl⟩
  · exact ⟨own, .inl isResult, inside⟩
  · exact ⟨own, .inr isArgument, inside⟩

/-- A mention comes from the type itself, by the declaration that this names, or from a part. -/
theorem mem_mentions {type : CType} {mention : Mention}
    (isMention : mention ∈ header.mentions type) :
    (type.declaration = some mention.decl ∧
        (header.decl mention.decl).properName? = some mention.name) ∨
      ∃ part ∈ type.parts, mention ∈ header.mentions part := by
  by_cases pointer : type.kind = .pointer
  · rw [header.mentions_of_pointer pointer] at isMention
    simp only [List.mem_flatMap, Option.mem_toList] at isMention
    obtain ⟨pointee, points, inside⟩ := isMention
    exact .inr ⟨pointee, CType.mem_parts_pointee points, inside⟩
  · cases function : type.kind.isFunction with
    | true =>
      rw [header.mentions_of_function function] at isMention
      obtain ⟨part, isPart, inside⟩ := header.mem_prototypeMentions.mp isMention
      exact .inr ⟨part, isPart.elim CType.mem_parts_result CType.mem_parts_argument, inside⟩
    | false =>
      rw [header.mentions_of_other pointer function] at isMention
      obtain ⟨declared, -, named⟩ := header.mem_ownMention.mp isMention
      exact .inl ⟨declared, named⟩

/-- A mention goes by the name of the declaration that it mentions. -/
theorem properName?_of_mem_mentions {mention : Mention} (type : CType) :
    mention ∈ header.mentions type →
      (header.decl mention.decl).properName? = some mention.name := by
  induction type using CType.inductionOnParts with
  | step type ih =>
    intro isMention
    rcases header.mem_mentions isMention with ⟨-, named⟩ | ⟨part, isPart, inside⟩
    · exact named
    · exact ih part isPart inside

end Header

end HeaderBindings
