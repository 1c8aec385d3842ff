import HeaderBindings.Proofs.Export.Coverage

/-!
# The names that resolutions look up

A resolution looks up the name of every structure that it comes to, and depends on the given names
through these alone. Those of a canonical type are among its mentions. Those of a type as it is
written have been marked when the mentions of the type have, and with them all that closed type
definitions follow.
-/

namespace HeaderBindings

namespace Header

variable (header : Header)

/-- The resolution of a type looks up a name. -/
def LooksUp (type : CType) (name : String) : Prop :=
  ∃ inside ∈ header.visited type, inside.canonical.kind = .record ∧
    (header.declarationOf? inside).bind (·.properName?) = some name

variable {header : Header} {root : DeclId}

/-- A resolution looks up the name of the type itself, if that is a structure type, and the names
    that resolutions of the next types look up. -/
theorem looksUp_iff {type : CType} {name : String} :
    header.LooksUp type name ↔
      (type.canonical.kind = .record ∧
        (header.declarationOf? type).bind (·.properName?) = some name) ∨
      ∃ part ∈ header.next type, header.LooksUp part name := by
  constructor
  · rintro ⟨inside, isVisited, looks⟩
    rcases mem_visited.mp isVisited with rfl | ⟨part, isNext, below⟩
    · exact .inl looks
    · exact .inr ⟨part, isNext, inside, below, looks⟩
  · rintro (looks | ⟨part, isNext, inside, below, looks⟩)
    · exact ⟨type, mem_visited.mpr (.inl rfl), looks⟩
    · exact ⟨inside, mem_visited.mpr (.inr ⟨part, isNext, below⟩), looks⟩

theorem mem_next {type part : CType} (isNext : part ∈ header.next type) :
    (type.canonical.kind = .pointer ∧ (type.pointee = some part ∨
        type.pointee = none ∧ type.canonical.pointee = some part)) ∨
      (type.canonical.kind.isFunction = true ∧
        (type.canonical.result = some part ∨ part ∈ type.canonical.arguments)) := by
  unfold next at isNext
  split at isNext
  · cases isNext
  · cases kind : type.canonical.kind with
    | pointer =>
      simp only [kind, Option.mem_toList, Option.or_eq_some_iff] at isNext
      exact .inl ⟨rfl, isNext⟩
    | function | functionNoParameters =>
      simp only [kind, List.mem_append, Option.mem_toList] at isNext
      exact .inr ⟨rfl, isNext⟩
    | _ => simp [kind] at isNext

/-- A record that two tables of given names know alike is called alike. -/
theorem recordName_congr {given other : GivenNames} {type : CType}
    (same : ∀ name, (header.declarationOf? type).bind (·.properName?) = some name →
      given.find? name = other.find? name) :
    header.recordName given type = header.recordName other type := by
  unfold recordName
  cases named : (header.declarationOf? type).bind (·.properName?) with
  | none => rfl
  | some name =>
    dsimp only
    rw [same name named]

/-- A type resolves alike under given names that agree on what its resolution looks up. -/
theorem resolve_of_lookups {given other : GivenNames} (native : Bool) {type : CType}
    (same : ∀ name, header.LooksUp type name → given.find? name = other.find? name) :
    header.resolve given native type = header.resolve other native type := by
  refine resolve_congr native type fun inside isVisited kind => ?_
  exact recordName_congr fun name named => same name ⟨inside, isVisited, kind, named⟩

/-- A type that resolves alike under two tables of given names has the next types resolve alike. -/
theorem resolve_next {given other : GivenNames} {native : Bool} {type part : CType}
    (same : header.resolve given native type = header.resolve other native type)
    (isNext : part ∈ header.next type) :
    header.resolve given true part = header.resolve other true part := by
  rw [resolve_eq, resolve_eq] at same
  unfold assemble at same
  unfold next at isNext
  cases scalar : header.scalar? type with
  | some s => simp [scalar] at isNext
  | none =>
    simp only [scalar, Option.isSome_none, Bool.false_eq_true, if_false] at same isNext
    cases kind : type.canonical.kind with
    | pointer =>
      simp only [kind, Option.mem_toList] at same isNext
      simpa [isNext] using same
    | function | functionNoParameters =>
      simp only [kind, List.mem_append, Option.mem_toList, DartType.nativeFunction.injEq]
        at same isNext
      rcases isNext with isResult | isArgument
      · simpa [isResult] using same.1
      · exact List.map_inj_left.mp same.2 part isArgument
    | _ => simp [kind] at isNext

/-- A record that resolves alike under two tables of given names is known alike to both. -/
theorem find?_of_record {given other : GivenNames} {native : Bool} {type : CType} {name : String}
    (kind : type.canonical.kind = .record)
    (named : (header.declarationOf? type).bind (·.properName?) = some name)
    (same : header.resolve given native type = header.resolve other native type) :
    given.find? name = other.find? name := by
  rw [resolve_eq, resolve_eq] at same
  simp only [assemble, scalar?_of_record kind, kind, recordType, recordName, named] at same
  cases known : given.find? name <;> cases knownOther : other.find? name <;> simp_all

/-- A type resolves alike under two tables of given names just when they agree on what its
    resolution looks up. -/
theorem resolve_eq_iff {given other : GivenNames} (native : Bool) (type : CType) :
    header.resolve given native type = header.resolve other native type ↔
      ∀ name, header.LooksUp type name → given.find? name = other.find? name := by
  refine ⟨?_, resolve_of_lookups native⟩
  induction type using inductionOnNext header generalizing native with
  | step type ih =>
    intro same name looks
    rcases looksUp_iff.mp looks with ⟨kind, named⟩ | ⟨part, isNext, below⟩
    · exact find?_of_record kind named same
    · exact ih part isNext true (resolve_next same isNext) name below

theorem Reaches.visited {type inside : CType} :
    header.Reaches root (.type type) → inside ∈ header.visited type →
      header.Reaches root (.type inside) := by
  induction type using inductionOnNext header with
  | step type ih =>
    intro reaches isVisited
    rcases mem_visited.mp isVisited with rfl | ⟨part, isNext, below⟩
    · exact reaches
    · refine ih part isNext ?_ below
      rcases mem_next isNext with ⟨-, own | ⟨-, points⟩⟩ | ⟨-, isPart⟩
      · exact reaches.part (CType.mem_parts_pointee own)
      · exact reaches.canonical.part (CType.mem_parts_pointee points)
      · exact reaches.canonical.part
          (isPart.elim CType.mem_parts_result CType.mem_parts_argument)

/-- A canonical type mentions the declarations of the structure types that its resolution comes
    through. -/
theorem exists_mention_of_visited {type inside : CType} {id : DeclId} {name : String}
    (kind : inside.kind = .record) (declared : inside.declaration = some id)
    (named : (header.decl id).properName? = some name) :
    type.IsCanonical → inside ∈ header.visited type →
      ∃ mention ∈ header.mentions type, mention.name = name ∧ mention.decl = id := by
  induction type using inductionOnNext header with
  | step type ih =>
    intro isCanonical isVisited
    have same := isCanonical.canonical_eq
    rcases mem_visited.mp isVisited with rfl | ⟨part, isNext, below⟩
    · exact ⟨_, header.mem_mentions_record kind declared named, rfl, rfl⟩
    · rcases mem_next isNext with ⟨kind, points⟩ | ⟨kind, isPart⟩
      · rw [same] at kind points
        have points : type.pointee = some part := points.elim (fun own => own) And.right
        obtain ⟨mention, inside, isDecl⟩ :=
          ih part isNext (isCanonical.part (CType.mem_parts_pointee points)) below
        refine ⟨mention, ?_, isDecl⟩
        rw [header.mentions_of_pointer kind, points]
        simpa using inside
      · rw [same] at kind isPart
        have canonicalPart : part.IsCanonical :=
          isCanonical.part (isPart.elim CType.mem_parts_result CType.mem_parts_argument)
        obtain ⟨mention, inside, isDecl⟩ := ih part isNext canonicalPart below
        refine ⟨mention, ?_, isDecl⟩
        rw [header.mentions_of_function kind]
        exact header.mem_prototypeMentions.mpr ⟨part, isPart, inside⟩

theorem isCanonical_of_visited {type inside : CType} :
    type.IsCanonical → inside ∈ header.visited type → inside.IsCanonical := by
  induction type using inductionOnNext header with
  | step type ih =>
    intro isCanonical isVisited
    rcases mem_visited.mp isVisited with rfl | ⟨part, isNext, below⟩
    · exact isCanonical
    · have same := isCanonical.canonical_eq
      refine ih part isNext ?_ below
      rcases mem_next isNext with ⟨-, points⟩ | ⟨-, isPart⟩
      · rw [same] at points
        exact isCanonical.part (CType.mem_parts_pointee (points.elim (fun own => own) And.right))
      · rw [same] at isPart
        exact isCanonical.part (isPart.elim CType.mem_parts_result CType.mem_parts_argument)

/-- A resolution comes to a type along pointees that types are written with, which add no mentions,
    and from there on through parts of a canonical form. -/
theorem exists_written_of_visited (pointers : header.PointeesOfPointers root)
    {type inside : CType} :
    header.Reaches root (.type type) → inside ∈ header.visited type →
      ∃ written, header.Reaches root (.type written) ∧
        header.mentions written = header.mentions type ∧
        (inside = written ∨ ∃ part ∈ written.canonical.parts, inside ∈ header.visited part ∧
          ∀ mention ∈ header.mentions part, mention ∈ header.mentions written.canonical) := by
  induction type using inductionOnNext header with
  | step type ih =>
    intro reaches isVisited
    rcases mem_visited.mp isVisited with rfl | ⟨part, isNext, below⟩
    · exact ⟨_, reaches, rfl, .inl rfl⟩
    · rcases mem_next isNext with ⟨kind, own | ⟨-, points⟩⟩ | ⟨kind, isPart⟩
      · have pointer := pointers reaches own
        obtain ⟨written, reachesWritten, same, comes⟩ :=
          ih part isNext (reaches.part (CType.mem_parts_pointee own)) below
        refine ⟨written, reachesWritten, ?_, comes⟩
        rw [same, header.mentions_of_pointer pointer, own]
        simp
      · refine ⟨type, reaches, rfl, .inr ⟨part, CType.mem_parts_pointee points, below, ?_⟩⟩
        intro mention inside
        rw [header.mentions_of_pointer kind, points]
        simpa using inside
      · refine ⟨type, reaches, rfl, .inr ⟨part,
          isPart.elim CType.mem_parts_result CType.mem_parts_argument, below, ?_⟩⟩
        intro mention inside
        rw [header.mentions_of_function kind]
        exact header.mem_prototypeMentions.mpr ⟨part, isPart, inside⟩

/-- The names that the resolution of a canonical type looks up are mentioned by it. -/
theorem exists_mention_of_looksUp {type : CType} {name : String} (isCanonical : type.IsCanonical)
    (looks : header.LooksUp type name) : ∃ mention ∈ header.mentions type, mention.name = name := by
  obtain ⟨inside, isVisited, kind, named⟩ := looks
  have same := (isCanonical_of_visited isCanonical isVisited).canonical_eq
  rw [same] at kind
  simp only [declarationOf?, same, Option.or_self] at named
  obtain ⟨decl, isDecl, named⟩ := Option.bind_eq_some_iff.mp named
  obtain ⟨id, declared, rfl⟩ := Option.map_eq_some_iff.mp isDecl
  obtain ⟨mention, isMention, isName, -⟩ :=
    exists_mention_of_visited kind declared named isCanonical isVisited
  exact ⟨mention, isMention, isName⟩

end Header

namespace Job

variable (job : Job) (root : DeclId)

/-- A set of declarations contains what its plain type definitions follow, and these have been
    exported to their end. -/
structure Explored (members : DeclId → Prop) (s : Progress) : Prop where
  follows : ∀ ⦃id : DeclId⦄, members id → job.header.DeclaresType root id → job.IsPlain id →
    ∀ mention ∈ job.follows id, members mention.decl
  closed : ∀ ⦃id : DeclId⦄, members id → job.header.DeclaresType root id → job.IsPlain id →
    job.Closed s id

/-- All mentioned declarations are in a set, and their names are marked. -/
def Knows (members : DeclId → Prop) (s : Progress) (mentions : List Mention) : Prop :=
  ∀ mention ∈ mentions, members mention.decl ∧ mention.name ∈ s.exported

variable {job root} {s : Progress} {members : DeclId → Prop}

/-- The type that a callback comes from mentions, canonically, what the prototype mentions. -/
theorem mentions_of_callbackPrototype? {underlying prototype : CType}
    (isCanonical : underlying.canonical.IsCanonical)
    (calls : callbackPrototype? underlying = some prototype) :
    job.header.mentions underlying.canonical = job.header.prototypeMentions prototype := by
  unfold callbackPrototype? at calls
  rcases Option.or_eq_some_iff.mp calls with pointee | ⟨-, function⟩
  · obtain ⟨kind, isFunction, own, points, rfl⟩ := CType.functionPointee?_eq_some pointee
    have same := (isCanonical.part (CType.mem_parts_pointee points)).canonical_eq
    rw [same] at isFunction ⊢
    rw [job.header.mentions_of_pointer kind, points]
    simpa using job.header.mentions_of_function isFunction
  · split at function
    case isFalse => cases function
    case isTrue kind =>
      cases function
      exact job.header.mentions_of_function kind

/-- A type that names its structure or enumeration itself mentions what its canonical form does. -/
theorem covers_tagged {type : CType} (noPointer : type.kind ≠ .pointer)
    (noFunction : type.kind.isFunction = false)
    (knows : Knows members s (job.header.mentions type)) (tagged : type.IsTagged) :
    Covers s (job.header.mentions type.canonical) := by
  obtain ⟨same, canonicalNoPointer, canonicalNoFunction⟩ := tagged
  intro mention inside
  rw [job.header.mentions_of_other canonicalNoPointer canonicalNoFunction] at inside
  obtain ⟨declared, -, named⟩ := job.header.mem_ownMention.mp inside
  exact (knows _
    (job.header.mem_mentions_declared noPointer noFunction (same.trans declared) named)).2

section

variable (agree : job.NamesAgree root s)

include agree

/-- What a type definition stands for mentions the name of its tag, and that is marked with the
    name of the type definition. -/
theorem covers_tag {id : DeclId} {name : String} {underlying : CType} {record : Bool}
    {target : DeclId} (declares : job.header.DeclaresType root id)
    (kind : (job.header.decl id).kind = .typedef)
    (named : (job.header.decl id).properName? = some name)
    (names : (job.header.decl id).underlying = some underlying)
    (tagged : tagTarget? underlying = some (record, target)) (marked : name ∈ s.exported) :
    Covers s (job.header.mentions underlying.canonical) := by
  obtain ⟨canonicalKind, declared⟩ := Header.tagTarget?_eq_some tagged
  have isTag : job.header.tagOf? id = some target := by
    rw [Header.tagOf?_typedef kind names, tagged, Option.map_some]
  obtain ⟨_, _, calls⟩ := agree.calls marked ⟨id, declares, named, isTag⟩
  intro mention inside
  rw [job.header.mentions_of_other (by cases record <;> simp [canonicalKind])
    (by cases record <;> simp [canonicalKind, TypeKind.isFunction])] at inside
  obtain ⟨isTarget, -, ownName⟩ := job.header.mem_ownMention.mp inside
  rw [declared, Option.some.injEq] at isTarget
  subst isTarget
  exact agree.exported_of_classes calls.classed ownName

variable (explored : job.Explored root members s) (coherent : job.header.Coherent root)

include explored coherent

/-- The canonical form of a type mentions marked names only, if the type itself does and the type
    definitions that it unfolds to have been exported to their end. It has the canonical forms of
    the parts, and behind a type definition there is what that stands for. -/
theorem covers_canonical {type : CType} (unfolded : job.header.Unfolded type) :
    job.header.Reaches root (.type type) → Knows members s (job.header.mentions type) →
      Covers s (job.header.mentions type.canonical) := by
  induction unfolded with
  | pointer kind points canonicalKind canonicalPoints _ ih =>
    intro reaches knows
    rw [job.header.mentions_of_pointer kind, points] at knows
    rw [job.header.mentions_of_pointer canonicalKind, canonicalPoints]
    simp only [Option.toList_some, List.flatMap_singleton] at knows ⊢
    exact ih (reaches.part (CType.mem_parts_pointee points)) knows
  | function kind canonicalKind results arguments _ ih =>
    intro reaches knows
    rw [job.header.mentions_of_function kind] at knows
    rw [job.header.mentions_of_function canonicalKind]
    intro mention inside
    obtain ⟨own, isOwn, inside⟩ := job.header.mem_prototypeMentions_map results arguments inside
    exact ih own isOwn (reaches.part (isOwn.elim CType.mem_parts_result CType.mem_parts_argument))
      (fun mention inside => knows mention
        (job.header.mem_prototypeMentions.mpr ⟨own, isOwn, inside⟩)) mention inside
  | @defined type underlying id name noPointer noFunction declared kind named names same _ ih =>
    intro reaches knows
    obtain ⟨isMember, marked⟩ :=
      knows _ (job.header.mem_mentions_declared noPointer noFunction declared named)
    have declares := reaches.declaration declared
    have reachesUnderlying := declares.1.underlying names
    rw [← same]
    cases tagged : tagTarget? underlying with
    | some target => exact covers_tag agree declares kind named names tagged marked
    | none =>
      have untagged := tagOf?_of_untagged kind names tagged
      have closes := explored.closed isMember declares ⟨kind, untagged⟩ name named marked
      cases calls : callbackPrototype? underlying with
      | some prototype =>
        rw [follows_callback names untagged calls] at closes
        rw [mentions_of_callbackPrototype? (coherent.isCanonical reachesUnderlying) calls]
        exact closes
      | none =>
        have follows := explored.follows isMember declares ⟨kind, untagged⟩
        rw [follows_plain names untagged calls] at closes follows
        exact ih reachesUnderlying fun mention inside =>
          ⟨follows mention inside, closes mention inside⟩
  | tagged noPointer noFunction isTagged =>
    exact fun _ knows => covers_tagged noPointer noFunction knows isTagged
  | plain same =>
    intro _ knows
    rw [same]
    exact fun mention inside => (knows mention inside).2

/-- A resolution looks up marked names only, if the mentions of the type are marked and the type
    definitions that it unfolds to have been exported to their end. -/
theorem marked_of_looksUp (unfolded : job.header.TypesUnfolded root)
    (pointers : job.header.PointeesOfPointers root) {type : CType} {name : String}
    (reaches : job.header.Reaches root (.type type))
    (knows : Knows members s (job.header.mentions type)) (looks : job.header.LooksUp type name) :
    name ∈ s.exported := by
  obtain ⟨inside, isVisited, kind, named⟩ := looks
  obtain ⟨written, reachesWritten, same, rfl | ⟨part, isPart, below, mentioned⟩⟩ :=
    Header.exists_written_of_visited pointers reaches isVisited
  · rw [← same] at knows
    obtain ⟨id, tag, isDecl, declared, -, -⟩ := coherent.standsFor_record reachesWritten kind
    obtain ⟨noPointer, noFunction⟩ := (coherent reachesWritten).kind_of_record kind
    rw [isDecl, Option.bind_some] at named
    exact (knows _ (job.header.mem_mentions_declared noPointer noFunction declared named)).2
  · rw [← same] at knows
    have covers := covers_canonical agree explored coherent (unfolded reachesWritten)
      reachesWritten knows
    obtain ⟨mention, isMention, rfl⟩ := Header.exists_mention_of_looksUp
      ((coherent.isCanonical reachesWritten).part isPart) ⟨inside, below, kind, named⟩
    exact covers mention (mentioned mention isMention)

end

theorem marked_of_looksUp_prototype {prototype part : CType} {name : String}
    (isCanonical : prototype.IsCanonical)
    (covers : Covers s (job.header.prototypeMentions prototype))
    (isPart : prototype.result = some part ∨ part ∈ prototype.arguments)
    (looks : job.header.LooksUp part name) : name ∈ s.exported := by
  have canonicalPart :=
    isCanonical.part (isPart.elim CType.mem_parts_result CType.mem_parts_argument)
  obtain ⟨mention, inside, rfl⟩ := Header.exists_mention_of_looksUp canonicalPart looks
  exact covers mention (job.header.mem_prototypeMentions.mpr ⟨part, isPart, inside⟩)

section

variable (coherent : job.header.Coherent root)

include coherent

theorem isCanonical_functionPointee? {type prototype : CType}
    (reaches : job.header.Reaches root (.type type))
    (calls : type.functionPointee? = some prototype) :
    type.canonical.kind = .pointer ∧ type.canonical.pointee = some prototype ∧
      prototype.IsCanonical ∧ prototype.kind.isFunction = true := by
  obtain ⟨kind, isFunction, own, points, rfl⟩ := CType.functionPointee?_eq_some calls
  have isCanonical := (coherent.isCanonical reaches).part (CType.mem_parts_pointee points)
  have same := isCanonical.canonical_eq
  rw [same] at isFunction ⊢
  exact ⟨kind, points, isCanonical, isFunction⟩

theorem isCanonical_callbackPrototype? {type prototype : CType}
    (reaches : job.header.Reaches root (.type type))
    (calls : callbackPrototype? type = some prototype) : prototype.IsCanonical := by
  unfold callbackPrototype? at calls
  rcases Option.or_eq_some_iff.mp calls with pointee | ⟨-, function⟩
  · exact (isCanonical_functionPointee? coherent reaches pointee).2.2.1
  · split at function
    · cases function
      exact coherent.isCanonical reaches
    · cases function

/-- The resolution of a pointer to a function looks up names that the prototype mentions. -/
theorem marked_of_looksUp_pointer (pointers : job.header.PointeesOfPointers root)
    {type prototype : CType} {name : String} (reaches : job.header.Reaches root (.type type))
    (calls : type.functionPointee? = some prototype)
    (covers : Covers s (job.header.prototypeMentions prototype))
    (looks : job.header.LooksUp type name) : name ∈ s.exported := by
  obtain ⟨kind, canonicalPoints, isCanonical, isFunction⟩ :=
    isCanonical_functionPointee? coherent reaches calls
  rcases Header.looksUp_iff.mp looks with ⟨record, -⟩ | ⟨part, isNext, below⟩
  · rw [kind] at record
    cases record
  · have same : part.canonical = prototype := by
      rcases Header.mem_next isNext with ⟨-, own | ⟨-, points⟩⟩ | ⟨function, -⟩
      · obtain ⟨pointee, points, -, samePointee⟩ :=
          (coherent reaches).pointer (pointers reaches own)
        rw [own, Option.some.injEq] at points
        rw [canonicalPoints, Option.some.injEq] at samePointee
        rw [points, samePointee]
      · rw [canonicalPoints, Option.some.injEq] at points
        rw [← points, isCanonical.canonical_eq]
      · rw [kind] at function
        cases function
    rcases Header.looksUp_iff.mp below with ⟨record, -⟩ | ⟨inner, isInner, looksInner⟩
    · rw [same] at record
      rw [record] at isFunction
      cases isFunction
    · rcases Header.mem_next isInner with ⟨pointer, -⟩ | ⟨-, isPart⟩
      · rw [same] at pointer
        rw [pointer] at isFunction
        cases isFunction
      · rw [same] at isPart
        exact marked_of_looksUp_prototype isCanonical covers isPart looksInner

theorem recordName_of_marked (agree : job.NamesAgree root s) {type : CType} {name : String}
    (reaches : job.header.Reaches root (.type type)) (kind : type.canonical.kind = .record)
    (named : (job.header.declarationOf? type).bind (·.properName?) = some name)
    (marked : name ∈ s.exported) :
    ∃ newName className tag, job.header.recordName s.given type = .given newName ∧
      type.canonical.declaration = some tag ∧ job.Calls s name newName className tag := by
  obtain ⟨id, tag, isDecl, -, canonical, stands⟩ := coherent.standsFor_record reaches kind
  have own := named
  rw [isDecl, Option.bind_some] at own
  obtain ⟨newName, className, calls⟩ := agree.calls marked (stands name own)
  refine ⟨newName, className, tag, ?_, canonical, calls⟩
  simp only [Header.recordName, named, calls.given]

/-- A type whose resolution looks up marked names only refers to given names only. -/
theorem given_of_reference (agree : job.NamesAgree root s)
    (recordsNamed : job.header.RecordsNamed root) {type : CType} {native : Bool}
    {reference : RecordName} (reaches : job.header.Reaches root (.type type))
    (marked : ∀ name, job.header.LooksUp type name → name ∈ s.exported)
    (refers : reference ∈ (job.header.resolve s.given native type).references) :
    ∃ name newName className tag, reference = .given newName ∧
      job.Calls s name newName className tag := by
  obtain ⟨inside, isVisited, kind, rfl⟩ := (Header.mem_references_resolve native type).mp refers
  have reachesInside := reaches.visited isVisited
  obtain ⟨name, named⟩ := coherent.named_record recordsNamed reachesInside kind
  have isMarked := marked name ⟨inside, isVisited, kind, named⟩
  obtain ⟨newName, className, tag, given, -, calls⟩ :=
    recordName_of_marked coherent agree reachesInside kind named isMarked
  exact ⟨name, newName, className, tag, given, calls⟩

end

end Job

end HeaderBindings
