import Mathlib.Data.List.TakeWhile
import HeaderBindings.Proofs.Header.Parts
import HeaderBindings.Resolution.Signature

/-!
# References to records

The records that a resolved type refers to are those of the types that its resolution comes through.
So what a type resolves to, and what is reported about that, depends on the given names only through
how these records are called.
-/

namespace HeaderBindings

/-- Something is reported as an error. -/
def Log.HasError (records : List Log.Record) : Prop :=
  ∃ record ∈ records, record.level = .error

namespace Log

@[simp] theorem hasError_append {left right : List Record} :
    HasError (left ++ right) ↔ HasError left ∨ HasError right := by
  simp [HasError, or_and_right, exists_or]

@[simp] theorem hasError_flatMap {α : Type} {list : List α} {report : α → List Record} :
    HasError (list.flatMap report) ↔ ∃ x ∈ list, HasError (report x) := by
  constructor
  · rintro ⟨record, inside, isError⟩
    obtain ⟨x, isMember, inside⟩ := List.mem_flatMap.mp inside
    exact ⟨x, isMember, record, inside, isError⟩
  · rintro ⟨x, isMember, record, inside, isError⟩
    exact ⟨record, List.mem_flatMap.mpr ⟨x, isMember, inside⟩, isError⟩

end Log

namespace DartType

mutual

/-- How the records in a type are called. -/
def references : DartType → List RecordName
  | .record name => [.given name]
  | .unexported name => [.own name]
  | .anonymous => [.none]
  | .pointer pointee => pointee.references
  | .nativeFunction result parameters => result.references ++ referencesOfAll parameters
  | .native _ | .logical _ | .unsupported _ => []

/-- How the records in several types are called. -/
def referencesOfAll : List DartType → List RecordName
  | [] => []
  | type :: rest => type.references ++ referencesOfAll rest

end

theorem referencesOfAll_eq (types : List DartType) :
    referencesOfAll types = types.flatMap references := by
  induction types with
  | nil => rfl
  | cons type rest ih => simp [referencesOfAll, ih]

@[simp] theorem references_ofScalar (native : Bool) (s : Scalar) :
    (ofScalar native s).references = [] := by
  cases native <;> rfl

end DartType

/-- How the records in a signature are called. -/
def Signature.references (signature : Signature) : List RecordName :=
  signature.result.references ++ signature.parameters.flatMap (·.type.references)

/-- How the records in both signatures of a function or callback are called. -/
def Binding.references (binding : Binding) : List RecordName :=
  binding.native.references ++ binding.logical.references

namespace Header

variable (header : Header)

/-- The types that the resolution of a type comes to next. -/
def next (type : CType) : List CType :=
  if (header.scalar? type).isSome then []
  else
    match type.canonical.kind with
    | .pointer => (type.pointee.or type.canonical.pointee).toList
    | .function | .functionNoParameters =>
        type.canonical.result.toList ++ type.canonical.arguments
    | _ => []

variable {header}

theorem sizeOf_parts_canonical {type part : CType} (isPart : part ∈ type.canonical.parts) :
    sizeOf part < sizeOf type := by
  have smaller := CType.sizeOf_parts isPart
  rcases type.canonical_eq_or_mem_parts with same | inside
  · rw [same] at smaller
    exact smaller
  · exact Nat.lt_trans smaller (CType.sizeOf_parts inside)

theorem sizeOf_next {type part : CType} (isNext : part ∈ header.next type) :
    sizeOf part < sizeOf type := by
  unfold next at isNext
  split at isNext
  · cases isNext
  · split at isNext
    · rcases Option.or_eq_some_iff.mp (Option.mem_toList.mp isNext) with own | ⟨-, canonical⟩
      · exact CType.sizeOf_parts (CType.mem_parts_pointee own)
      · exact sizeOf_parts_canonical (CType.mem_parts_pointee canonical)
    all_goals try cases isNext
    all_goals
      rcases List.mem_append.mp isNext with result | argument
      · exact sizeOf_parts_canonical (CType.mem_parts_result (Option.mem_toList.mp result))
      · exact sizeOf_parts_canonical (CType.mem_parts_argument argument)

/-- What holds of a type whenever it holds of the types that its resolution comes to next holds of
    every type. -/
theorem inductionOnNext (header : Header) {motive : CType → Prop}
    (step : ∀ type, (∀ part ∈ header.next type, motive part) → motive type) (type : CType) :
    motive type :=
  step type fun part _isNext => inductionOnNext header step part
termination_by sizeOf type
decreasing_by exact sizeOf_next _isNext

/-- A resolution comes through a type and then through the next ones. -/
theorem mem_visited {type inside : CType} :
    inside ∈ header.visited type ↔
      inside = type ∨ ∃ part ∈ header.next type, inside ∈ header.visited part := by
  rw [visited_eq, List.mem_cons]
  refine or_congr_right ?_
  unfold visitedBelow next
  cases header.scalar? type with
  | some s => simp
  | none => cases type.canonical.kind <;> simp [or_and_right, exists_or]

theorem scalar?_of_record {type : CType} (kind : type.canonical.kind = .record) :
    header.scalar? type = none := by
  simp [scalar?, kind]

/-- The records that a resolved type refers to are its own and those of the next types. -/
theorem mem_references_step {given : GivenNames} {native : Bool} {type : CType}
    {reference : RecordName} :
    reference ∈ (header.resolve given native type).references ↔
      (type.canonical.kind = .record ∧ reference = header.recordName given type) ∨
        ∃ part ∈ header.next type, reference ∈ (header.resolve given true part).references := by
  rw [resolve_eq]
  unfold assemble next
  cases scalar : header.scalar? type with
  | some s =>
    have noRecord : type.canonical.kind ≠ .record := by
      intro kind
      rw [scalar?_of_record kind] at scalar
      cases scalar
    simp [noRecord]
  | none =>
    cases kind : type.canonical.kind with
    | pointer => cases type.pointee.or type.canonical.pointee <;> simp [DartType.references]
    | record =>
      unfold recordType
      cases header.recordName given type <;> simp [DartType.references]
    | function | functionNoParameters =>
      cases type.canonical.result <;>
        simp [DartType.references, DartType.referencesOfAll_eq, List.flatMap_map, or_and_right,
          exists_or]
    | _ => simp [DartType.references]

/-- The records that a resolved type refers to are those of the types that its resolution comes
    through. -/
theorem mem_references_resolve {given : GivenNames} {reference : RecordName} (native : Bool)
    (type : CType) :
    reference ∈ (header.resolve given native type).references ↔
      ∃ inside ∈ header.visited type, inside.canonical.kind = .record ∧
        reference = header.recordName given inside := by
  induction type using inductionOnNext header generalizing native with
  | step type ih =>
    rw [mem_references_step]
    constructor
    · rintro (own | ⟨part, isNext, below⟩)
      · exact ⟨type, mem_visited.mpr (.inl rfl), own⟩
      · obtain ⟨inside, isVisited, isReference⟩ := (ih part isNext true).mp below
        exact ⟨inside, mem_visited.mpr (.inr ⟨part, isNext, isVisited⟩), isReference⟩
    · rintro ⟨inside, isVisited, isReference⟩
      rcases mem_visited.mp isVisited with rfl | ⟨part, isNext, below⟩
      · exact .inl isReference
      · exact .inr ⟨part, isNext, (ih part isNext true).mpr ⟨inside, below, isReference⟩⟩

theorem mem_references_native {given : GivenNames} {reference : RecordName} (native : Bool)
    (type : CType) :
    reference ∈ (header.resolve given native type).references ↔
      reference ∈ (header.resolve given true type).references := by
  rw [mem_references_resolve native, mem_references_resolve true]

/-- Two tables of given names that call the records alike that a resolution comes through resolve
    the type alike. -/
theorem resolve_congr {given other : GivenNames} (native : Bool) (type : CType) :
    (∀ inside ∈ header.visited type, inside.canonical.kind = .record →
      header.recordName given inside = header.recordName other inside) →
        header.resolve given native type = header.resolve other native type := by
  induction type using inductionOnNext header generalizing native with
  | step type ih =>
    intro same
    have below : ∀ part ∈ header.next type,
        header.resolve given true part = header.resolve other true part := by
      intro part isNext
      refine ih part isNext true fun inside isVisited => ?_
      exact same inside (mem_visited.mpr (.inr ⟨part, isNext, isVisited⟩))
    rw [resolve_eq, resolve_eq]
    unfold assemble
    unfold next at below
    cases scalar : header.scalar? type with
    | some s => rfl
    | none =>
      simp only [scalar, Option.isSome_none, Bool.false_eq_true, if_false] at below
      cases kind : type.canonical.kind with
      | pointer =>
        simp only [kind, Option.mem_toList] at below
        rw [Option.map_congr below]
      | record =>
        simp only [recordType]
        rw [same type (mem_visited.mpr (.inl rfl)) kind]
      | function | functionNoParameters =>
        simp only [kind, List.mem_append, Option.mem_toList] at below
        simp only [Option.map_congr fun part isResult => below part (.inl isResult),
          List.map_congr_left fun part isArgument => below part (.inr isArgument)]
      | _ => rfl

/-- A table of given names that has all entries of another resolves a type alike, unless a record in
    the type is called by its own name. -/
theorem resolve_of_entries {given other : GivenNames} {native : Bool} {type : CType}
    (entries : ∀ {name newName : String}, given.find? name = some newName →
      other.find? name = some newName)
    (quiet : ∀ name, .own name ∉ (header.resolve given native type).references) :
    header.resolve given native type = header.resolve other native type := by
  refine resolve_congr native type fun inside isVisited kind => ?_
  have isReference :
      header.recordName given inside ∈ (header.resolve given native type).references :=
    (mem_references_resolve native type).mpr ⟨inside, isVisited, kind, rfl⟩
  unfold recordName at isReference ⊢
  cases named : (header.declarationOf? inside).bind (·.properName?) with
  | none => rfl
  | some name =>
    simp only [named] at isReference ⊢
    cases known : given.find? name with
    | some newName => rw [entries known]
    | none =>
      rw [known] at isReference
      exact absurd isReference (quiet name)

theorem hasError_visitReport {given : GivenNames} {type : CType} :
    Log.HasError (header.visitReport given type) ↔
      type.canonical.kind = .record ∧ ∃ name, header.recordName given type = .own name := by
  unfold visitReport recordReport
  dsimp only
  cases scalar : header.scalar? type with
  | some s =>
    have noRecord : type.canonical.kind ≠ .record := by
      intro kind
      rw [scalar?_of_record kind] at scalar
      cases scalar
    simp [Log.HasError, noRecord]
  | none =>
    cases kind : type.canonical.kind with
    | pointer => cases (type.pointee.or type.canonical.pointee) <;> simp [Log.HasError]
    | record => cases header.recordName given type <;> simp [Log.HasError]
    | _ => simp [Log.HasError]

/-- Resolving a type reports an error just when a record in the result is called by its own name. -/
theorem hasError_resolveReport {given : GivenNames} (native : Bool) {type : CType} :
    Log.HasError (header.resolveReport given type) ↔
      ∃ name, .own name ∈ (header.resolve given native type).references := by
  simp only [resolveReport, Log.hasError_flatMap, hasError_visitReport,
    mem_references_resolve native]
  constructor
  · rintro ⟨inside, isVisited, kind, name, isOwn⟩
    exact ⟨name, inside, isVisited, kind, isOwn.symm⟩
  · rintro ⟨name, inside, isVisited, kind, isOwn⟩
    exact ⟨inside, isVisited, kind, name, isOwn.symm⟩

theorem hasError_resolveReports {given : GivenNames} {types : List CType} :
    Log.HasError (header.resolveReports given types) ↔
      ∃ name, ∃ type ∈ types, .own name ∈ (header.resolve given true type).references := by
  simp only [resolveReports, Log.hasError_flatMap, hasError_resolveReport true]
  constructor
  · rintro ⟨type, inside, name, isOwn⟩
    exact ⟨name, type, inside, isOwn⟩
  · rintro ⟨name, type, inside, isOwn⟩
    exact ⟨type, inside, name, isOwn⟩

theorem hasError_fieldReport {given : GivenNames} {type : CType} :
    Log.HasError (header.fieldReport given type) ↔
      ∃ resolved, header.fieldType? given type = some resolved ∧
        ∃ name, .own name ∈ resolved.references := by
  unfold fieldReport fieldType?
  cases header.scalar? type with
  | some s => simp [Log.HasError, DartType.references]
  | none =>
    cases type.canonical.kind with
    | pointer | record => simpa using hasError_resolveReport false
    | _ => simp [Log.HasError]

theorem mem_references_fieldType? {given : GivenNames} {type : CType} {reference : RecordName}
    (inside : reference ∈ (header.fieldType? given type).toList.flatMap (·.references)) :
    reference ∈ (header.resolve given true type).references := by
  unfold fieldType? at inside
  split at inside
  · simp [DartType.references] at inside
  · split at inside
    · simpa [mem_references_native false] using inside
    · simpa [mem_references_native false] using inside
    · simp at inside

theorem fieldType?_of_entries {given other : GivenNames} {type : CType}
    (entries : ∀ {name newName : String}, given.find? name = some newName →
      other.find? name = some newName)
    (quiet : ∀ name, .own name ∉ (header.fieldType? given type).toList.flatMap (·.references)) :
    header.fieldType? given type = header.fieldType? other type := by
  unfold fieldType? at quiet ⊢
  split
  · rfl
  case h_2 scalar =>
    rw [scalar] at quiet
    cases kind : type.canonical.kind with
    | pointer | record =>
      simp only [kind, Option.toList_some, List.flatMap_singleton] at quiet
      simp only [resolve_of_entries entries quiet]
    | _ => rfl

theorem mem_references_resolveResult {given : GivenNames} {native : Bool} {result : Option CType}
    {reference : RecordName} :
    reference ∈ (header.resolveResult given native result).references ↔
      ∃ type ∈ result, reference ∈ (header.resolve given true type).references := by
  cases result with
  | none => simp [resolveResult]
  | some type => simpa [resolveResult] using mem_references_native native type

theorem mem_references_prototypeSignature {given : GivenNames} {native : Bool} {prototype : CType}
    {reference : RecordName} :
    reference ∈ (header.prototypeSignature given native prototype).references ↔
      ∃ type ∈ prototype.result.toList ++ prototype.arguments,
        reference ∈ (header.resolve given true type).references := by
  simp only [prototypeSignature, Signature.references, List.flatMap_map, List.mem_append,
    mem_references_resolveResult, List.mem_flatMap, mem_references_native native, Option.mem_toList,
    Option.mem_def, or_and_right, exists_or]

theorem mem_references_bindPrototype {given : GivenNames} {prototype : CType}
    {name comment : Option String} {reference : RecordName} :
    reference ∈ (header.bindPrototype given prototype name comment).references ↔
      ∃ type ∈ prototype.result.toList ++ prototype.arguments,
        reference ∈ (header.resolve given true type).references := by
  unfold bindPrototype Binding.references
  rw [List.mem_append, mem_references_prototypeSignature, mem_references_prototypeSignature,
    or_self]

/-- A prototype has the same signatures under two tables of given names that resolve its result and
    its parameters alike. -/
theorem bindPrototype_congr {given other : GivenNames} {prototype : CType}
    (alike : ∀ native, ∀ type ∈ prototype.result.toList ++ prototype.arguments,
      header.resolve given native type = header.resolve other native type)
    (name comment : Option String) :
    header.bindPrototype given prototype name comment =
      header.bindPrototype other prototype name comment := by
  have signature : ∀ native, header.prototypeSignature given native prototype =
      header.prototypeSignature other native prototype := by
    intro native
    have result : header.resolveResult given native prototype.result =
        header.resolveResult other native prototype.result := by
      cases own : prototype.result with
      | none => rfl
      | some type => exact alike native type (by simp [own])
    have parameters := List.map_congr_left fun type isArgument =>
      congrArg (Parameter.mk · none) (alike native type (List.mem_append_right _ isArgument))
    rw [prototypeSignature, prototypeSignature, result, parameters]
  rw [bindPrototype, bindPrototype, signature, signature]

theorem bindPrototype_of_entries {given other : GivenNames} {prototype : CType}
    {name comment : Option String}
    (entries : ∀ {name newName : String}, given.find? name = some newName →
      other.find? name = some newName)
    (quiet : ∀ own, .own own ∉ (header.bindPrototype given prototype name comment).references) :
    header.bindPrototype given prototype name comment =
      header.bindPrototype other prototype name comment := by
  refine bindPrototype_congr (fun native type isPart => ?_) name comment
  refine resolve_of_entries entries fun own isOwn => ?_
  exact quiet own (mem_references_bindPrototype.mpr
    ⟨type, isPart, (mem_references_native native type).mp isOwn⟩)

theorem hasError_bindPrototypeReport {given : GivenNames} {prototype : CType}
    (name comment : Option String) :
    Log.HasError (header.bindPrototypeReport given prototype) ↔
      ∃ own, .own own ∈ (header.bindPrototype given prototype name comment).references := by
  simp only [bindPrototypeReport, Log.hasError_append, hasError_resolveReports,
    mem_references_bindPrototype, List.mem_append, Option.mem_toList, or_and_right, exists_or,
    or_self, or_assoc]

/-- The types that the signature of a function is made of. -/
def signatureTypes (decl : Decl) : List CType :=
  decl.resultType.toList ++ (header.argumentsOf decl).filterMap (·.type)

theorem mem_signatureTypes {decl : Decl} {resultType : CType} {arguments : List DeclId}
    (result : decl.resultType = some resultType) (parameters : decl.arguments = some arguments)
    {type : CType} :
    type ∈ header.signatureTypes decl ↔
      type = resultType ∨ ∃ argument ∈ arguments.map header.decl, argument.type = some type := by
  rw [signatureTypes, argumentsOf, result, parameters, List.mem_append, Option.toList_some,
    List.mem_singleton, List.mem_filterMap, Option.getD_some]

theorem mem_references_resolveParameters {given : GivenNames} {native : Bool}
    {decls : List Decl} {parameters : List Parameter} {reference : RecordName}
    (resolved : header.resolveParameters given native decls = .ok parameters) :
    reference ∈ parameters.flatMap (·.type.references) ↔
      ∃ type ∈ decls.filterMap (·.type),
        reference ∈ (header.resolve given true type).references := by
  induction decls generalizing parameters with
  | nil =>
    cases resolved
    simp
  | cons decl rest ih =>
    cases own : decl.type with
    | none => simp [resolveParameters, own] at resolved
    | some type =>
      cases others : header.resolveParameters given native rest with
      | error failure => simp [resolveParameters, own, others, bind, Except.bind] at resolved
      | ok parametersOfRest =>
        simp only [resolveParameters, own, others, bind, Except.bind, pure, Except.pure,
          Except.ok.injEq] at resolved
        subst resolved
        simp only [List.flatMap_cons, List.mem_append, ih others, List.filterMap_cons, own,
          List.mem_cons, mem_references_native native, or_and_right, exists_or, exists_eq_left]

theorem mem_references_functionSignature {given : GivenNames} {native : Bool} {decl : Decl}
    {signature : Signature} {reference : RecordName}
    (resolved : header.functionSignature given native decl (header.argumentsOf decl) =
      .ok signature) :
    reference ∈ signature.references ↔
      ∃ type ∈ header.signatureTypes decl,
        reference ∈ (header.resolve given true type).references := by
  unfold functionSignature at resolved
  cases parameters : header.resolveParameters given native (header.argumentsOf decl) with
  | error failure => simp [parameters, bind, Except.bind] at resolved
  | ok list =>
    simp only [parameters, bind, Except.bind, pure, Except.pure, Except.ok.injEq] at resolved
    subst resolved
    simp only [Signature.references, signatureTypes, List.mem_append, mem_references_resolveResult,
      mem_references_resolveParameters parameters, Option.mem_toList, Option.mem_def, or_and_right,
      exists_or]

theorem mem_references_bindFunction {given : GivenNames} {decl : Decl} {binding : Binding}
    {reference : RecordName} (bound : header.bindFunction given decl = .ok binding) :
    reference ∈ binding.references ↔
      ∃ type ∈ header.signatureTypes decl,
        reference ∈ (header.resolve given true type).references := by
  unfold bindFunction at bound
  cases native : header.functionSignature given true decl (header.argumentsOf decl) with
  | error failure => simp [native, bind, Except.bind] at bound
  | ok nativeSignature =>
    cases logical : header.functionSignature given false decl (header.argumentsOf decl) with
    | error failure => simp [native, logical, bind, Except.bind] at bound
    | ok logicalSignature =>
      simp only [native, logical, bind, Except.bind, pure, Except.pure, Except.ok.injEq] at bound
      subst bound
      rw [Binding.references, List.mem_append, mem_references_functionSignature native,
        mem_references_functionSignature logical, or_self]

theorem isSome_of_resolveParameters {given : GivenNames} {native : Bool} {decls : List Decl}
    {parameters : List Parameter}
    (resolved : header.resolveParameters given native decls = .ok parameters) :
    ∀ decl ∈ decls, decl.type.isSome = true := by
  induction decls generalizing parameters with
  | nil =>
    intro decl inside
    cases inside
  | cons decl rest ih =>
    cases own : decl.type with
    | none => simp [resolveParameters, own] at resolved
    | some type =>
      cases others : header.resolveParameters given native rest with
      | error failure => simp [resolveParameters, own, others, bind, Except.bind] at resolved
      | ok parametersOfRest =>
        intro other inside
        rcases List.mem_cons.mp inside with rfl | later
        · rw [own, Option.isSome_some]
        · exact ih others other later

theorem isSome_of_bindFunction {given : GivenNames} {decl : Decl} {binding : Binding}
    (bound : header.bindFunction given decl = .ok binding) :
    ∀ argument ∈ header.argumentsOf decl, argument.type.isSome = true := by
  cases native : header.resolveParameters given true (header.argumentsOf decl) with
  | error failure => simp [bindFunction, functionSignature, native, bind, Except.bind] at bound
  | ok parameters => exact isSome_of_resolveParameters native

/-- Resolving a function reports an error just when a record in its signatures is called by its own
    name. -/
theorem hasError_bindFunctionReport {given : GivenNames} {decl : Decl} {binding : Binding}
    (bound : header.bindFunction given decl = .ok binding) :
    Log.HasError (header.bindFunctionReport given decl) ↔ ∃ own, .own own ∈ binding.references := by
  have typed := isSome_of_bindFunction bound
  unfold bindFunctionReport
  dsimp only
  rw [List.takeWhile_eq_self_iff.mpr typed, if_pos (List.all_eq_true.mpr typed)]
  simp only [Log.hasError_append, hasError_resolveReports, mem_references_bindFunction bound,
    signatureTypes, List.mem_append, Option.mem_toList, or_and_right, exists_or, or_self, or_assoc]

end Header

end HeaderBindings
