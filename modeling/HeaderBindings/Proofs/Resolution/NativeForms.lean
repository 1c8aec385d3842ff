import HeaderBindings.Proofs.Resolution.References

/-!
# Native and logical forms

The native and the logical form of a type differ only for a scalar: whatever is inside a pointer or
a native function is native in both. So the two signatures of a function or a prototype have the
same parameters in the same places, and differ in those that are scalars themselves.
-/

namespace HeaderBindings

namespace DartType

mutual

/-- The types inside a type, at any depth. -/
def inside : DartType → List DartType
  | .pointer pointee => pointee :: pointee.inside
  | .nativeFunction result parameters => result :: result.inside ++ insideAll parameters
  | .native _ | .logical _ | .record _ | .unexported _ | .anonymous | .unsupported _ => []

/-- Several types and the types inside them. -/
def insideAll : List DartType → List DartType
  | [] => []
  | type :: rest => type :: type.inside ++ insideAll rest

end

theorem mem_insideAll {part : DartType} {types : List DartType} :
    part ∈ insideAll types ↔ ∃ type ∈ types, part = type ∨ part ∈ type.inside := by
  induction types with
  | nil => simp [insideAll]
  | cons type rest ih => simp [insideAll, ih, or_assoc]

@[simp] theorem inside_ofScalar (native : Bool) (s : Scalar) : (ofScalar native s).inside = [] := by
  cases native <;> rfl

end DartType

namespace Header

/-- A type is a scalar, canonically. An enumeration is what its integer type is, and an `int` if its
    integer type is not known. -/
inductive IsScalar (header : Header) : CType → Scalar → Prop where
  | scalar {type : CType} {s : Scalar} (kind : type.canonical.kind = .scalar s) :
      IsScalar header type s
  | enum {type integer : CType} {s : Scalar} (kind : type.canonical.kind = .enum)
      (behind : header.integerOf? type.canonical = some integer)
      (isScalar : IsScalar header integer s) : IsScalar header type s
  | unknown {type : CType} (kind : type.canonical.kind = .enum)
      (behind : header.integerOf? type.canonical = none) : IsScalar header type .int

variable {header : Header} {given : GivenNames}

theorem isScalar_iff {type : CType} {s : Scalar} :
    header.IsScalar type s ↔ header.scalar? type = some s := by
  constructor
  · intro isScalar
    induction isScalar with
    | scalar kind => simp [scalar?, kind]
    | @enum type integer s kind behind isScalar ih =>
      have noEnum : integer.canonical.kind ≠ .enum := by
        simpa using (Option.filter_eq_some_iff.mp behind).2
      cases isScalar with
      | scalar own => simp [scalar?, kind, behind, own]
      | enum own => exact absurd own noEnum
      | unknown own => exact absurd own noEnum
    | unknown kind behind => simp [scalar?, kind, behind]
  · intro scalar
    unfold scalar? at scalar
    split at scalar
    case h_1 s' kind =>
      cases scalar
      exact .scalar kind
    case h_2 kind =>
      split at scalar
      case h_1 integer behind =>
        split at scalar
        case h_1 s' own =>
          cases scalar
          exact .enum kind behind (.scalar own)
        case h_2 => cases scalar
      case h_2 behind =>
        cases scalar
        exact .unknown kind behind
    case h_3 => cases scalar

theorem resolve_of_isScalar {type : CType} {s : Scalar} (isScalar : header.IsScalar type s)
    (native : Bool) : header.resolve given native type = .ofScalar native s := by
  rw [resolve_eq]
  unfold assemble
  rw [isScalar_iff.mp isScalar]

/-- A type that is no scalar has one form. -/
theorem resolve_of_no_scalar {type : CType} (noScalar : header.scalar? type = none)
    (native : Bool) : header.resolve given native type = header.resolve given true type := by
  rw [resolve_eq, resolve_eq]
  unfold assemble
  rw [noScalar]

/-- What is inside a resolved type in one step: a type that its resolution comes to next, natively,
    or the `void` of a missing result. -/
theorem inside_resolve_step {native : Bool} {type : CType} {part : DartType}
    (isInside : part ∈ (header.resolve given native type).inside) :
    part = .native .void ∨ ∃ below ∈ header.next type,
      part = header.resolve given true below ∨ part ∈ (header.resolve given true below).inside := by
  rw [resolve_eq] at isInside
  unfold assemble at isInside
  unfold next
  cases scalar : header.scalar? type with
  | some s => simp [scalar] at isInside
  | none =>
    cases kind : type.canonical.kind with
    | pointer =>
      cases pointee : type.pointee.or type.canonical.pointee with
      | none => simp [scalar, kind, pointee, DartType.inside] at isInside
      | some below =>
        right
        simpa [scalar, kind, pointee, DartType.inside] using isInside
    | record =>
      unfold recordType at isInside
      cases named : header.recordName given type <;>
        simp [scalar, kind, named, DartType.inside] at isInside
    | function | functionNoParameters =>
      simp only [scalar, kind, DartType.inside, List.cons_append, List.mem_cons, List.mem_append,
        DartType.mem_insideAll, List.mem_map] at isInside
      rcases isInside with isResult | isResult | ⟨-, ⟨below, isArgument, rfl⟩, isPart⟩
      · cases result : type.canonical.result with
        | none =>
          left
          simpa [result] using isResult
        | some below =>
          right
          exact ⟨below, by simp, .inl (by simpa [result] using isResult)⟩
      · cases result : type.canonical.result with
        | none => simp [result, DartType.inside] at isResult
        | some below =>
          right
          exact ⟨below, by simp, .inr (by simpa [result] using isResult)⟩
      · right
        exact ⟨below, by simp [isArgument], isPart⟩
    | _ => simp [scalar, kind, DartType.inside] at isInside

/-- Whatever is inside a resolved type, at any depth and in either form, is the native form of a
    type below it, or the `void` of a missing result. -/
theorem inside_resolve {native : Bool} {type : CType} {part : DartType}
    (isInside : part ∈ (header.resolve given native type).inside) :
    part = .native .void ∨ ∃ first ∈ header.next type, ∃ below ∈ header.visited first,
      part = header.resolve given true below := by
  induction type using inductionOnNext header generalizing native with
  | step type ih =>
    rcases inside_resolve_step isInside with isVoid | ⟨first, isNext, own | deeper⟩
    · exact .inl isVoid
    · exact .inr ⟨first, isNext, first, mem_visited.mpr (.inl rfl), own⟩
    · rcases ih first isNext deeper with isVoid | ⟨second, isSecond, below, isBelow, same⟩
      · exact .inl isVoid
      · exact .inr ⟨first, isNext, below, mem_visited.mpr (.inr ⟨second, isSecond, isBelow⟩), same⟩

/-- The native form of a type is logical nowhere. -/
theorem resolve_ne_logical {type : CType} {s : Scalar} :
    header.resolve given true type ≠ .logical s := by
  rw [resolve_eq]
  unfold assemble
  cases header.scalar? type with
  | some s' => simp [DartType.ofScalar]
  | none =>
    cases type.canonical.kind with
    | pointer => cases type.pointee.or type.canonical.pointee <;> simp
    | record =>
      unfold recordType
      cases header.recordName given type <;> simp
    | _ => simp

/-- The native and the logical form of a type in a signature. -/
structure TwoForms (header : Header) (given : GivenNames) (type : CType)
    (native logical : DartType) : Prop where
  /-- A scalar goes by its two names. -/
  scalar : ∀ {s : Scalar}, header.IsScalar type s →
    native.text = s.nativeName ∧ logical.text = s.logicalName
  /-- Any other type is the same in both forms. -/
  other : (∀ s, ¬ header.IsScalar type s) → native = logical
  /-- What is inside either form, at any depth, is native. -/
  inside : ∀ part ∈ native.inside ++ logical.inside, part = .native .void ∨
    ∃ first ∈ header.next type, ∃ below ∈ header.visited first,
      part = header.resolve given true below
  noLogical : ∀ s, .logical s ∉ native.inside ++ logical.inside

theorem twoForms_resolve (type : CType) :
    header.TwoForms given type (header.resolve given true type)
      (header.resolve given false type) where
  scalar isScalar := by
    rw [resolve_of_isScalar isScalar, resolve_of_isScalar isScalar]
    exact ⟨rfl, rfl⟩
  other noScalar := by
    refine (resolve_of_no_scalar ?_ false).symm
    cases scalar : header.scalar? type with
    | none => rfl
    | some s => exact absurd (isScalar_iff.mpr scalar) (noScalar s)
  inside part isInside := by
    rcases List.mem_append.mp isInside with native | logical
    · exact inside_resolve native
    · exact inside_resolve logical
  noLogical s isInside := by
    rcases List.mem_append.mp isInside with native | logical
    · rcases inside_resolve native with isVoid | ⟨-, -, below, -, same⟩
      · cases isVoid
      · exact resolve_ne_logical same.symm
    · rcases inside_resolve logical with isVoid | ⟨-, -, below, -, same⟩
      · cases isVoid
      · exact resolve_ne_logical same.symm

/-- The signatures of a binding follow a result and parameters, each with its type and its name: the
    parameters stand in the same places in both, under the same names, and every place holds the two
    forms of its type. -/
structure SignaturesFollow (header : Header) (given : GivenNames) (resultType : Option CType)
    (places : List (Option CType × Option String)) (binding : Binding) : Prop where
  result : ∀ {type : CType}, resultType = some type →
    header.TwoForms given type binding.native.result binding.logical.result
  noResult : resultType = none → binding.native.result.text = Scalar.void.nativeName ∧
    binding.logical.result.text = Scalar.void.logicalName
  count : binding.native.parameters.length = places.length ∧
    binding.logical.parameters.length = places.length
  parameters : ∀ {place : Nat} {type : CType} {name : Option String},
    places[place]? = some (some type, name) → ∃ native logical,
      binding.native.parameters[place]? = some ⟨native, name⟩ ∧
      binding.logical.parameters[place]? = some ⟨logical, name⟩ ∧
      header.TwoForms given type native logical

theorem twoForms_resolveResult {result : Option CType} {type : CType} (own : result = some type) :
    header.TwoForms given type (header.resolveResult given true result)
      (header.resolveResult given false result) := by
  rw [own]
  exact twoForms_resolve type

/-- Parameters are those that declarations resolve to, each in its place under its name. -/
structure ResolvesInPlace (header : Header) (given : GivenNames) (native : Bool)
    (decls : List Decl) (parameters : List Parameter) : Prop where
  count : parameters.length = decls.length
  inPlace : ∀ {place : Nat} {type : CType} {name : Option String},
    (decls.map fun decl => (decl.type, decl.properName?))[place]? = some (some type, name) →
      parameters[place]? = some ⟨header.resolve given native type, name⟩

theorem resolveParameters_of_typed (header : Header) (given : GivenNames) (native : Bool)
    {decls : List Decl} (typed : ∀ decl ∈ decls, decl.type.isSome = true) :
    ∃ parameters, header.resolveParameters given native decls = .ok parameters ∧
      header.ResolvesInPlace given native decls parameters := by
  induction decls with
  | nil => exact ⟨[], rfl, rfl, fun known => by simp at known⟩
  | cons decl rest ih =>
    obtain ⟨type, own⟩ := Option.isSome_iff_exists.mp (typed decl List.mem_cons_self)
    obtain ⟨parameters, resolved, resolves⟩ := ih fun other isLater =>
      typed other (List.mem_cons_of_mem _ isLater)
    refine ⟨⟨header.resolve given native type, decl.properName?⟩ :: parameters, ?_, ?_, ?_⟩
    · simp [resolveParameters, own, resolved, bind, Except.bind, pure, Except.pure]
    · simp [resolves.count]
    · intro place other name known
      cases place with
      | zero =>
        simp only [List.map_cons, List.getElem?_cons_zero, own, Option.some.injEq,
          Prod.mk.injEq] at known
        obtain ⟨rfl, rfl⟩ := known
        rfl
      | succ place => exact resolves.inPlace known

/-- A function whose parameters all have types is bound, with all of them in place. -/
theorem bindFunction_of_typed (given : GivenNames) {decl : Decl}
    (typed : ∀ argument ∈ header.argumentsOf decl, argument.type.isSome = true) :
    ∃ natives logicals, header.bindFunction given decl = .ok ⟨decl.name, decl.comment,
        ⟨header.resolveResult given true decl.resultType, natives⟩,
        ⟨header.resolveResult given false decl.resultType, logicals⟩⟩ ∧
      header.ResolvesInPlace given true (header.argumentsOf decl) natives ∧
      header.ResolvesInPlace given false (header.argumentsOf decl) logicals := by
  obtain ⟨natives, native, nativeInPlace⟩ := resolveParameters_of_typed header given true typed
  obtain ⟨logicals, logical, logicalInPlace⟩ := resolveParameters_of_typed header given false typed
  refine ⟨natives, logicals, ?_, nativeInPlace, logicalInPlace⟩
  simp only [bindFunction, functionSignature, native, logical, bind, Except.bind, pure, Except.pure]

theorem bindFunction_follows {decl : Decl}
    (typed : ∀ argument ∈ header.argumentsOf decl, argument.type.isSome = true) :
    ∃ binding, header.bindFunction given decl = .ok binding ∧
      header.SignaturesFollow given decl.resultType
        ((header.argumentsOf decl).map fun argument => (argument.type, argument.properName?))
        binding := by
  obtain ⟨natives, logicals, bound, native, logical⟩ := bindFunction_of_typed given typed
  refine ⟨_, bound, {
    result := twoForms_resolveResult
    noResult := fun missing => ?_
    count := by simp [native.count, logical.count]
    parameters := fun known =>
      ⟨_, _, native.inPlace known, logical.inPlace known, twoForms_resolve _⟩ }⟩
  rw [missing]
  exact ⟨rfl, rfl⟩

/-- The signatures of a bound function have the forms of its parameters in place. -/
theorem parameters_of_bindFunction {decl : Decl} {binding : Binding}
    (bound : header.bindFunction given decl = .ok binding) :
    header.ResolvesInPlace given true (header.argumentsOf decl) binding.native.parameters ∧
      header.ResolvesInPlace given false (header.argumentsOf decl) binding.logical.parameters := by
  obtain ⟨natives, logicals, boundAgain, inPlace⟩ :=
    bindFunction_of_typed given (isSome_of_bindFunction bound)
  rw [bound] at boundAgain
  cases boundAgain
  exact inPlace

theorem bindPrototype_follows (prototype : CType) (name comment : Option String) :
    header.SignaturesFollow given prototype.result
      (prototype.arguments.map fun type => (some type, none))
      (header.bindPrototype given prototype name comment) where
  result := twoForms_resolveResult
  noResult missing := by
    simp only [bindPrototype, prototypeSignature, missing]
    exact ⟨rfl, rfl⟩
  count := by simp [bindPrototype, prototypeSignature]
  parameters {place type name} known := by
    rw [List.getElem?_map] at known
    obtain ⟨argument, isArgument, same⟩ := Option.map_eq_some_iff.mp known
    obtain ⟨rfl, rfl⟩ : argument = type ∧ none = name := by simpa using same
    refine ⟨_, _, ?_, ?_, twoForms_resolve argument⟩
    · simp [bindPrototype, prototypeSignature, isArgument]
    · simp [bindPrototype, prototypeSignature, isArgument]

/-- Under any given names, a function whose parameters have types and a prototype have two
    signatures that differ only in the names of scalars, at the result or at a parameter. So the
    form that is asked for makes no difference to a type that is no scalar. -/
theorem forms_differ_in_scalars (header : Header) (given : GivenNames) :
    (∀ decl, (∀ argument ∈ header.argumentsOf decl, argument.type.isSome = true) →
      ∃ binding, header.bindFunction given decl = .ok binding ∧
        header.SignaturesFollow given decl.resultType
          ((header.argumentsOf decl).map fun argument => (argument.type, argument.properName?))
          binding) ∧
    (∀ prototype name comment,
      header.SignaturesFollow given prototype.result
        (prototype.arguments.map fun type => (some type, none))
        (header.bindPrototype given prototype name comment)) ∧
    (∀ type, header.scalar? type = none →
      header.resolve given true type = header.resolve given false type) :=
  ⟨fun _ typed => bindFunction_follows typed, bindPrototype_follows,
    fun _ noScalar => (resolve_of_no_scalar noScalar false).symm⟩

end Header

/-! A function whose parameters have types, with an enumeration outside and inside a pointer. -/
namespace LevelListener

def unsignedInt : CType := { kind := .scalar .unsignedInt, spelling := "unsigned int" }

def level : CType := { kind := .enum, spelling := "enum Level", declaration := some 0 }

def listener : CType :=
  { kind := .function, spelling := "void (enum Level)", arguments := [level] }

def pointer : CType :=
  { kind := .pointer, spelling := "void (*)(enum Level)", pointee := some listener }

def function : Decl :=
  { kind := .function, name := some "f", resultType := some level, arguments := some [1, 2] }

/-- `enum Level : unsigned int {}; enum Level f(void (*listener)(enum Level), enum Level);` -/
def header : Header :=
  ⟨#[{ kind := .enum, name := some "Level", underlying := some unsignedInt },
     { kind := .parameter, name := some "listener", type := some pointer },
     { kind := .parameter, type := some level }]⟩

theorem forms_differ : (∀ argument ∈ header.argumentsOf function, argument.type.isSome = true) ∧
    ∃ binding, header.bindFunction {} function = .ok binding ∧
      header.SignaturesFollow {} function.resultType
        ((header.argumentsOf function).map fun argument => (argument.type, argument.properName?))
        binding := by
  have typed : ∀ argument ∈ header.argumentsOf function, argument.type.isSome = true := by
    simp [Header.argumentsOf, function, Header.decl, header]
  exact ⟨typed, (Header.forms_differ_in_scalars header {}).1 function typed⟩

example : (header.bindFunction {} function).toOption.map
      (fun binding => (binding.native.text, binding.logical.text)) =
    some ("Uint32 Function(Pointer<NativeFunction<Void Function(Uint32)>> listener, Uint32)",
      "int Function(Pointer<NativeFunction<Void Function(Uint32)>> listener, int)") := by
  decide +kernel

end LevelListener

end HeaderBindings
