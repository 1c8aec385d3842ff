import HeaderBindings.Binding.DartType
import HeaderBindings.Header.Declaration
import HeaderBindings.Table

/-!
# Resolving types

What a type of the header is called in the generated text. Scalars, and enumerations through their
integer types, have a native and a logical form; everything inside a pointer or a native function
is native. A record is called by the name that its declaration was given.

Resolving never fails: a type without counterpart becomes a mark that is easily found in the
generated text.
-/

namespace HeaderBindings

/-- The names that the declarations of a header were given. -/
abbrev GivenNames := Table String String

/-- How a type definition or tag is called in the generated text. -/
inductive RecordName where
  | given (name : String)
  /-- By its own name, for it was given none. -/
  | own (name : String)
  | none
  deriving Repr, DecidableEq

namespace Header

variable (header : Header)

/-- The declaration that a type names, directly or canonically. -/
def declarationOf? (type : CType) : Option Decl :=
  (type.declaration.or type.canonical.declaration).map header.decl

/-- The integer type behind an enumeration type, unless that is an enumeration again. -/
def integerOf? (type : CType) : Option CType :=
  ((type.declaration.map header.decl).bind (·.underlying)).filter (·.canonical.kind ≠ .enum)

/-- The scalar that a type is. An enumeration whose integer type is not known is an `int`. -/
def scalar? (type : CType) : Option Scalar :=
  match type.canonical.kind with
  | .scalar s => some s
  | .enum =>
      match header.integerOf? type.canonical with
      | some integer =>
          match integer.canonical.kind with
          | .scalar s => some s
          | _ => none
      | none => some .int
  | _ => none

def recordName (given : GivenNames) (type : CType) : RecordName :=
  match (header.declarationOf? type).bind (·.properName?) with
  | none => .none
  | some name =>
      match given.find? name with
      | some newName => .given newName
      | none => .own name

def recordType (given : GivenNames) (type : CType) : DartType :=
  match header.recordName given type with
  | .given name => .record name
  | .own name => .unexported name
  | .none => .anonymous

/-- The Dart type for a type whose canonical form is `canonical`, from what resolving its parts
    gives: the pointee, natively, and the result and parameters of a function type, natively. Only
    the parts that the kind of the type calls for are resolved, for types may share their parts and
    be far larger than their description. -/
def assemble (given : GivenNames) (native : Bool) (type canonical : CType)
    (pointee result : Unit → Option DartType) (parameters : Unit → List DartType) : DartType :=
  match header.scalar? type with
  | some s => .ofScalar native s
  | none =>
      match canonical.kind with
      | .pointer =>
          match pointee () with
          | some pointee => .pointer pointee
          | none => .unsupported canonical.kindName
      | .record => header.recordType given type
      | .function | .functionNoParameters =>
          .nativeFunction ((result ()).getD (.native .void)) (parameters ())
      | _ => .unsupported canonical.kindName

mutual

/-- The Dart type that a type resolves to, in its native or logical form. A pointer points to what
    the type itself points to, or else to what its canonical form does. -/
def resolve (given : GivenNames) (native : Bool) : CType → DartType
  | ⟨kind, spelling, rawKind, none, pointee, result, arguments, declaration⟩ =>
      let type : CType :=
        ⟨kind, spelling, rawKind, none, pointee, result, arguments, declaration⟩
      header.assemble given native type type (fun _ => resolveOption given true pointee)
        (fun _ => resolveOption given true result) (fun _ => resolveList given true arguments)
  | ⟨kind, spelling, rawKind,
      some ⟨kind', spelling', rawKind', own', pointee', result', arguments', declaration'⟩,
      pointee, result, arguments, declaration⟩ =>
      let canonical : CType :=
        ⟨kind', spelling', rawKind', own', pointee', result', arguments', declaration'⟩
      let type : CType :=
        ⟨kind, spelling, rawKind, some canonical, pointee, result, arguments, declaration⟩
      header.assemble given native type canonical
        (fun _ =>
          match pointee with
          | some inner => some (resolve given true inner)
          | none => resolveOption given true pointee')
        (fun _ => resolveOption given true result')
        (fun _ => resolveList given true arguments')

def resolveOption (given : GivenNames) (native : Bool) : Option CType → Option DartType
  | none => none
  | some type => some (resolve given native type)

def resolveList (given : GivenNames) (native : Bool) : List CType → List DartType
  | [] => []
  | type :: rest => resolve given native type :: resolveList given native rest

end

theorem resolveOption_eq_map (given : GivenNames) (native : Bool) (type : Option CType) :
    header.resolveOption given native type = type.map (header.resolve given native) := by
  cases type <;> rfl

theorem resolveList_eq_map (given : GivenNames) (native : Bool) (types : List CType) :
    header.resolveList given native types = types.map (header.resolve given native) := by
  induction types with
  | nil => rfl
  | cons type rest ih => simp [resolveList, ih]

/-- A type resolves through its canonical form, except that a pointee of its own goes first. -/
theorem resolve_eq (given : GivenNames) (native : Bool) (type : CType) :
    header.resolve given native type =
      header.assemble given native type type.canonical
        (fun _ => (type.pointee.or type.canonical.pointee).map (header.resolve given true))
        (fun _ => type.canonical.result.map (header.resolve given true))
        (fun _ => type.canonical.arguments.map (header.resolve given true)) := by
  obtain ⟨kind, spelling, rawKind, own, pointee, result, arguments, declaration⟩ := type
  cases own with
  | none =>
    simp only [resolve, CType.canonical, Option.getD_none, resolveOption_eq_map,
      resolveList_eq_map, Option.or_self]
  | some canonical =>
    obtain ⟨kind', spelling', rawKind', own', pointee', result', arguments', declaration'⟩ :=
      canonical
    cases pointee <;>
      simp [resolve, CType.canonical, resolveOption_eq_map, resolveList_eq_map]

/-- The logical type of a structure field; absent for a type that no field can have. -/
def fieldType? (given : GivenNames) (type : CType) : Option DartType :=
  match header.scalar? type with
  | some s => some (.logical s)
  | none =>
      match type.canonical.kind with
      | .pointer | .record => some (header.resolve given false type)
      | _ => none

end Header

end HeaderBindings
