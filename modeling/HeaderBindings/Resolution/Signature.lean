import HeaderBindings.Binding.Signature
import HeaderBindings.Failure
import HeaderBindings.Resolution.Report

/-!
# Resolving signatures

The native and the logical signature of a function or of a prototype, and what resolving them
reports. A missing result counts as `void`.
-/

namespace HeaderBindings

namespace Header

variable (header : Header)

def resolveResult (given : GivenNames) (native : Bool) (result : Option CType) : DartType :=
  match result with
  | some type => header.resolve given native type
  | none => .ofScalar native .void

/-- What the parameters of a function resolve to; each of them must have a type. -/
def resolveParameters (given : GivenNames) (native : Bool) :
    List Decl → Except Failure (List Parameter)
  | [] => .ok []
  | decl :: rest =>
      match decl.type with
      | none => .error (.malformed decl.name .argument)
      | some type => do
          let others ← resolveParameters given native rest
          return ⟨header.resolve given native type, decl.properName?⟩ :: others

def functionSignature (given : GivenNames) (native : Bool) (decl : Decl) (arguments : List Decl) :
    Except Failure Signature := do
  return ⟨header.resolveResult given native decl.resultType,
    ← header.resolveParameters given native arguments⟩

def argumentsOf (decl : Decl) : List Decl :=
  (decl.arguments.getD []).map header.decl

def bindFunction (given : GivenNames) (decl : Decl) : Except Failure Binding := do
  let native ← header.functionSignature given true decl (header.argumentsOf decl)
  let logical ← header.functionSignature given false decl (header.argumentsOf decl)
  return ⟨decl.name, decl.comment, native, logical⟩

/-- What resolving the signatures of a function reports. The parameters are resolved up to the
    first one without a type. -/
def bindFunctionReport (given : GivenNames) (decl : Decl) : List Log.Record :=
  let arguments := header.argumentsOf decl
  let result := header.resolveReports given decl.resultType.toList
  let typed := header.resolveReports given
    ((arguments.takeWhile (·.type.isSome)).filterMap (·.type))
  result ++ result ++ typed ++ if arguments.all (·.type.isSome) then typed else []

def prototypeSignature (given : GivenNames) (native : Bool) (prototype : CType) : Signature :=
  ⟨header.resolveResult given native prototype.result,
    prototype.arguments.map fun type => ⟨header.resolve given native type, none⟩⟩

/-- A prototype with its signatures, under an optional name and comment. -/
def bindPrototype (given : GivenNames) (prototype : CType) (name comment : Option String) :
    Binding :=
  ⟨name, comment, header.prototypeSignature given true prototype,
    header.prototypeSignature given false prototype⟩

def bindPrototypeReport (given : GivenNames) (prototype : CType) : List Log.Record :=
  let result := header.resolveReports given prototype.result.toList
  let parameters := header.resolveReports given prototype.arguments
  result ++ result ++ parameters ++ parameters

end Header

end HeaderBindings
