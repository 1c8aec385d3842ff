import HeaderBindings.Log
import HeaderBindings.Resolution.Basic

/-!
# Reports of resolving

What resolving a type reports. A resolution comes through types in a fixed order, `visited`, and
each of them reports that it is resolved and what is missing about it. A function type has its
result and then its parameters resolved twice, for the native and the logical form.
-/

namespace HeaderBindings

namespace Header

variable (header : Header)

/-- The types visited below a type with the given canonical form, from those visited in its parts,
    of which only those are asked that the kind of the type calls for. -/
def visitedBelow (type canonical : CType) (pointee result parameters : Unit → List CType) :
    List CType :=
  if (header.scalar? type).isSome then []
  else
    match canonical.kind with
    | .pointer => pointee ()
    | .function | .functionNoParameters =>
        let below := result ()
        let beside := parameters ()
        below ++ below ++ beside ++ beside
    | _ => []

mutual

/-- The types that the resolution of a type comes through, in order. -/
def visited : CType → List CType
  | ⟨kind, spelling, rawKind, none, pointee, result, arguments, declaration⟩ =>
      let type : CType :=
        ⟨kind, spelling, rawKind, none, pointee, result, arguments, declaration⟩
      type :: header.visitedBelow type type (fun _ => visitedOption pointee)
        (fun _ => visitedOption result) (fun _ => visitedList arguments)
  | ⟨kind, spelling, rawKind,
      some ⟨kind', spelling', rawKind', own', pointee', result', arguments', declaration'⟩,
      pointee, result, arguments, declaration⟩ =>
      let canonical : CType :=
        ⟨kind', spelling', rawKind', own', pointee', result', arguments', declaration'⟩
      let type : CType :=
        ⟨kind, spelling, rawKind, some canonical, pointee, result, arguments, declaration⟩
      type :: header.visitedBelow type canonical
        (fun _ =>
          match pointee with
          | some inner => visited inner
          | none => visitedOption pointee')
        (fun _ => visitedOption result') (fun _ => visitedList arguments')

def visitedOption : Option CType → List CType
  | none => []
  | some type => visited type

def visitedList : List CType → List CType
  | [] => []
  | type :: rest => visited type ++ visitedList rest

end

theorem visitedOption_eq (type : Option CType) :
    header.visitedOption type = type.toList.flatMap header.visited := by
  cases type <;> simp [visitedOption]

theorem visitedList_eq (types : List CType) :
    header.visitedList types = types.flatMap header.visited := by
  induction types with
  | nil => rfl
  | cons type rest ih => simp [visitedList, ih]

theorem visited_eq (type : CType) :
    header.visited type =
      type :: header.visitedBelow type type.canonical
        (fun _ => (type.pointee.or type.canonical.pointee).toList.flatMap header.visited)
        (fun _ => type.canonical.result.toList.flatMap header.visited)
        (fun _ => type.canonical.arguments.flatMap header.visited) := by
  obtain ⟨kind, spelling, rawKind, own, pointee, result, arguments, declaration⟩ := type
  cases own with
  | none =>
    simp only [visited, CType.canonical, Option.getD_none, visitedOption_eq,
      visitedList_eq, Option.or_self]
  | some canonical =>
    obtain ⟨kind', spelling', rawKind', own', pointee', result', arguments', declaration'⟩ :=
      canonical
    cases pointee <;>
      simp [visited, CType.canonical, visitedOption_eq, visitedList_eq]

def recordReport (given : GivenNames) (type : CType) : List Log.Record :=
  match header.recordName given type with
  | .given _ => []
  | .own name =>
      [⟨.error, .types, "Record `" ++ name ++ "` referenced before it was translated"⟩]
  | .none => [⟨.warning, .types, "Anonymous record type: `" ++ type.spelling ++ "`"⟩]

/-- What is reported of one type that a resolution comes through. -/
def visitReport (given : GivenNames) (type : CType) : List Log.Record :=
  let canonical := type.canonical
  let start : Log.Record :=
    ⟨.debug, .types,
      "Translate type: `" ++ type.spelling ++ "` canonical: " ++ canonical.kindName⟩
  if (header.scalar? type).isSome then [start]
  else
    match canonical.kind with
    | .pointer =>
        if (type.pointee.or canonical.pointee).isSome then [start]
        else
          [start, ⟨.warning, .types, "Pointer type without pointee: `" ++ type.spelling ++ "`"⟩]
    | .record => start :: header.recordReport given type
    | .function | .functionNoParameters => [start]
    | _ => [start, ⟨.warning, .types, "Unsupported type kind: " ++ canonical.kindName⟩]

def resolveReport (given : GivenNames) (type : CType) : List Log.Record :=
  (header.visited type).flatMap (header.visitReport given)

def resolveReports (given : GivenNames) (types : List CType) : List Log.Record :=
  types.flatMap (header.resolveReport given)

def fieldReport (given : GivenNames) (type : CType) : List Log.Record :=
  if (header.scalar? type).isSome then []
  else
    match type.canonical.kind with
    | .pointer | .record => header.resolveReport given type
    | _ =>
        [⟨.warning, .types, "Unsupported field type kind: " ++ type.canonical.kindName⟩]

end Header

end HeaderBindings
