import HeaderBindings.Header.Scalar

/-!
# Dart types

The types of the generated text. A type that stands for a record is either a name that the
generated text declares, or one of two marks that it does not: the name of a record that has not
been exported, or the mark for a record without a name.
-/

namespace HeaderBindings

inductive DartType where
  | native (s : Scalar)
  | logical (s : Scalar)
  /-- A record by the name that it was given. -/
  | record (name : String)
  /-- A record that was not exported, by its name in the header. -/
  | unexported (name : String)
  | anonymous
  | pointer (pointee : DartType)
  | nativeFunction (result : DartType) (parameters : List DartType)
  /-- A type of a kind that has no counterpart. -/
  | unsupported (kindName : String)
  deriving Repr

namespace DartType

def ofScalar (native : Bool) (s : Scalar) : DartType :=
  if native then .native s else .logical s

def unsupportedText (kindName : String) : String :=
  "<unsupported_type_kind:" ++ kindName ++ ">"

mutual

def text : DartType → String
  | .native s => s.nativeName
  | .logical s => s.logicalName
  | .record name => name
  | .unexported name => name
  | .anonymous => "<unsupported_anonymous_record>"
  | .pointer pointee => "Pointer<" ++ pointee.text ++ ">"
  | .nativeFunction result parameters =>
      "NativeFunction<" ++ result.text ++ " Function(" ++ ", ".intercalate (texts parameters) ++
        ")>"
  | .unsupported kindName => unsupportedText kindName

def texts : List DartType → List String
  | [] => []
  | type :: rest => type.text :: texts rest

end

theorem texts_eq_map (types : List DartType) : texts types = types.map text := by
  induction types with
  | nil => rfl
  | cons type rest ih => simp [texts, ih]

end DartType

end HeaderBindings
