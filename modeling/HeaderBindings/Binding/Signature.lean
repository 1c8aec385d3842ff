import HeaderBindings.Binding.DartType

/-!
# Signatures

The signature of a function or callback, natively and logically.
-/

namespace HeaderBindings

structure Parameter where
  type : DartType
  /-- Its name; parameters of prototypes have none. -/
  name : Option String := none
  deriving Repr

def Parameter.text (parameter : Parameter) : String :=
  match parameter.name with
  | some name => parameter.type.text ++ " " ++ name
  | none => parameter.type.text

structure Signature where
  result : DartType
  parameters : List Parameter
  deriving Repr

def Signature.parameterText (parameters : List Parameter) : String :=
  ", ".intercalate (parameters.map (·.text))

def Signature.text (signature : Signature) : String :=
  signature.result.text ++ " Function(" ++ Signature.parameterText signature.parameters ++ ")"

/-- A function or callback: its name and comment in the header, and its signature as it is called
    natively and as it is called logically. -/
structure Binding where
  name : Option String
  comment : Option String
  native : Signature
  logical : Signature
  deriving Repr

def Binding.properComment? (binding : Binding) : Option String :=
  binding.comment.filter (· ≠ "")

end HeaderBindings
