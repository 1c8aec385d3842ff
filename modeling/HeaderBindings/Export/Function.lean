import HeaderBindings.Export.Basic

/-!
# Exporting functions

How a function becomes a member of the library class. The types in its signature bring in every
structure, enumeration and type definition that they mention, and its parameters that point to
functions become callbacks.
-/

namespace HeaderBindings

namespace Job

open Exporter

variable (job : Job)

section

variable (visit : DeclId → Exporter Unit)

/-- Exports what the parameters of a function mention, and adds those that are callbacks to the
    library class. Callbacks without a name are numbered by `unnamed`. -/
def bindArguments (name newName : String) : (unnamed : Nat) → List Decl → Exporter Unit
  | _, [] => return ()
  | unnamed, argument :: rest => do
      match argument.type with
      | none =>
          throw (.malformed (some name)
            (.functionArgument (argument.properName?.getD (toString unnamed))))
      | some type =>
          match type.functionPointee? with
          | some prototype =>
              followAll visit (job.header.prototypeMentions prototype)
              let given := (← get).given
              reportAll (job.header.bindPrototypeReport given prototype)
              let label := argument.properName?.getD ("cb" ++ toString unnamed)
              addCallback (newName ++ "_" ++ label)
                (job.header.bindPrototype given prototype none none)
              let next := if argument.properName?.isSome then unnamed else unnamed + 1
              bindArguments name newName next rest
          | none =>
              followAll visit (job.header.mentions type)
              bindArguments name newName unnamed rest

/-- Adds a function to the library class, after everything that its signature mentions. A function
    that was bound before is left out. -/
def bindFunctionVia (decl : Decl) : Exporter Unit := do
  report .info ("Parse function: `" ++ decl.name.getD "None" ++ "`")
  match decl.resultType, decl.arguments with
  | none, _ => throw (.malformed decl.name .functionResult)
  | some _, none => throw (.malformed decl.name .functionArguments)
  | some result, some arguments =>
      ifNamed decl fun name => do
        if ← bindOnce name then
          let newName ← job.newName name
          followAll visit (job.header.mentions result)
          job.bindArguments visit name newName 0 (arguments.map job.header.decl)
          let given := (← get).given
          reportAll (job.header.bindFunctionReport given decl)
          addCall newName (← job.header.bindFunction given decl)
        else
          report .debug ("Function `" ++ name ++ "` already bound")

end

def bindFunction (decl : Decl) : Exporter Unit :=
  job.bindFunctionVia job.exportDecl decl

end Job

end HeaderBindings
