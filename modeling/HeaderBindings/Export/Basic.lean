import HeaderBindings.Export.TypeDefinition

/-!
# Exporting declarations

How a declaration that is mentioned becomes an item of the generated text, once and before the text
that mentions it. An export that is not a repetition marks a new name, so the number of names bounds
how deep exports nest.
-/

namespace HeaderBindings

namespace Job

open Exporter

variable (job : Job)

/-- Exports a declaration that has just been marked as exported. -/
def exportNew (visit : DeclId → Exporter Unit) (name : String) (id : DeclId) :
    Exporter Unit := do
  let newName ← job.newName name
  let decl := job.header.decl id
  match decl.kind with
  | .enum =>
      give name newName
      setClass id newName
      job.exportEnum name newName id decl.comment
  | .struct =>
      give name newName
      setClass id newName
      job.exportStruct visit name newName id decl.comment
  | .typedef => job.exportTypedef visit name newName id
  | _ => report .warning ("Unparsed type declaration " ++ decl.kindName ++ ": `" ++ name ++ "`")

/-- Exports a declaration, unless one with its name was exported before. The budget bounds the
    nesting of exports. -/
def exportWithin : Nat → DeclId → Exporter Unit
  | budget, id =>
      ifNamed (job.header.decl id) fun name => do
        if ← exportOnce name then
          match budget with
          | 0 => throw .nesting
          | budget + 1 => job.exportNew (exportWithin budget) name id

/-- A budget that no export uses up: exports nest only through new names, and there are no
    more of these than declarations and the empty name. -/
def nestingBudget : Nat :=
  job.header.decls.size + 1

def exportDecl (id : DeclId) : Exporter Unit :=
  job.exportWithin job.nestingBudget id

def exportType (type : CType) : Exporter Unit :=
  followAll job.exportDecl (job.header.mentions type)

def exportPrototype (prototype : CType) : Exporter Unit :=
  followAll job.exportDecl (job.header.prototypeMentions prototype)

end Job

end HeaderBindings
