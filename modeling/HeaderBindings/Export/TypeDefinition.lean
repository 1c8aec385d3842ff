import HeaderBindings.Export.Tag

/-!
# Exporting type definitions

What becomes of a type definition. The first type definition of a structure or enumeration that has
no name yet gives it its class, and a later one becomes another name for that class. A type
definition of a function or of a pointer to one becomes a callback. Any other type definition leaves
nothing in the text, for its uses are resolved through its canonical type.
-/

namespace HeaderBindings

namespace Job

open Exporter

variable (job : Job)

/-- The name that stands for a structure or enumeration already: that of its class, or else the one
    that its source name was given. -/
def existingName? (id : DeclId) : Exporter (Option String) := do
  let s ← get
  return (s.classes.find? id).or
    ((job.header.decl id).properName?.bind s.given.find?)

/-- The comment of a type definition of a structure or enumeration: its own, or else that of what
    it names. -/
def typedefComment (decl target : Decl) : Option String :=
  decl.properComment?.or target.comment

/-- Exports a type definition of a structure or enumeration. If that has a name already, the
    type definition becomes another name for it; otherwise it gives it its class. -/
def exportTagTypedef (visit : DeclId → Exporter Unit) (name newName : String) (decl : Decl)
    (record : Bool) (target : DeclId) : Exporter Unit := do
  let targetDecl := job.header.decl target
  let comment := typedefComment decl targetDecl
  match ← job.existingName? target with
  | some existing =>
      report .info (asText "Translate typedef alias" name newName)
      give name newName
      emit (.alias newName existing (comment.filter (· ≠ "")))
  | none =>
      give name newName
      setClass target newName
      if let some tag := targetDecl.properName? then
        if ← exportOnce tag then give tag newName
      if record then
        report .info (asText "Translate typedef record" name newName)
        job.exportStruct visit name newName target comment
      else
        report .info (asText "Translate typedef enum" name newName)
        job.exportEnum (targetDecl.properName?.getD name) newName target comment

/-- Exports a type definition of a function or a pointer to one. -/
def exportCallbackTypedef (visit : DeclId → Exporter Unit) (name newName : String)
    (decl : Decl) (prototype : CType) : Exporter Unit := do
  report .info (asText "Translate typedef callback" name newName)
  followAll visit (job.header.prototypeMentions prototype)
  let given := (← get).given
  reportAll (job.header.bindPrototypeReport given prototype)
  let binding := job.header.bindPrototype given prototype (some name) decl.comment
  emit (.callback newName binding)
  addCallback newName binding

/-- The prototype that a type definition of a function or a pointer to one names. -/
def callbackPrototype? (underlying : CType) : Option CType :=
  underlying.functionPointee?.or
    (if underlying.canonical.kind.isFunction then some underlying.canonical else none)

/-- Exports any other type definition: what it mentions is exported, and the type definition
    itself leaves nothing in the text. -/
def exportPlainTypedef (visit : DeclId → Exporter Unit) (name newName : String)
    (underlying : CType) : Exporter Unit := do
  followAll visit (job.header.mentions underlying)
  let canonical := underlying.canonical
  if canonical.kind = .pointer || (job.header.scalar? canonical).isSome then
    report .debug
      ("Typedef `" ++ name ++ "` resolves through its canonical type " ++ canonical.kindName)
  else
    report .warning (asText ("Untranslated typedef " ++ canonical.kindName) name newName)

/-- The structure or enumeration that a type definition names, and whether it is a structure. -/
def tagTarget? (underlying : CType) : Option (Bool × DeclId) :=
  match underlying.canonical.kind with
  | .record => underlying.canonical.declaration.map (true, ·)
  | .enum => underlying.canonical.declaration.map (false, ·)
  | _ => none

def exportTypedef (visit : DeclId → Exporter Unit) (name newName : String) (id : DeclId) :
    Exporter Unit := do
  let decl := job.header.decl id
  match decl.underlying with
  | none => throw (.malformed (some name) .typedefTarget)
  | some underlying =>
      match tagTarget? underlying with
      | some (record, target) => job.exportTagTypedef visit name newName decl record target
      | none =>
          match callbackPrototype? underlying with
          | some prototype => job.exportCallbackTypedef visit name newName decl prototype
          | none => job.exportPlainTypedef visit name newName underlying

end Job

end HeaderBindings
