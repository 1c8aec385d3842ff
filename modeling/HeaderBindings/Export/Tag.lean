import HeaderBindings.Binding.MemberName
import HeaderBindings.Export.Mention
import HeaderBindings.Export.Progress

/-!
# Exporting structures and enumerations

How a structure or an enumeration becomes a class of the generated text. Everything that the fields
of a structure mention is exported before its class. A step that meets a mentioned declaration takes
the way to export it as an argument, `visit`.
-/

namespace HeaderBindings

namespace Job

open Exporter

variable (job : Job)

/-- Does something with the name of a declaration. A declaration without a name is passed over. (The
    program marks the missing name there, and raises a type error when it is to be replaced.) -/
def ifNamed (decl : Decl) (part : String → Exporter Unit) : Exporter Unit :=
  match decl.name with
  | some name => part name
  | none => return ()

theorem ifNamed_of_name {decl : Decl} {name : String} (named : decl.name = some name)
    (part : String → Exporter Unit) : ifNamed decl part = part name := by
  rw [ifNamed, named]

theorem ifNamed_of_nameless {decl : Decl} (nameless : decl.name = none)
    (part : String → Exporter Unit) : ifNamed decl part = return () := by
  rw [ifNamed, nameless]

def newName (name : String) : Exporter String :=
  match job.names.apply name with
  | .ok newName => return newName
  | .error failure => throw failure

def follow (visit : DeclId → Exporter Unit) (mention : Mention) : Exporter Unit := do
  report .debug
    ("Parse type: `" ++ mention.spelling ++ "` declared by `" ++ mention.name ++ "`")
  visit mention.decl

def followAll (visit : DeclId → Exporter Unit) (mentions : List Mention) :
    Exporter Unit :=
  mentions.forM (follow visit)

def constant (owner : String) (decl : Decl) : Except Failure Constant :=
  match decl.properName?, decl.value with
  | some name, some value => .ok ⟨MemberName.short name owner, value⟩
  | _, _ => .error (.malformed (some owner) .constant)

def childrenOfKind (kind : DeclKind) (id : DeclId) : List Decl :=
  ((job.header.childrenOf id).map job.header.decl).filter (·.kind = kind)

/-- Exports an enumeration. Its constants lose the name `owner` at their beginning. -/
def exportEnum (owner newName : String) (id : DeclId) (comment : Option String) :
    Exporter Unit := do
  report .info (asText "Translate enum" owner newName)
  let constants ← ((job.childrenOfKind .enumConstant id).mapM (constant owner) :
    Except Failure (List Constant))
  emit (.enumClass id newName (comment.filter (· ≠ "")) constants)

def exportField (owner : String) (decl : Decl) : Exporter Field := do
  match decl.properName?, decl.type with
  | none, _ => throw (.malformed (some owner) .fieldName)
  | some name, none => throw (.malformed (some owner) (.fieldType name))
  | some name, some type =>
      report .info
        ("Translate field: `" ++ name ++ "` of type `" ++ type.spelling ++ "`")
      let given := (← get).given
      reportAll (job.header.fieldReport given type)
      return ⟨decl.properComment?, job.header.scalar? type, job.header.fieldType? given type, name⟩

/-- Exports a structure, after everything that its fields mention. -/
def exportStruct (visit : DeclId → Exporter Unit) (name newName : String) (id : DeclId)
    (comment : Option String) : Exporter Unit := do
  report .info (asText "Translate struct" name newName)
  let fields := job.childrenOfKind .field id
  (fields.filterMap (·.type)).forM fun type => followAll visit (job.header.mentions type)
  let exported ← fields.mapM (job.exportField name)
  emit (.structClass id newName (comment.filter (· ≠ "")) exported)

end Job

end HeaderBindings
