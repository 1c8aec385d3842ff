import HeaderBindings.Export.Function

/-!
# Exporting a header

How the declarations of a header become the items of the generated text. Functions come first, with
everything that they mention. The type declarations in scope follow in source order, and the class
of the library closes the text.
-/

namespace HeaderBindings

namespace Job

open Exporter

variable (job : Job)

/-- Whether a declaration is in scope: it has a name, and the pattern matches that. -/
def inScope (decl : Decl) : Bool :=
  decl.properName?.any job.names.inScope

def childrenInScope (root : DeclId) (test : DeclKind → Bool) : List DeclId :=
  (job.header.childrenOf root).filter fun id =>
    test (job.header.decl id).kind && job.inScope (job.header.decl id)

/-- Closes the text with the class of the library. -/
def addLibraryClass (className : String) : Exporter Unit := do
  let s ← get
  emit (.library ⟨className, s.callbacks, s.calls⟩)

/-- Exports a header, whose declarations are the children of `root`. -/
def exportHeaderVia (visit : DeclId → Exporter Unit) (className : String) (root : DeclId) :
    Exporter Unit := do
  emit .ffiImport
  emit .blank
  (job.childrenInScope root (· = .function)).forM fun id =>
    job.bindFunctionVia visit (job.header.decl id)
  (job.childrenInScope root (·.declaresType)).forM visit
  addLibraryClass className

def exportHeader (className : String) (root : DeclId) : Exporter Unit :=
  job.exportHeaderVia job.exportDecl className root

end Job

end HeaderBindings
