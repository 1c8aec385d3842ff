import HeaderBindings.Export.Header

/-!
# Requests

What may be asked of an export, one request after another, and the progress that requests leave. A
request that fails leaves what it did before the failure, and later requests go on from there.

A request exports the declarations that it meets as it goes. Those without a name are passed over,
also when they are asked for by themselves.
-/

namespace HeaderBindings

/-- What may be asked of an export. -/
inductive Request where
  /-- A whole header, whose declarations are the children of `root`. -/
  | header (className : String) (root : DeclId)
  | function (id : DeclId)
  /-- What a type mentions. -/
  | type (type : CType)
  | prototype (prototype : CType)
  | declaration (id : DeclId)
  deriving Repr

namespace Job

variable (job : Job)

/-- Does what is asked, with a way to export the declarations that are met. -/
def performVia (visit : DeclId → Exporter Unit) : Request → Exporter Unit
  | .header className root => job.exportHeaderVia visit className root
  | .function id => job.bindFunctionVia visit (job.header.decl id)
  | .type type => followAll visit (job.header.mentions type)
  | .prototype prototype => followAll visit (job.header.prototypeMentions prototype)
  | .declaration id => visit id

def perform : Request → Exporter Unit :=
  job.performVia job.exportDecl

/-- The progress that requests leave, made one after another of a new export. -/
def after (requests : List Request) : Progress :=
  requests.foldl (fun s request => ((job.perform request).run.run s).2) {}

end Job

end HeaderBindings
