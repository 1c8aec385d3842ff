import HeaderBindings.Settings
import HeaderBindings.Export.Header

/-!
# Generating bindings

The whole text for a header: a banner, and the items that exporting its declarations leaves.
-/

namespace HeaderBindings

def programName : String := "c4dart"

def programVersion : String := "0.1.0"

/-- The first line of every generated text. -/
def banner : String :=
  "/* This file was generated using " ++ programName ++ " v" ++ programVersion ++
    " tool and should not be modified manually. */"

def bindingsText (items : List Item) : String :=
  banner ++ "\n" ++ Item.render items ++ "\n"

/-- The text of the bindings for a header, and what generating it reports. -/
def generate (settings : Settings) (header : Header) (root : DeclId) :
    Except Failure String × List Log.Record :=
  match Renaming.ofTemplate settings.pattern settings.template with
  | .error failure => (.error failure, [])
  | .ok names =>
      let job : Job := ⟨header, names⟩
      match (job.exportHeader settings.className root).run.run {} with
      | (.ok (), progress) => (.ok (bindingsText progress.items), progress.log)
      | (.error failure, progress) => (.error failure, progress.log)

end HeaderBindings
