import HeaderBindings.Proofs.Export.Run

/-!
# The map of given names

After a successful run the map of given names is right about every source name. It has an entry just
for the exported names of structures, enumerations and type definitions of these, and the entry is
the name of the class that stands in the text, or another name for it.
-/

namespace HeaderBindings

namespace Job

variable {job : Job} {root : DeclId}

theorem sound_of_exportHeader (tagTypes : job.header.TagTypes root)
    (unambiguous : job.header.Unambiguous root) {className : String} {s : Progress}
    (run : (job.exportHeader className root).Succeeds {} () s) : job.Sound root s :=
  (Steps.sound tagTypes unambiguous (steps_of_exportHeader run) .start).1

end Job

namespace CallbackCycle

end CallbackCycle

end HeaderBindings
