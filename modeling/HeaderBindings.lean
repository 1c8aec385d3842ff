import HeaderBindings.Main
import HeaderBindings.Proofs.Chunk.Indentation
import HeaderBindings.Proofs.CommandLine.Aborts
import HeaderBindings.Proofs.Comment.Contents
import HeaderBindings.Proofs.Comment.Markers
import HeaderBindings.Proofs.Cursor.Contract
import HeaderBindings.Proofs.Cursor.Redeclarations
import HeaderBindings.Proofs.Cursor.Unfolding
import HeaderBindings.Proofs.Export.BoundSignatures
import HeaderBindings.Proofs.Export.CallbackFields
import HeaderBindings.Proofs.Export.Constants
import HeaderBindings.Proofs.Export.DeclaredNames
import HeaderBindings.Proofs.Export.DefinitionOrder
import HeaderBindings.Proofs.Export.Discipline
import HeaderBindings.Proofs.Export.Items
import HeaderBindings.Proofs.Export.LibraryLines
import HeaderBindings.Proofs.Export.Malformed
import HeaderBindings.Proofs.Export.MemberNames
import HeaderBindings.Proofs.Export.NameMap
import HeaderBindings.Proofs.Export.Namesakes
import HeaderBindings.Proofs.Export.RecordClasses
import HeaderBindings.Proofs.Export.Registry
import HeaderBindings.Proofs.Export.StableResolution
import HeaderBindings.Proofs.Export.StructClasses
import HeaderBindings.Proofs.Resolution.NativeForms
import HeaderBindings.Proofs.SearchList.Reports
import HeaderBindings.Proofs.Template.CheckedTemplates
