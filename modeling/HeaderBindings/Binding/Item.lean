import HeaderBindings.Binding.LibraryClass
import HeaderBindings.Header.CType

/-!
# Items of the generated text

What the generated text consists of at its top level. An item keeps its names and types as data;
only `Item.chunks` turns it into text.
-/

namespace HeaderBindings

structure Field where
  comment : Option String
  /-- The scalar whose native form marks the field. -/
  mark : Option Scalar
  /-- Its type; absent if no field can have it. -/
  type : Option DartType
  name : String
  deriving Repr

namespace Field

/-- The mark for a scalar field; empty for other fields. -/
def markText (mark : Option Scalar) : String :=
  match mark with
  | some s => "@" ++ s.nativeName ++ "()"
  | none => ""

/-- The line for a field: its mark, type and name, as far as they are not empty. -/
def line (field : Field) : String :=
  let typeText := match field.type with
    | some type => type.text
    | none => ""
  " ".intercalate ([markText field.mark, typeText, field.name].filter (· ≠ "")) ++ ";"

def chunks (field : Field) : List Chunk :=
  LibraryClass.commentChunks field.comment ++ [.line field.line]

end Field

structure Constant where
  name : String
  value : Int
  deriving Repr

def Constant.line (constant : Constant) : String :=
  "static const " ++ constant.name ++ " = " ++ toString constant.value ++ ";"

inductive Item where
  | ffiImport
  | blank
  /-- The class of an enumeration, for the declaration it comes from. -/
  | enumClass (decl : DeclId) (name : String) (comment : Option String)
      (constants : List Constant)
  | structClass (decl : DeclId) (name : String) (comment : Option String) (fields : List Field)
  | alias (name target : String) (comment : Option String)
  /-- The native and the logical type of a callback. -/
  | callback (name : String) (binding : Binding)
  | library (cls : LibraryClass)
  deriving Repr

namespace Item

open LibraryClass (commentChunks)

def chunks : Item → List Chunk
  | .ffiImport => [.line "import 'dart:ffi';"]
  | .blank => [.line ""]
  | .enumClass _ name comment constants =>
      commentChunks comment ++
        [.block ("class " ++ name) (constants.map fun constant => .line constant.line)]
  | .structClass _ name comment fields =>
      commentChunks comment ++
        [.block ("class " ++ name ++ " extends Struct") (fields.flatMap (·.chunks))]
  | .alias name target comment =>
      commentChunks comment ++ [.line ("typedef " ++ name ++ " = " ++ target ++ ";")]
  | .callback name binding =>
      commentChunks binding.properComment? ++
        [.line ("typedef " ++ name ++ "Native = " ++ binding.native.text ++ ";"),
         .line ("typedef " ++ name ++ " = " ++ binding.logical.text ++ ";")]
  | .library cls => cls.chunks

def render (items : List Item) : String :=
  Chunk.render 0 (items.flatMap chunks)

end Item

end HeaderBindings
