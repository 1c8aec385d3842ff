import HeaderBindings.Binding.Signature
import HeaderBindings.Chunk

/-!
# The library class

The class that stands for the library: a field for each callback, which the user provides, and a
field for each function, which is looked up in the library by its name in C.
-/

namespace HeaderBindings

/-- The class for a library, with its callbacks and functions under their names in the class. -/
structure LibraryClass where
  name : String
  callbacks : List (String × Binding)
  calls : List (String × Binding)
  deriving Repr

namespace LibraryClass

def commentChunks (comment : Option String) : List Chunk :=
  comment.toList.map .ofComment

def callbackField (name : String) (binding : Binding) : List Chunk :=
  commentChunks binding.properComment? ++
    [.line ("final Pointer<NativeFunction<" ++ binding.native.text ++ ">> _" ++ name ++ ";")]

def callField (name : String) (binding : Binding) : List Chunk :=
  commentChunks binding.properComment? ++
    [.line ("final " ++ binding.logical.text ++ " _" ++ name ++ ";")]

/-- The parameter of the constructor that sets a callback. -/
def callbackParameter (name : String) : Chunk :=
  .line ("  , this._" ++ name)

def initializer (separator name : String) (binding : Binding) : Chunk :=
  .line (separator ++ " _" ++ name ++ " = dylib.lookup<NativeFunction<" ++ binding.native.text ++
    ">>('" ++ binding.name.getD "None" ++ "').asFunction()")

/-- The initializers of the functions' fields: a colon before the first and a comma before every
    other. -/
def initializers : List (String × Binding) → List Chunk
  | [] => []
  | (name, binding) :: rest =>
      initializer ":" name binding ::
        rest.map fun (name, binding) => initializer "," name binding

def body (library : LibraryClass) : List Chunk :=
  .comment "Callbacks" ::
    (library.callbacks.flatMap fun (name, binding) => callbackField name binding) ++
  .comment "Functions" ::
    (library.calls.flatMap fun (name, binding) => callField name binding) ++
  [.comment "Constructor", .line (library.name ++ "("), .line "    DynamicLibrary dylib"] ++
    (library.callbacks.map fun (name, _) => callbackParameter name) ++
  [.line ")", .comment "Init functions"] ++
    initializers library.calls ++
  [.line "\x7b\x7d"]

def chunks (library : LibraryClass) : List Chunk :=
  [.comment "Library class", .block ("class " ++ library.name) library.body]

end LibraryClass

end HeaderBindings
