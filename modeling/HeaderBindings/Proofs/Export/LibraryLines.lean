import HeaderBindings.Proofs.Export.MemberNames

/-!
# The lines of the library class

The library class goes through its callbacks twice, for their fields and for the parameters of the
constructor, and through its functions twice, for their fields and for the initializers. The lines
of the class stay aligned whatever comments stand between them, so every field is set once, by the
parameter or the initializer in its place.
-/

namespace HeaderBindings

namespace LibraryClass

open Chunk

def callbackFieldLine (entry : String × Binding) : Chunk :=
  .line ("final Pointer<NativeFunction<" ++ entry.2.native.text ++ ">> _" ++ entry.1 ++ ";")

def callFieldLine (entry : String × Binding) : Chunk :=
  .line ("final " ++ entry.2.logical.text ++ " _" ++ entry.1 ++ ";")

/-- The lines of a constructor after its parameters. -/
def initializerLines (calls : List (String × Binding)) : List Chunk :=
  .line ")" :: (initializers calls ++ [.line "\x7b\x7d"])

/-- The lines of a constructor: a parameter for each callback and an initializer for each
    function. -/
def constructorLines (name : String) (callbacks calls : List (String × Binding)) : List Chunk :=
  .line (name ++ "(") :: .line "    DynamicLibrary dylib" ::
    (callbacks.map (fun entry => callbackParameter entry.1) ++ initializerLines calls)

/-- The lines of a library class: a field for each callback and for each function, and the
    constructor. -/
def lines (name : String) (callbacks calls : List (String × Binding)) : List Chunk :=
  callbacks.map callbackFieldLine ++
    (calls.map callFieldLine ++ constructorLines name callbacks calls)

variable {name : String} {callbacks calls : List (String × Binding)}

theorem filter_isLine_callbackField (entry : String × Binding) :
    (callbackField entry.1 entry.2).filter isLine = [callbackFieldLine entry] := by
  rw [callbackField, List.filter_append, filter_isLine_commentChunks]
  rfl

theorem filter_isLine_callField (entry : String × Binding) :
    (callField entry.1 entry.2).filter isLine = [callFieldLine entry] := by
  rw [callField, List.filter_append, filter_isLine_commentChunks]
  rfl

/-- Without the comments, a field that is one line under its comment is that line. -/
theorem filter_isLine_flatMap {field : String × Binding → List Chunk}
    {line : String × Binding → Chunk} (one : ∀ entry, (field entry).filter isLine = [line entry])
    (entries : List (String × Binding)) :
    (entries.flatMap field).filter isLine = entries.map line := by
  induction entries with
  | nil => rfl
  | cons entry rest ih =>
    rw [List.flatMap_cons, List.filter_append, one, ih, List.map_cons, List.singleton_append]

theorem isLine_of_mem_initializers {chunk : Chunk} (inside : chunk ∈ initializers calls) :
    chunk.isLine = true := by
  rw [initializers_eq_mapIdx] at inside
  obtain ⟨place, bound, rfl⟩ := List.mem_mapIdx.mp inside
  rfl

theorem body_of_entries (library : LibraryClass) :
    library.body =
      .comment "Callbacks" ::
        (library.callbacks.flatMap fun entry => callbackField entry.1 entry.2) ++
      .comment "Functions" :: (library.calls.flatMap fun entry => callField entry.1 entry.2) ++
      [.comment "Constructor", .line (library.name ++ "("), .line "    DynamicLibrary dylib"] ++
        (library.callbacks.map fun entry => callbackParameter entry.1) ++
      [.line ")", .comment "Init functions"] ++
        initializers library.calls ++
      [.line "\x7b\x7d"] := rfl

theorem filter_isLine_body (library : LibraryClass) :
    library.body.filter isLine = lines library.name library.callbacks library.calls := by
  have parameters :
      (library.callbacks.map fun entry => callbackParameter entry.1).filter isLine =
        library.callbacks.map fun entry => callbackParameter entry.1 :=
    List.filter_eq_self.mpr fun chunk inside => by
      obtain ⟨entry, -, rfl⟩ := List.mem_map.mp inside
      rfl
  have initialized : (initializers library.calls).filter isLine = initializers library.calls :=
    List.filter_eq_self.mpr fun _ => isLine_of_mem_initializers
  have callbackFields := filter_isLine_flatMap filter_isLine_callbackField library.callbacks
  have callFields := filter_isLine_flatMap filter_isLine_callField library.calls
  rw [body_of_entries]
  simp only [lines, constructorLines, initializerLines, List.filter_append, List.filter_cons,
    List.filter_nil, isLine, List.cons_append, List.nil_append, List.append_assoc, parameters,
    initialized, callbackFields, callFields, if_true, Bool.false_eq_true, if_false]

def IsLineOrComment (chunk : Chunk) : Prop :=
  chunk.isLine = true ∨ ∃ text, chunk = .comment text

theorem isLineOrComment_commentChunks {comment : Option String} :
    ∀ chunk ∈ commentChunks comment, IsLineOrComment chunk := by
  intro chunk inside
  obtain ⟨source, -, rfl⟩ := List.mem_map.mp inside
  exact .inr ⟨_, rfl⟩

theorem isLineOrComment_body (library : LibraryClass) :
    ∀ chunk ∈ library.body, IsLineOrComment chunk := by
  have comment : ∀ text, IsLineOrComment (.comment text) := fun text => .inr ⟨text, rfl⟩
  have line : ∀ text, IsLineOrComment (.line text) := fun _ => .inl rfl
  have callbackFields : ∀ chunk ∈ library.callbacks.flatMap fun entry =>
      callbackField entry.1 entry.2, IsLineOrComment chunk :=
    List.forall_mem_flatMap.mpr fun entry _ => List.forall_mem_append.mpr
      ⟨isLineOrComment_commentChunks, List.forall_mem_singleton.mpr (line _)⟩
  have callFields : ∀ chunk ∈ library.calls.flatMap fun entry =>
      callField entry.1 entry.2, IsLineOrComment chunk :=
    List.forall_mem_flatMap.mpr fun entry _ => List.forall_mem_append.mpr
      ⟨isLineOrComment_commentChunks, List.forall_mem_singleton.mpr (line _)⟩
  have parameters : ∀ chunk ∈ library.callbacks.map fun entry => callbackParameter entry.1,
      IsLineOrComment chunk :=
    List.forall_mem_map.mpr fun _ _ => line _
  have initialized : ∀ chunk ∈ initializers library.calls, IsLineOrComment chunk :=
    fun _ inside => .inl (isLine_of_mem_initializers inside)
  rw [body_of_entries]
  simp only [List.cons_append, List.forall_mem_append, List.forall_mem_cons]
  have empty := List.forall_mem_nil IsLineOrComment
  exact ⟨comment _, ⟨⟨⟨⟨⟨callbackFields, comment _, callFields⟩, comment _, line _, line _, empty⟩,
    parameters⟩, line _, comment _, empty⟩, initialized⟩, line _, empty⟩

/-- The chunks of a library class set each of its fields once. Its lines, in order, are the field of
    each callback, the field of each function, the head of the constructor, the parameter for each
    callback, and the initializer for each function; the rest are comments. -/
structure SetsFields (name : String) (callbacks calls : List (String × Binding))
    (chunks : List Chunk) : Prop where
  members : ∀ chunk ∈ chunks, IsLineOrComment chunk
  count : (chunks.filter isLine).length = 2 * callbacks.length + 2 * calls.length + 4
  callbackField : ∀ {i : Nat} {callback : String} {binding : Binding},
    callbacks[i]? = some (callback, binding) → (chunks.filter isLine)[i]? = some
      (.line ("final Pointer<NativeFunction<" ++ binding.native.text ++ ">> _" ++ callback ++ ";"))
  callField : ∀ {j : Nat} {function : String} {binding : Binding},
    calls[j]? = some (function, binding) → (chunks.filter isLine)[callbacks.length + j]? = some
      (.line ("final " ++ binding.logical.text ++ " _" ++ function ++ ";"))
  head : (chunks.filter isLine)[callbacks.length + calls.length]? = some (.line (name ++ "(")) ∧
    (chunks.filter isLine)[callbacks.length + calls.length + 1]? =
      some (.line "    DynamicLibrary dylib")
  parameter : ∀ {i : Nat} {callback : String} {binding : Binding},
    callbacks[i]? = some (callback, binding) →
      (chunks.filter isLine)[callbacks.length + calls.length + 2 + i]? =
        some (.line ("  , this._" ++ callback))
  closing : (chunks.filter isLine)[2 * callbacks.length + calls.length + 2]? = some (.line ")")
  initializer : ∀ {j : Nat} {function : String} {binding : Binding},
    calls[j]? = some (function, binding) →
      (chunks.filter isLine)[2 * callbacks.length + calls.length + 3 + j]? = some
        (.line ((if j = 0 then ":" else ",") ++ " _" ++ function ++
          " = dylib.lookup<NativeFunction<" ++ binding.native.text ++ ">>('" ++
          binding.name.getD "None" ++ "').asFunction()"))
  last : (chunks.filter isLine)[2 * callbacks.length + 2 * calls.length + 3]? =
    some (.line "\x7b\x7d")

theorem getElem?_after {front rest : List Chunk} {size : Nat} (place : Nat)
    (length : front.length = size) : (front ++ rest)[size + place]? = rest[place]? := by
  rw [List.getElem?_append_right (by omega), length, Nat.add_sub_cancel_left]

theorem getElem?_before {front rest : List Chunk} {place : Nat} {chunk : Chunk}
    (inFront : front[place]? = some chunk) : (front ++ rest)[place]? = some chunk := by
  rw [List.getElem?_append_left (List.getElem?_eq_some_iff.mp inFront).1, inFront]

theorem getElem?_constructorLines (place : Nat) :
    (lines name callbacks calls)[callbacks.length + calls.length + place]? =
      (constructorLines name callbacks calls)[place]? := by
  rw [lines, Nat.add_assoc, getElem?_after _ (List.length_map _),
    getElem?_after _ (List.length_map _)]

theorem getElem?_initializerLines (place : Nat) :
    (lines name callbacks calls)[2 * callbacks.length + calls.length + 2 + place]? =
      (initializerLines calls)[place]? := by
  have offset : 2 * callbacks.length + calls.length + 2 + place =
      callbacks.length + calls.length + (callbacks.length + place + 1 + 1) := by
    omega
  rw [offset, getElem?_constructorLines, constructorLines, List.getElem?_cons_succ,
    List.getElem?_cons_succ, getElem?_after _ (List.length_map _)]

theorem getElem?_initializers {place : Nat} {function : String} {binding : Binding}
    (isCall : calls[place]? = some (function, binding)) :
    (initializers calls)[place]? =
      some (initializer (if place = 0 then ":" else ",") function binding) := by
  rw [initializers_eq_mapIdx, List.getElem?_mapIdx, isCall, Option.map_some]

theorem length_initializers (calls : List (String × Binding)) :
    (initializers calls).length = calls.length := by
  rw [initializers_eq_mapIdx, List.length_mapIdx]

theorem setsFields_body (library : LibraryClass) :
    SetsFields library.name library.callbacks library.calls library.body := by
  constructor
  case members => exact isLineOrComment_body library
  all_goals rw [filter_isLine_body]
  case count =>
    simp only [lines, constructorLines, initializerLines, List.length_append, List.length_cons,
      List.length_map, List.length_nil, length_initializers]
    omega
  case callbackField =>
    intro i callback binding isCallback
    refine getElem?_before ?_
    rw [List.getElem?_map, isCallback]
    rfl
  case callField =>
    intro j function binding isCall
    rw [lines, getElem?_after j (List.length_map _)]
    refine getElem?_before ?_
    rw [List.getElem?_map, isCall]
    rfl
  case head => exact ⟨getElem?_constructorLines 0, getElem?_constructorLines 1⟩
  case parameter =>
    intro i callback binding isCallback
    have offset : library.callbacks.length + library.calls.length + 2 + i =
        library.callbacks.length + library.calls.length + (i + 1 + 1) := by
      omega
    rw [offset, getElem?_constructorLines]
    refine getElem?_before ?_
    rw [List.getElem?_map, isCallback]
    rfl
  case closing => exact getElem?_initializerLines 0
  case initializer =>
    intro j function binding isCall
    have offset : 2 * library.callbacks.length + library.calls.length + 3 + j =
        2 * library.callbacks.length + library.calls.length + 2 + (j + 1) := by
      omega
    rw [offset, getElem?_initializerLines]
    exact getElem?_before (getElem?_initializers isCall)
  case last =>
    have offset : 2 * library.callbacks.length + 2 * library.calls.length + 3 =
        2 * library.callbacks.length + library.calls.length + 2 +
          (library.calls.length + 0 + 1) := by
      omega
    rw [offset, getElem?_initializerLines, initializerLines, List.getElem?_cons_succ]
    exact getElem?_after 0 (length_initializers _)

end LibraryClass

/-- Whatever callbacks and functions were collected, closing the text succeeds and adds nothing but
    the library class, which sets each of its fields once: a callback by the parameter in its place,
    and a function by the initializer in its place, from the same binding as its field. -/
theorem Job.addLibraryClass_sets_fields (className : String) (s : Progress) :
    ∃ item chunks, (addLibraryClass className).Succeeds s () { s with items := s.items ++ [item] } ∧
      item.chunks = [.comment "Library class", .block ("class " ++ className) chunks] ∧
      LibraryClass.SetsFields className s.callbacks s.calls chunks := by
  refine ⟨.library ⟨className, s.callbacks, s.calls⟩, _, ?_, rfl,
    LibraryClass.setsFields_body ⟨className, s.callbacks, s.calls⟩⟩
  simp only [addLibraryClass, Exporter.succeeds_bind, Exporter.succeeds_get,
    Exporter.emit_succeeds]
  exact ⟨s, s, ⟨rfl, rfl⟩, rfl⟩

end HeaderBindings
