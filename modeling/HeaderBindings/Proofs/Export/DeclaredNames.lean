import HeaderBindings.Proofs.Export.Callbacks
import HeaderBindings.Proofs.Pattern.WholeMatch

/-!
# The names that the text declares

Classes, other names for them, callbacks and the class of the library declare names at the top level
of the text. The names of exported types are as distinct as the renaming makes them. Two names are
not made by the renaming: that of the class of the library, and the name of the native form of a
callback.
-/

namespace HeaderBindings

namespace Chunk

/-- Whether a chunk at the top level of the text declares a name. Any other chunk is a comment, the
    line of the import or a blank line. -/
def isDeclaration : Chunk → Bool
  | .comment _ => false
  | .line text => text ≠ "" && text ≠ "import 'dart:ffi';"
  | .block _ _ => true

/-- A chunk at the top level of the text declares a name. -/
inductive Declares : Chunk → String → Prop where
  | cls (name : String) (body : List Chunk) : Declares (.block ("class " ++ name) body) name
  | structClass (name : String) (body : List Chunk) :
      Declares (.block ("class " ++ name ++ " extends Struct") body) name
  | type (name definition : String) :
      Declares (.line ("typedef " ++ name ++ " = " ++ definition ++ ";")) name

theorem isDeclaration_type (name definition : String) :
    isDeclaration (.line ("typedef " ++ name ++ " = " ++ definition ++ ";")) = true := by
  have other : ∀ text : String, text.toList.head? ≠ some 't' →
      "typedef " ++ name ++ " = " ++ definition ++ ";" ≠ text := by
    intro text differs same
    exact differs (by simp [← same])
  simp [isDeclaration, other "" (by decide), other "import 'dart:ffi';" (by decide)]

end Chunk

namespace Item

/-- The names that an item declares. -/
def declaredNames : Item → List String
  | .ffiImport | .blank => []
  | .enumClass _ name _ _ => [name]
  | .structClass _ name _ _ => [name]
  | .alias name _ _ => [name]
  | .callback name _ => [name ++ "Native", name]
  | .library cls => [cls.name]

/-- The name of a callback, without that of its native form. -/
def callbackName? : Item → Option String
  | .callback name _ => some name
  | _ => none

theorem isDeclaration_commentChunks (comment : Option String) :
    (LibraryClass.commentChunks comment).filter Chunk.isDeclaration = [] := by
  cases comment <;> rfl

/-- The declarations among the chunks of an item are those of its names. -/
theorem declares (item : Item) :
    List.Forall₂ Chunk.Declares (item.chunks.filter Chunk.isDeclaration) item.declaredNames := by
  cases item with
  | ffiImport | blank => exact .nil
  | enumClass id name comment constants =>
    rw [chunks, List.filter_append, isDeclaration_commentChunks]
    exact .cons (.cls name _) .nil
  | structClass id name comment fields =>
    rw [chunks, List.filter_append, isDeclaration_commentChunks]
    exact .cons (.structClass name _) .nil
  | «alias» name target comment =>
    rw [chunks, List.filter_append, isDeclaration_commentChunks, List.filter_cons,
      if_pos (Chunk.isDeclaration_type name target)]
    exact .cons (.type name target) .nil
  | callback name binding =>
    have native : "typedef " ++ name ++ "Native = " ++ binding.native.text ++ ";" =
        "typedef " ++ (name ++ "Native") ++ " = " ++ binding.native.text ++ ";" := by
      rw [show "Native = " = "Native" ++ " = " from rfl]
      simp only [String.append_assoc]
    rw [chunks, native, List.filter_append, isDeclaration_commentChunks, List.filter_cons,
      List.filter_cons, if_pos (Chunk.isDeclaration_type _ _),
      if_pos (Chunk.isDeclaration_type _ _)]
    exact .cons (.type (name ++ "Native") _) (.cons (.type name _) .nil)
  | library cls => exact .cons (.cls cls.name _) .nil

theorem declares_flatMap (items : List Item) :
    List.Forall₂ Chunk.Declares ((items.flatMap chunks).filter Chunk.isDeclaration)
      (items.flatMap declaredNames) := by
  induction items with
  | nil => exact .nil
  | cons item rest ih =>
    rw [List.flatMap_cons, List.flatMap_cons, List.filter_append]
    exact List.rel_append item.declares ih

/-- The names that items of types declare are those of the types, and the native names of
    callbacks. -/
theorem declaredNames_perm {items : List Item}
    (areTypes : ∀ item ∈ items, item.typeName?.isSome = true) :
    (items.flatMap declaredNames).Perm
      (items.filterMap typeName? ++ (items.filterMap callbackName?).map (· ++ "Native")) := by
  induction items with
  | nil => exact .nil
  | cons item rest ih =>
    obtain ⟨isType, areTypesRest⟩ := List.forall_mem_cons.mp areTypes
    have perm := ih areTypesRest
    cases item with
    | ffiImport | blank | library => cases isType
    | enumClass id name | structClass id name | «alias» name => exact perm.cons name
    | callback name binding =>
      have moves := ((perm.cons name).cons (name ++ "Native"))
      exact moves.trans (@List.perm_middle _ _ (name :: rest.filterMap typeName?) _).symm

theorem callbackNames_sublist (items : List Item) :
    (items.filterMap callbackName?).Sublist (items.filterMap typeName?) := by
  induction items with
  | nil => exact .slnil
  | cons item rest ih =>
    cases item with
    | ffiImport | blank | library => exact ih
    | enumClass id name | structClass id name | «alias» name => exact ih.cons name
    | callback name binding => exact ih.cons_cons name

end Item

namespace Job

variable {job : Job} {s s₁ s' : Progress}

/-- A renaming gives different names to the names of a list. -/
def RenamesApart (job : Job) (names : List String) : Prop :=
  ∀ name ∈ names, ∀ other ∈ names, job.names.apply name = job.names.apply other → name = other

/-- The types of declarations with different names have different names. -/
theorem nodup_typeNames_of_distinct {names : List String} (apart : job.RenamesApart names)
    {ids : List DeclId} {items : List Item} (areTypes : List.Forall₂ job.IsTypeOf ids items)
    (named : ∀ id ∈ ids, ∀ name, (job.header.decl id).properName? = some name → name ∈ names)
    (distinct : ids.Pairwise fun id other =>
      (job.header.decl id).properName? ≠ (job.header.decl other).properName?) :
    (items.filterMap Item.typeName?).Nodup := by
  induction areTypes with
  | nil => exact List.nodup_nil
  | @cons id item ids items isType others ih =>
    obtain ⟨differs, distinctRest⟩ := List.pairwise_cons.mp distinct
    obtain ⟨own, namedRest⟩ := List.forall_mem_cons.mp named
    obtain ⟨newName, isName, name, isNamed, renamed⟩ := isType
    rw [List.filterMap_cons_some isName]
    refine List.nodup_cons.mpr ⟨fun inside => ?_, ih namedRest distinctRest⟩
    obtain ⟨other, isOther, sameNewName⟩ := List.mem_filterMap.mp inside
    obtain ⟨otherId, isMember, newName', isName', otherName, isNamed', renamed'⟩ :=
      exists_of_forall₂_of_mem others isOther
    obtain rfl : newName = newName' := Option.some.inj (sameNewName.symm.trans isName')
    have same : name = otherName :=
      apart name (own name isNamed) otherName (namedRest otherId isMember otherName isNamed')
        (renamed.trans renamed'.symm)
    exact differs otherId isMember (by rw [isNamed, isNamed', same])

/-- The types that newly admitted declarations leave have different names. -/
theorem Leaves.nodup_typeNames {admitted : List DeclId} {items : List Item}
    (leaves : job.Leaves admitted items) (isNew : job.AdmitsNew s s' admitted)
    (apart : job.RenamesApart s'.exported) : (items.filterMap Item.typeName?).Nodup := by
  refine nodup_typeNames_of_distinct apart leaves.types (fun id inside name named => ?_)
    (isNew.distinct.sublist List.filter_sublist)
  obtain ⟨own, isNamed, -, marked⟩ := isNew.isNew id (List.mem_of_mem_filter inside)
  cases named.symm.trans isNamed
  exact marked

/-- When the renaming keeps the exported names apart, the names that the text of a successful run
    declares at its top level are distinct, unless the class of the library has the name of a type,
    or the name of the native form of a callback is that of a type or of the class of the library. -/
theorem declaredNames_nodup_iff {root : DeclId} {className : String}
    (run : (job.exportHeader className root).Succeeds {} () s)
    (apart : job.RenamesApart s.exported) :
    List.Forall₂ Chunk.Declares ((s.items.flatMap Item.chunks).filter Chunk.isDeclaration)
        (s.items.flatMap Item.declaredNames) ∧
      ((s.items.flatMap Item.declaredNames).Nodup ↔
        className ∉ s.items.filterMap Item.typeName? ∧
          ∀ name ∈ s.items.filterMap Item.callbackName?, name ++ "Native" ≠ className ∧
            name ++ "Native" ∉ s.items.filterMap Item.typeName?) := by
  refine ⟨Item.declares_flatMap s.items, ?_⟩
  obtain ⟨s₁, admitted, takes, rfl⟩ := takes_of_exportHeader run
  obtain ⟨items, _, _, grows, -, -, -, leaves⟩ := takes.leaves
  have types : (items.filterMap Item.typeName?).Nodup :=
    leaves.nodup_typeNames takes.isNew.1 apart
  have natives : ((items.filterMap Item.callbackName?).map (· ++ "Native")).Nodup :=
    (types.sublist (Item.callbackNames_sublist items)).map
      fun name other same => (String.append_left_inj _).mp same
  have areNamed : ∀ item ∈ items, item.typeName?.isSome = true := by
    intro item inside
    obtain ⟨id, -, newName, isName, -⟩ := exists_of_forall₂_of_mem leaves.types inside
    rw [isName, Option.isSome_some]
  have declared : (s₁.emitted (.library ⟨className, s₁.callbacks, s₁.calls⟩)).items.flatMap
      Item.declaredNames = items.flatMap Item.declaredNames ++ [className] := by
    simp [grows, opened, Item.declaredNames]
  rw [declared, filterMap_emitted grows rfl rfl rfl, filterMap_emitted grows rfl rfl rfl,
    ((Item.declaredNames_perm areNamed).append_right [className]).nodup_iff]
  simp only [List.nodup_append, types, natives, List.nodup_singleton, List.mem_append, List.mem_map,
    List.mem_singleton, true_and]
  constructor
  · rintro ⟨apartFromNatives, apartFromClass⟩
    refine ⟨fun inside => apartFromClass className (.inl inside) className rfl rfl,
      fun name isCallback => ⟨?_, ?_⟩⟩
    · exact apartFromClass _ (.inr ⟨name, isCallback, rfl⟩) className rfl
    · exact fun inside => apartFromNatives _ inside _ ⟨name, isCallback, rfl⟩ rfl
  · rintro ⟨classApart, nativesApart⟩
    refine ⟨?_, ?_⟩
    · rintro name isType _ ⟨callback, isCallback, rfl⟩ rfl
      exact (nativesApart callback isCallback).2 isType
    · rintro name (isType | ⟨callback, isCallback, rfl⟩) _ rfl
      · exact fun same => classApart (same ▸ isType)
      · exact (nativesApart callback isCallback).1

end Job

namespace NestedCallbacks

theorem apart : job.RenamesApart exported.exported := by
  have names : exported.exported = ["Cb", "Inner", "S"] := by cbv
  have newNames : ["Cb", "Inner", "S"].map job.names.apply =
      [.ok "X_Cb", .ok "X_Inner", .ok "X_S"] := by cbv
  have distinct : (["Cb", "Inner", "S"].map job.names.apply).Nodup := by
    rw [newNames]
    simp
  rw [names]
  exact fun name inside other isOther same =>
    List.inj_on_of_nodup_map distinct inside isOther same

/-- The text declares its names once each. -/
theorem declaredNames_nodup : (exported.items.flatMap Item.declaredNames).Nodup := by
  have types : exported.items.filterMap Item.typeName? = ["X_Inner", "X_S", "X_Cb"] := by cbv
  have callbacks : exported.items.filterMap Item.callbackName? = ["X_Inner", "X_Cb"] := by cbv
  rw [(Job.declaredNames_nodup_iff run apart).2, types, callbacks]
  decide

end NestedCallbacks

/-!
The type definition of a callback, a structure with the name of the native form of that callback, and
a structure with the name of the class of the library.
-/

namespace RepeatedNames

def void : CType := { kind := .scalar .void, spelling := "void" }

def prototype : CType := { kind := .function, spelling := "void (void)", result := some void }

def pointer : CType := { kind := .pointer, spelling := "void (*)(void)", pointee := some prototype }

/-- `typedef void (*Cb)(void); struct CbNative {}; struct Lib {};` -/
def header : Header :=
  ⟨#[{ kind := .unit, children := [1, 2, 3] },
    { kind := .typedef, name := some "Cb", underlying := some pointer },
    { kind := .struct, name := some "CbNative" },
    { kind := .struct, name := some "Lib" }]⟩

def job : Job :=
  ⟨header, .whole ⟨"", .empty, 0, [], {}⟩⟩

def exported : Progress :=
  ((job.exportHeader "Lib" 0).outcome {}).2

theorem outcome : ((job.exportHeader "Lib" 0).outcome {}).1 = .ok () ∧
    exported.items.flatMap Item.declaredNames = ["CbNative", "Cb", "CbNative", "Lib", "Lib"] := by
  constructor <;> cbv

theorem run : (job.exportHeader "Lib" 0).Succeeds {} () exported :=
  .of_fst outcome.1

theorem reaches_among {node : Node} (reaches : job.header.Reaches 0 node) :
    node.Among [0, 1, 2, 3] [void, prototype, pointer] := by
  have declLinks : [0, 1, 2, 3].map (fun id => job.header.links (.decl id)) =
      [[.decl 1, .decl 2, .decl 3], [.type pointer], [], []] := rfl
  have typeLinks : [void, prototype, pointer].map (fun type => job.header.links (.type type)) =
      [[], [.type void], [.type prototype]] := rfl
  exact reaches.among_of_links declLinks typeLinks (by decide) (by simp [Node.Among])

theorem unambiguous : job.header.Unambiguous 0 :=
  .of_distinct (fun _ reaches => reaches_among reaches) (by decide)

theorem apart : job.RenamesApart exported.exported := by
  intro name _ other _ same
  rw [job, Renaming.apply_whole, Renaming.apply_whole] at same
  exact Except.ok.inj same

/-- No two types have the same name, and the renaming keeps all names apart; still the name of the
    native form of the callback and the name of the class of the library are declared twice. -/
theorem declaredNames_repeated : job.header.Unambiguous 0 ∧ job.RenamesApart exported.exported ∧
    (job.exportHeader "Lib" 0).Succeeds {} () exported ∧
    exported.items.flatMap Item.declaredNames = ["CbNative", "Cb", "CbNative", "Lib", "Lib"] ∧
    ¬ (exported.items.flatMap Item.declaredNames).Nodup := by
  refine ⟨unambiguous, apart, run, outcome.2, ?_⟩
  rw [outcome.2]
  decide

end RepeatedNames

end HeaderBindings
