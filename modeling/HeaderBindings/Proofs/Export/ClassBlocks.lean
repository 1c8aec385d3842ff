import HeaderBindings.Proofs.Export.Marking

/-!
# The class blocks of the text

A class is recorded when its export begins and written when everything that its fields mention was
exported, with other classes begun and written in between. Still every recorded class is written
once, as one block, which leaves out no constant and no field of the declaration.
-/

namespace HeaderBindings

namespace Table

variable {κ ν : Type} [DecidableEq κ] {table : Table κ ν} {key : κ}

theorem entries_set_of_none (fresh : table.find? key = none) (value : ν) :
    (table.set key value).entries = table.entries ++ [(key, value)] := by
  obtain ⟨entries⟩ := table
  change setEntry key value entries = entries ++ [(key, value)]
  replace fresh : findEntry? key entries = none := fresh
  induction entries with
  | nil => rfl
  | cons entry rest ih =>
    obtain ⟨k, v⟩ := entry
    by_cases same : k = key
    · simp [same, findEntry?] at fresh
    · rw [ findEntry?, if_neg same] at fresh
      rw [setEntry, if_neg same, ih fresh, List.cons_append]

theorem not_mem_keys_of_none (fresh : table.find? key = none) :
    key ∉ table.entries.map (·.1) := by
  obtain ⟨entries⟩ := table
  change key ∉ entries.map (·.1)
  replace fresh : findEntry? key entries = none := fresh
  induction entries with
  | nil => exact List.not_mem_nil
  | cons entry rest ih =>
    obtain ⟨k, v⟩ := entry
    by_cases same : k = key
    · simp [same, findEntry?] at fresh
    · rw [ findEntry?, if_neg same] at fresh
      rw [List.map_cons, List.mem_cons, not_or]
      exact ⟨Ne.symm same, ih fresh⟩

end Table

/-- A class in the text: what it was declared by, its name and its block. -/
structure ClassBlock where
  decl : DeclId
  name : String
  chunk : Chunk

def Chunk.isBlock : Chunk → Bool
  | .block _ _ => true
  | _ => false

namespace Item

/-- The block of the class that an item writes. -/
def classBlock? : Item → Option ClassBlock
  | .enumClass id name _ constants =>
      some ⟨id, name, .block ("class " ++ name) (constants.map fun constant => .line constant.line)⟩
  | .structClass id name _ fields =>
      some ⟨id, name, .block ("class " ++ name ++ " extends Struct") (fields.flatMap (·.chunks))⟩
  | _ => none

theorem classOf?_eq (item : Item) :
    item.classOf? = item.classBlock?.map fun block => (block.decl, block.name) := by
  cases item <;> rfl

theorem isBlock_commentChunks (comment : Option String) :
    (LibraryClass.commentChunks comment).filter Chunk.isBlock = [] := by
  cases comment <;> rfl

/-- Only classes are blocks among the chunks of an item, and every class is one. -/
theorem filter_isBlock_chunks (item : Item) (noLibrary : ∀ cls, item ≠ .library cls) :
    item.chunks.filter Chunk.isBlock = item.classBlock?.toList.map (·.chunk) := by
  cases item with
  | library cls => exact absurd rfl (noLibrary cls)
  | _ => simp [chunks, isBlock_commentChunks, classBlock?, Chunk.isBlock]

end Item

namespace Job

variable (job : Job)

/-- The line for a constant of an enumeration. -/
def IsConstantLine (owner : String) (decl : Decl) (chunk : Chunk) : Prop :=
  ∃ name value, decl.properName? = some name ∧ decl.value = some value ∧
    chunk = .line ("static const " ++ MemberName.short name owner ++ " = " ++ toString value ++ ";")

/-- The text for a field of a structure: its comment, if it has one, and one line. -/
def IsFieldText (given : GivenNames) (decl : Decl) (chunks : List Chunk) : Prop :=
  ∃ field, job.BecomesField given decl field ∧
    chunks = decl.properComment?.toList.map .ofComment ++ [.line field.line]

/-- What a class is for: a structure (`record`) or an enumeration, by its own kind or by the type of
    a type definition of it. `owner` is the name that the constants of an enumeration lose. -/
inductive ClassedAs (id : DeclId) (newName : String) :
    (record : Bool) → (owner : String) → Prop where
  | own {record : Bool} {name : String}
      (kind : (job.header.decl id).kind = if record then .struct else .enum)
      (named : (job.header.decl id).properName? = some name)
      (renamed : job.names.apply name = .ok newName) : ClassedAs id newName record name
  | defined {record : Bool} {other : DeclId} {name : String} {underlying : CType}
      (kind : (job.header.decl other).kind = .typedef)
      (names : (job.header.decl other).underlying = some underlying)
      (tagged : tagTarget? underlying = some (record, id))
      (named : (job.header.decl other).properName? = some name)
      (renamed : job.names.apply name = .ok newName) :
      ClassedAs id newName record
        (if record then name else (job.header.decl id).properName?.getD name)

/-- A chunk is the class of a declaration: of an enumeration with all its constants, or of a
    structure with all its fields, in order. -/
inductive IsClassOf (id : DeclId) (name : String) : Chunk → Prop where
  | enum {owner : String} {lines : List Chunk} (isEnum : job.ClassedAs id name false owner)
      (constants : List.Forall₂ (IsConstantLine owner) (job.childrenOfKind .enumConstant id) lines) :
      IsClassOf id name (.block ("class " ++ name) lines)
  | struct {owner : String} {given : GivenNames} {texts : List (List Chunk)}
      (isStruct : job.ClassedAs id name true owner)
      (fields : List.Forall₂ (job.IsFieldText given) (job.childrenOfKind .field id) texts) :
      IsClassOf id name (.block ("class " ++ name ++ " extends Struct") texts.flatten)

/-- An item is no library class, and if it is a class then that of its declaration. -/
structure IsFaithful (item : Item) : Prop where
  noLibrary : ∀ cls, item ≠ .library cls
  isClass : ∀ block, item.classBlock? = some block → job.IsClassOf block.decl block.name block.chunk

/-- What is written from one progress to another: items, among them each newly recorded class
    once. -/
structure Writes (s s' : Progress) (items : List Item) : Prop where
  written : s'.items = s.items ++ items
  classes : ∃ entries, s'.classes.entries = s.classes.entries ++ entries ∧
    (items.filterMap Item.classOf?).Perm entries
  distinct : (s.classes.entries.map (·.1)).Nodup → (s'.classes.entries.map (·.1)).Nodup
  faithful : ∀ item ∈ items, job.IsFaithful item

variable {job} {s s₁ s₂ s' : Progress} {items others : List Item}

theorem Opens.classedAs {id : DeclId} {opening : Opening} (opens : job.Opens id s opening s₁) :
    job.ClassedAs opening.target opening.newName opening.record opening.owner := by
  cases opens with
  | tag named fresh renamed kind => exact .own kind named renamed
  | typedef named fresh renamed kind names tagged unnamed =>
    exact .defined kind names tagged named renamed

theorem IsFaithful.of_unclassed {item : Item} (noLibrary : ∀ cls, item ≠ .library cls)
    (unclassed : item.classBlock? = none) : job.IsFaithful item where
  noLibrary := noLibrary
  isClass block isBlock := by
    rw [unclassed] at isBlock
    cases isBlock

theorem constant_eq_ok {owner : String} {decl : Decl} {constant : Constant}
    (exported : Job.constant owner decl = .ok constant) :
    IsConstantLine owner decl (.line constant.line) := by
  unfold Job.constant at exported
  split at exported
  case h_1 name value named valued =>
    cases exported
    exact ⟨name, value, named, valued, rfl⟩
  case h_2 => cases exported

theorem constantLines_of_mapM {owner : String} {decls : List Decl} {constants : List Constant}
    (exported : decls.mapM (constant owner) = .ok constants) :
    List.Forall₂ (IsConstantLine owner) decls
      (constants.map fun constant => .line constant.line) := by
  induction decls generalizing constants with
  | nil =>
    cases exported
    exact .nil
  | cons decl rest ih =>
    rw [List.mapM_cons] at exported
    cases first : constant owner decl with
    | error failure =>
      rw [first] at exported
      cases exported
    | ok own =>
      cases later : rest.mapM (constant owner) with
      | error failure =>
        rw [first, later] at exported
        cases exported
      | ok others =>
        rw [first, later] at exported
        cases exported
        exact .cons (constant_eq_ok first) (ih later)

theorem fieldTexts_of_fields {given : GivenNames} {decls : List Decl} {fields : List Field}
    (become : List.Forall₂ (job.BecomesField given) decls fields) :
    List.Forall₂ (job.IsFieldText given) decls (fields.map (·.chunks)) := by
  rw [List.forall₂_map_right_iff]
  refine become.imp fun decl field isField => ⟨field, isField, ?_⟩
  obtain ⟨name, type, -, -, rfl⟩ := isField
  rfl

theorem IsFaithful.enumClass {id : DeclId} {owner newName : String} {comment : Option String}
    {constants : List Constant} (isEnum : job.ClassedAs id newName false owner)
    (exported : (job.childrenOfKind .enumConstant id).mapM (constant owner) = .ok constants) :
    job.IsFaithful (.enumClass id newName comment constants) where
  noLibrary cls := nofun
  isClass block isBlock := by
    cases isBlock
    exact .enum isEnum (constantLines_of_mapM exported)

theorem IsFaithful.structClass {id : DeclId} {owner newName : String} {comment : Option String}
    {given : GivenNames} {fields : List Field} (isStruct : job.ClassedAs id newName true owner)
    (exported : List.Forall₂ (job.BecomesField given) (job.childrenOfKind .field id) fields) :
    job.IsFaithful (.structClass id newName comment fields) where
  noLibrary cls := nofun
  isClass block isBlock := by
    cases isBlock
    rw [List.flatMap_def]
    exact .struct isStruct (fieldTexts_of_fields exported)

namespace Writes

theorem same (classes : s'.classes = s.classes) (items : s'.items = s.items) :
    job.Writes s s' [] where
  written := by rw [items, List.append_nil]
  classes := ⟨[], by rw [classes, List.append_nil], .nil⟩
  distinct := by
    rw [classes]
    exact id
  faithful := nofun

theorem trans (first : job.Writes s s₁ items) (second : job.Writes s₁ s₂ others) :
    job.Writes s s₂ (items ++ others) where
  written := by rw [second.written, first.written, List.append_assoc]
  classes := by
    obtain ⟨entries, grows, perm⟩ := first.classes
    obtain ⟨later, growsAgain, permAgain⟩ := second.classes
    refine ⟨entries ++ later, by rw [growsAgain, grows, List.append_assoc], ?_⟩
    rw [List.filterMap_append]
    exact perm.append permAgain
  distinct nodup := second.distinct (first.distinct nodup)
  faithful item inside := by
    rcases List.mem_append.mp inside with before | after
    · exact first.faithful item before
    · exact second.faithful item after

theorem before (writes : job.Writes s₁ s' items) (classes : s₁.classes = s.classes)
    (written : s₁.items = s.items) : job.Writes s s' items :=
  (same classes written).trans writes

/-- An item that is no class is written. -/
theorem single {item : Item} (classes : s'.classes = s.classes)
    (written : s'.items = s.items ++ [item]) (noLibrary : ∀ cls, item ≠ .library cls)
    (unclassed : item.classBlock? = none) : job.Writes s s' [item] where
  written := written
  classes := ⟨[], by rw [classes, List.append_nil], by simp [Item.classOf?_eq, unclassed]⟩
  distinct := by
    rw [classes]
    exact id
  faithful other inside := by
    rw [List.mem_singleton.mp inside]
    exact .of_unclassed noLibrary unclassed

end Writes

/-- A class that was begun is written after all that was written in between. -/
theorem Opens.writes {id : DeclId} {opening : Opening} {item : Item}
    (opens : job.Opens id s opening s₁) (marked : job.NamesMarked s)
    (inside : job.Writes s₁ s₂ items) (classes : s'.classes = s₂.classes)
    (written : s'.items = s₂.items ++ [item])
    (isClass : item.classOf? = some (opening.target, opening.newName))
    (faithful : job.IsFaithful item) : job.Writes s s' (items ++ [item]) := by
  have fresh := opens.unclassed marked
  have begun : s₁.classes.entries = s.classes.entries ++ [(opening.target, opening.newName)] := by
    rw [opens.classes, Table.entries_set_of_none fresh]
  refine ⟨?_, ?_, fun nodup => ?_, fun other among => ?_⟩
  · rw [written, inside.written, opens.items, List.append_assoc]
  · obtain ⟨entries, grows, perm⟩ := inside.classes
    refine ⟨(opening.target, opening.newName) :: entries, ?_, ?_⟩
    · rw [classes, grows, begun, List.append_assoc, List.singleton_append]
    · rw [List.filterMap_append, List.filterMap_cons_some isClass, List.filterMap_nil]
      exact (List.perm_append_singleton _ _).trans (perm.cons _)
  · rw [classes]
    refine inside.distinct ?_
    rw [begun, List.map_append, List.map_singleton]
    exact List.nodup_append_comm.mp
      (List.nodup_cons.mpr ⟨Table.not_mem_keys_of_none fresh, nodup⟩)
  · rcases List.mem_append.mp among with before | last
    · exact inside.faithful other before
    · exact List.mem_singleton.mp last ▸ faithful

/-- An export writes each class once that it records. -/
theorem Exports.writes {task : Task} (exports : job.Exports task s s') :
    job.NamesMarked s → ∃ items, job.Writes s s' items := by
  induction exports with
  | done | known | other => exact fun _ => ⟨[], .same rfl rfl⟩
  | next named first others ihFirst ihOthers =>
    intro marked
    obtain ⟨_, writes⟩ := ihFirst (marked.reported _)
    obtain ⟨_, writesOthers⟩ := ihOthers (first.namesMarked (marked.reported _)).1
    exact ⟨_, .trans (writes.before rfl rfl) writesOthers⟩
  | enumClass opens record exported =>
    have isEnum := opens.classedAs
    rw [record] at isEnum
    exact fun marked =>
      ⟨_, opens.writes marked (.same rfl rfl) rfl rfl rfl (.enumClass isEnum exported)⟩
  | structClass opens record inside exported ih =>
    intro marked
    have isStruct := opens.classedAs
    rw [record] at isStruct
    obtain ⟨_, writes⟩ := ih ((opens.namesMarked marked).reported _)
    exact ⟨_, opens.writes marked (writes.before rfl rfl) rfl rfl rfl
      (.structClass isStruct exported)⟩
  | otherName => exact fun _ => ⟨_, .single rfl rfl (fun _ => nofun) rfl⟩
  | callback named fresh renamed kind names untagged calls inside ih =>
    intro marked
    obtain ⟨_, writes⟩ := ih (marked.of_same rfl rfl fun _ => List.mem_cons_of_mem _)
    exact ⟨_, .trans (writes.before rfl rfl) (.single rfl rfl (fun _ => nofun) rfl)⟩
  | plain named fresh renamed kind names untagged uncalled inside quiet ih =>
    intro marked
    obtain ⟨_, writes⟩ := ih (marked.of_same rfl rfl fun _ => List.mem_cons_of_mem _)
    exact ⟨_, .trans (writes.before rfl rfl) (.same rfl rfl)⟩

theorem Performs.writes {tasks : List Task} (performs : job.Performs tasks s s')
    (marked : job.NamesMarked s) : ∃ items, job.Writes s s' items := by
  induction performs with
  | nil => exact ⟨[], .same rfl rfl⟩
  | between same _ ih =>
    obtain ⟨_, writes⟩ := ih (marked.of_sameNames same)
    exact ⟨_, writes.before same.classes same.items⟩
  | task first _ ih =>
    obtain ⟨_, writes⟩ := first.writes marked
    obtain ⟨_, writesRest⟩ := ih (first.namesMarked marked).1
    exact ⟨_, writes.trans writesRest⟩

/-- The blocks among the chunks of faithful items are their classes. -/
theorem filter_isBlock_of_faithful (faithful : ∀ item ∈ items, job.IsFaithful item) :
    (items.flatMap Item.chunks).filter Chunk.isBlock =
      (items.filterMap Item.classBlock?).map (·.chunk) := by
  induction items with
  | nil => rfl
  | cons item rest ih =>
    obtain ⟨first, later⟩ := List.forall_mem_cons.mp faithful
    rw [List.flatMap_cons, List.filter_append, item.filter_isBlock_chunks first.noLibrary, ih later,
      List.filterMap_cons]
    cases item.classBlock? <;> rfl

/-- After a successful run the blocks of the text are the classes of the recorded declarations, one
    for each, and then the class of the library. Each is the class of its declaration: of an
    enumeration with all its constants, or of a structure with all its fields, in order. -/
theorem classes_written_once {root : DeclId} {className : String}
    (run : (job.exportHeader className root).Succeeds {} () s) :
    ∃ blocks : List ClassBlock, ∃ library : List Chunk,
      (s.items.flatMap Item.chunks).filter Chunk.isBlock =
        blocks.map (·.chunk) ++ [.block ("class " ++ className) library] ∧
      (blocks.map fun block => (block.decl, block.name)).Perm s.classes.entries ∧
      (blocks.map (·.decl)).Nodup ∧
      ∀ block ∈ blocks, job.IsClassOf block.decl block.name block.chunk := by
  obtain ⟨s₁, performs, rfl⟩ := performs_of_exportHeader run
  obtain ⟨items, writes⟩ := performs.writes (.of_items rfl rfl)
  obtain ⟨entries, grows, perm⟩ := writes.classes
  obtain rfl : s₁.classes.entries = entries := grows
  have pairs : items.filterMap Item.classOf? =
      (items.filterMap Item.classBlock?).map fun block => (block.decl, block.name) := by
    rw [List.map_filterMap]
    exact List.filterMap_congr fun item _ => item.classOf?_eq
  rw [pairs] at perm
  refine ⟨items.filterMap Item.classBlock?,
    LibraryClass.body ⟨className, s₁.callbacks, s₁.calls⟩, ?_, perm, ?_, ?_⟩
  · have written : (s₁.emitted (.library ⟨className, s₁.callbacks, s₁.calls⟩)).items =
        [.ffiImport, .blank] ++ items ++ [.library ⟨className, s₁.callbacks, s₁.calls⟩] :=
      congrArg (· ++ _) writes.written
    rw [written, List.flatMap_append, List.flatMap_append, List.filter_append, List.filter_append,
      filter_isBlock_of_faithful writes.faithful]
    rfl
  · have keys := (perm.map Prod.fst).nodup_iff.mpr (writes.distinct List.nodup_nil)
    rwa [List.map_map] at keys
  · intro block inside
    obtain ⟨item, isItem, isBlock⟩ := List.mem_filterMap.mp inside
    exact (writes.faithful item isItem).isClass block isBlock

end Job

/-!
A structure without a name that has two type definitions and that a function takes, with a field of
an enumeration that is declared after it.
-/

namespace SharedRecord

def void : CType := { kind := .scalar .void, spelling := "void" }

def int : CType := { kind := .scalar .int, spelling := "int" }

def enum : CType := { kind := .enum, spelling := "enum E", declaration := some 5 }

def record : CType := { kind := .record, spelling := "P", declaration := some 3 }

def definition : CType :=
  { kind := .typedef, spelling := "P", ownCanonical := some record, declaration := some 2 }

def pointer : CType :=
  { kind := .pointer, spelling := "P *", pointee := some definition,
    ownCanonical := some { kind := .pointer, spelling := "P *", pointee := some record } }

/-- `typedef struct { /* Count. */ int n; enum E e; } P; typedef P Q;`
    `enum E { E_ONE = 1, E_TWO = 2 }; void f(P *p);` -/
def job : Job :=
  ⟨⟨#[{ kind := .unit, children := [1, 2, 3, 4, 5] },
    { kind := .function, name := some "f", resultType := some void, arguments := some [6] },
    { kind := .typedef, name := some "P", underlying := some record },
    { kind := .struct, children := [7, 8] },
    { kind := .typedef, name := some "Q", underlying := some definition },
    { kind := .enum, name := some "E", children := [9, 10] },
    { kind := .parameter, name := some "p", type := some pointer },
    { kind := .field, name := some "n", comment := some "/* Count. */", type := some int },
    { kind := .field, name := some "e", type := some enum },
    { kind := .enumConstant, name := some "E_ONE", value := some 1 },
    { kind := .enumConstant, name := some "E_TWO", value := some 2 }]⟩, .prefixing⟩

def exported : Progress :=
  ((job.exportHeader "Lib" 0).outcome {}).2

theorem outcome : ((job.exportHeader "Lib" 0).outcome {}).1 = .ok () ∧
    exported.classes.entries = [(3, "X_P"), (5, "X_E")] := by
  constructor <;> cbv

theorem run : (job.exportHeader "Lib" 0).Succeeds {} () exported :=
  .of_fst outcome.1

/-- The function `f` with its parameter. -/
def call : Binding where
  name := some "f"
  comment := none
  native := ⟨.native .void, [⟨.pointer (.record "X_P"), some "p"⟩]⟩
  logical := ⟨.logical .void, [⟨.pointer (.record "X_P"), some "p"⟩]⟩

theorem exported_items : exported.items =
    [.ffiImport, .blank, .enumClass 5 "X_E" none [⟨"ONE", 1⟩, ⟨"TWO", 2⟩],
      .structClass 3 "X_P" none
        [⟨some "/* Count. */", some .int, some (.logical .int), "n"⟩,
          ⟨none, some .int, some (.logical .int), "e"⟩],
      .alias "X_Q" "X_P" none, .library ⟨"Lib", [], [("X_f", call)]⟩] := by
  cbv

theorem blocks_chunks : (exported.items.flatMap Item.chunks).filter Chunk.isBlock =
    [.block "class X_E" [.line "static const ONE = 1;", .line "static const TWO = 2;"],
      .block "class X_P extends Struct"
        [.comment "Count.", .line "@Int32() int n;", .line "@Int32() int e;"],
      .block "class Lib" (LibraryClass.body ⟨"Lib", [], [("X_f", call)]⟩)] := by
  rw [exported_items]
  rfl

/-- The text has two classes and that of the library: an enumeration with its constants, and the
    structure that is reached three times, with its fields. -/
theorem classes_written : ∃ blocks : List ClassBlock,
    blocks.map (·.chunk) =
      [.block "class X_E" [.line "static const ONE = 1;", .line "static const TWO = 2;"],
        .block "class X_P extends Struct"
          [.comment "Count.", .line "@Int32() int n;", .line "@Int32() int e;"]] ∧
      (blocks.map fun block => (block.decl, block.name)).Perm [(3, "X_P"), (5, "X_E")] ∧
      ∀ block ∈ blocks, job.IsClassOf block.decl block.name block.chunk := by
  obtain ⟨blocks, library, chunks, perm, -, areClasses⟩ := Job.classes_written_once run
  rw [outcome.2] at perm
  rw [blocks_chunks] at chunks
  have same := congrArg List.dropLast chunks
  rw [List.dropLast_concat] at same
  exact ⟨blocks, same.symm, perm, areClasses⟩

end SharedRecord

end HeaderBindings
