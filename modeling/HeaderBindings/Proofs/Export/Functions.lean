import HeaderBindings.Proofs.Export.Tasks

/-!
# The functions of the library class

A function becomes a member of the library class at the end of its binding, after everything that
its signature mentions was exported and its callbacks were added. Members still come in the order of
the header, one for each name, and each looks up the name that its function has in C.
-/

namespace HeaderBindings

/-- A function of the library class: its declaration, its name in the header, its name in the class
    and its signatures. -/
structure FunctionMember where
  decl : DeclId
  name : String
  newName : String
  binding : Binding

namespace FunctionMember

def entry (member : FunctionMember) : String × Binding :=
  (member.newName, member.binding)

/-- The field for a function, after its comment. -/
def field (member : FunctionMember) : List Chunk :=
  LibraryClass.commentChunks member.binding.properComment? ++
    [.line ("final " ++ member.binding.logical.text ++ " _" ++ member.newName ++ ";")]

/-- The initializer of a field, at a place among those of all functions. It looks up the name of the
    function in C. -/
def initializer (place : Nat) (member : FunctionMember) : Chunk :=
  .line ((if place = 0 then ":" else ",") ++ " _" ++ member.newName ++
    " = dylib.lookup<NativeFunction<" ++ member.binding.native.text ++ ">>('" ++ member.name ++
    "').asFunction()")

end FunctionMember

theorem Header.name_of_bindFunction {header : Header} {given : GivenNames} {decl : Decl}
    {binding : Binding} (bound : header.bindFunction given decl = .ok binding) :
    binding.name = decl.name := by
  simp only [bindFunction, bind, Except.bind] at bound
  split at bound
  · cases bound
  · split at bound
    · cases bound
    · cases bound
      rfl

namespace LibraryClass

/-- A colon stands before the first initializer, and a comma before every other. -/
theorem initializers_eq_mapIdx (calls : List (String × Binding)) :
    initializers calls = calls.mapIdx fun place entry =>
      initializer (if place = 0 then ":" else ",") entry.1 entry.2 := by
  cases calls with
  | nil => rfl
  | cons first rest =>
    rw [List.mapIdx_cons, initializers, if_pos rfl]
    refine congrArg (_ :: ·) (List.ext_getElem (by simp) fun place _ _ => ?_)
    rw [List.getElem_mapIdx, List.getElem_map, if_neg (Nat.succ_ne_zero place)]

/-- The fields and the initializers of a library class go through its functions in the same
    order. -/
theorem body_eq {name : String} {callbacks : List (String × Binding)}
    {members : List FunctionMember}
    (symbols : ∀ member ∈ members, member.binding.name = some member.name) :
    body ⟨name, callbacks, members.map (·.entry)⟩ =
      .comment "Callbacks" :: (callbacks.flatMap fun (name, binding) => callbackField name binding) ++
      .comment "Functions" :: (members.flatMap (·.field)) ++
      [.comment "Constructor", .line (name ++ "("), .line "    DynamicLibrary dylib"] ++
        (callbacks.map fun (name, _) => callbackParameter name) ++
      [.line ")", .comment "Init functions"] ++
        members.mapIdx FunctionMember.initializer ++
      [.line "\x7b\x7d"] := by
  have fields : ((members.map (·.entry)).flatMap fun (name, binding) => callField name binding) =
      members.flatMap (·.field) := by
    rw [List.flatMap_map]
    rfl
  have sameInitializers : initializers (members.map (·.entry)) =
      members.mapIdx FunctionMember.initializer := by
    rw [initializers_eq_mapIdx]
    refine List.ext_getElem (by simp) fun place inMap inMembers => ?_
    have symbol := symbols _ (List.getElem_mem (by simpa using inMembers : place < members.length))
    simp [initializer, FunctionMember.initializer, FunctionMember.entry, symbol]
  simp only [body, fields, sameInitializers]

end LibraryClass

namespace Job

variable (job : Job)

/-- The names of the functions in scope, in the order of the header. -/
def functionNames (root : DeclId) : List String :=
  (job.childrenInScope root (· = .function)).filterMap fun id => (job.header.decl id).properName?

/-- A member of the library class binds its declaration. -/
structure Binds (member : FunctionMember) : Prop where
  name : (job.header.decl member.decl).name.getD "" = member.name
  renamed : job.names.apply member.name = .ok member.newName
  binding : ∃ given, job.header.bindFunction given (job.header.decl member.decl) =
    .ok member.binding

/-- A member of the library class binds the first function in scope with its name. -/
structure BindsFirst (root : DeclId) (member : FunctionMember) : Prop extends job.Binds member where
  symbol : member.binding.name = some member.name
  first : (job.childrenInScope root (· = .function)).find?
    (fun id => (job.header.decl id).properName? = some member.name) = some member.decl

/-- The function that an action adds to the library class. -/
def Action.call? : Action → Option DeclId
  | .call id => some id
  | .task _ | .callback _ => none

variable {job} {s s₁ s' : Progress}

/-- The functions that actions add are bound one after another. -/
theorem Takes.calls {actions : List Action} {admitted : List DeclId}
    (takes : job.Takes actions s s' admitted) :
    ∃ members : List FunctionMember, s'.calls = s.calls ++ members.map (·.entry) ∧
      members.map (·.decl) = actions.filterMap Action.call? ∧
      ∀ member ∈ members, job.Binds member := by
  induction takes with
  | nil => exact ⟨[], (List.append_nil _).symm, rfl, by simp⟩
  | quietly log bound _ ih => exact ih
  | task first _ ih =>
    rw [first.exports.keepsMembers.calls] at ih
    exact ih
  | callback renamed _ ih => exact ih
  | @call id newName binding _ _ _ _ renamed binds _ ih =>
    obtain ⟨members, grows, decls, bindings⟩ := ih
    refine ⟨⟨id, _, newName, binding⟩ :: members, ?_, congrArg (id :: ·) decls,
      List.forall_mem_cons.mpr ⟨⟨rfl, renamed, _, binds⟩, bindings⟩⟩
    rw [grows, List.append_assoc]
    rfl

theorem filterMap_call?_argumentActions {function : String} {before arguments : List Decl} :
    (job.argumentActions function before arguments).filterMap Action.call? = [] := by
  induction arguments generalizing before with
  | nil => rfl
  | cons argument rest ih =>
    simp only [argumentActions, List.filterMap_append, ih]
    cases argument.type <;> cases argument.callbackParameter? function before <;> rfl

theorem filterMap_call?_functionActions {id : DeclId} :
    (job.functionActions id).filterMap Action.call? = [id] := by
  simp only [functionActions, List.filterMap_append, filterMap_call?_argumentActions]
  cases (job.header.decl id).resultType <;> rfl

theorem filterMap_call?_headerActions {root : DeclId} :
    (job.headerActions root).filterMap Action.call? = job.boundFunctions root := by
  simp only [headerActions, List.filterMap_append, List.filterMap_flatMap,
    filterMap_call?_functionActions, List.filterMap_map, Function.comp_def, Action.call?]
  simp

/-- The first declarations of the names are those of the names with repetitions left out. -/
theorem map_name_firstNamed {bound : List String} {ids : List DeclId} :
    (job.firstNamed bound ids).map (fun id => (job.header.decl id).name.getD "") =
      ((ids.map fun id => (job.header.decl id).name.getD "").filter (· ∉ bound)).eraseDups := by
  induction ids generalizing bound with
  | nil => rfl
  | cons id rest ih =>
    simp only [firstNamed, List.map_cons, List.filter_cons]
    by_cases known : (job.header.decl id).name.getD "" ∈ bound
    · simp only [known, if_true, not_true, decide_false, Bool.false_eq_true, if_false]
      exact ih
    · simp only [known, if_false, not_false_eq_true, decide_true, if_true, List.map_cons, ih,
        List.eraseDups_cons, List.filter_filter]
      congr 3
      funext name
      rw [Bool.eq_iff_iff]
      simp

theorem find?_firstNamed {bound : List String} {ids : List DeclId} {id : DeclId}
    (inside : id ∈ job.firstNamed bound ids) :
    (job.header.decl id).name.getD "" ∉ bound ∧
      ids.find? (fun other => (job.header.decl other).name.getD "" =
        (job.header.decl id).name.getD "") = some id := by
  induction ids generalizing bound with
  | nil => cases inside
  | cons first rest ih =>
    simp only [firstNamed] at inside
    split at inside
    case isTrue known =>
      obtain ⟨unbound, found⟩ := ih inside
      refine ⟨unbound, ?_⟩
      rw [List.find?_cons_of_neg, found]
      simp only [decide_eq_true_eq]
      exact fun same => unbound (same ▸ known)
    case isFalse fresh =>
      rcases List.mem_cons.mp inside with rfl | later
      · exact ⟨fresh, List.find?_cons_of_pos (by simp)⟩
      · obtain ⟨unbound, found⟩ := ih later
        rw [List.mem_cons, not_or] at unbound
        refine ⟨unbound.2, ?_⟩
        rw [List.find?_cons_of_neg, found]
        simp only [decide_eq_true_eq]
        exact fun same => unbound.1 same.symm

theorem getD_name_of_mem_childrenInScope {root id : DeclId} {test : DeclKind → Bool}
    (inside : id ∈ job.childrenInScope root test) :
    (job.header.decl id).properName? = some ((job.header.decl id).name.getD "") := by
  obtain ⟨-, -, name, named⟩ := exists_name_of_mem_childrenInScope inside
  rw [Decl.name_of_properName? named, Option.getD_some, named]

theorem name_of_mem_childrenInScope {root id : DeclId} {test : DeclKind → Bool}
    (inside : id ∈ job.childrenInScope root test) :
    (job.header.decl id).name = some ((job.header.decl id).name.getD "") :=
  Decl.name_of_properName? (getD_name_of_mem_childrenInScope inside)

theorem functionNames_eq {root : DeclId} :
    job.functionNames root =
      (job.childrenInScope root (· = .function)).map fun id =>
        (job.header.decl id).name.getD "" := by
  rw [functionNames, ← List.filterMap_eq_map']
  exact List.filterMap_congr fun id inside => getD_name_of_mem_childrenInScope inside

theorem map_name_boundFunctions {root : DeclId} :
    (job.boundFunctions root).map (fun id => (job.header.decl id).name.getD "") =
      (job.functionNames root).eraseDups := by
  rw [boundFunctions, map_name_firstNamed, functionNames_eq]
  simp

/-- A function that is bound is the first one in scope with its name. -/
theorem find?_boundFunctions {root id : DeclId} (isBound : id ∈ job.boundFunctions root) :
    (job.childrenInScope root (· = .function)).find? (fun other =>
      (job.header.decl other).properName? = some ((job.header.decl id).name.getD "")) = some id := by
  obtain ⟨-, found⟩ := find?_firstNamed isBound
  rw [← found]
  refine List.find?_congr fun other inside => ?_
  rw [getD_name_of_mem_childrenInScope inside]
  simp

/-- After a successful run the library class has one member for each name of a function in scope, in
    the order of the first functions with these names, and each member binds that function. The
    fields and the initializers of the class are those of its members, in the same order, and an
    initializer looks up the name that the function has in C. -/
theorem functions_bound_once {root : DeclId} {className : String}
    (run : (job.exportHeader className root).Succeeds {} () s) :
    ∃ members : List FunctionMember,
      members.map (·.name) = (job.functionNames root).eraseDups ∧
      (∀ member ∈ members, job.BindsFirst root member) ∧
      s.calls = members.map (·.entry) ∧
      s.items.getLast? = some (.library ⟨className, s.callbacks, s.calls⟩) ∧
      LibraryClass.body ⟨className, s.callbacks, s.calls⟩ =
        .comment "Callbacks" ::
          (s.callbacks.flatMap fun (name, binding) => LibraryClass.callbackField name binding) ++
        .comment "Functions" :: (members.flatMap (·.field)) ++
        [.comment "Constructor", .line (className ++ "("), .line "    DynamicLibrary dylib"] ++
          (s.callbacks.map fun (name, _) => LibraryClass.callbackParameter name) ++
        [.line ")", .comment "Init functions"] ++
          members.mapIdx FunctionMember.initializer ++
        [.line "\x7b\x7d"] := by
  obtain ⟨s₁, admitted, takes, rfl⟩ := takes_of_exportHeader run
  obtain ⟨members, calls, decls, bindings⟩ := takes.calls
  rw [filterMap_call?_headerActions] at decls
  have calls : s₁.calls = members.map (·.entry) := calls
  have names : members.map (·.name) = (job.functionNames root).eraseDups := by
    rw [← map_name_boundFunctions, ← decls, List.map_map]
    exact List.map_congr_left fun member inside => (bindings member inside).name.symm
  have binds : ∀ member ∈ members, job.BindsFirst root member := by
    intro member inside
    have isBinding := bindings member inside
    have isBound : member.decl ∈ job.boundFunctions root :=
      decls ▸ List.mem_map_of_mem inside
    have first := find?_boundFunctions isBound
    rw [isBinding.name] at first
    refine ⟨isBinding, ?_, first⟩
    obtain ⟨given, bound⟩ := isBinding.binding
    have named : (job.header.decl member.decl).properName? = some member.name := by
      simpa using List.find?_some first
    rw [Header.name_of_bindFunction bound]
    exact (Option.filter_eq_some_iff.mp named).1
  refine ⟨members, names, binds, calls, List.getLast?_concat, ?_⟩
  rw [show (s₁.emitted _).calls = _ from calls]
  exact LibraryClass.body_eq fun member inside => (binds member inside).symbol

end Job

/-!
A function that is declared twice, with a callback that has a name and two that have none. The
callback with the name takes a structure, and this has a field of a third callback type.
-/

namespace NestedCallbacks

def void : CType := { kind := .scalar .void, spelling := "void" }

def int : CType := { kind := .scalar .int, spelling := "int" }

def plain : CType := { kind := .function, spelling := "void (void)", result := some void }

def pointer : CType := { kind := .pointer, spelling := "void (*)(void)", pointee := some plain }

def inner : CType :=
  { kind := .typedef, spelling := "Inner", ownCanonical := some pointer, declaration := some 6 }

def record : CType := { kind := .record, spelling := "struct S", declaration := some 5 }

def pointerS : CType := { kind := .pointer, spelling := "struct S *", pointee := some record }

def prototype : CType :=
  { kind := .function, spelling := "void (struct S *)", result := some void,
    arguments := [pointerS] }

def prototypePointer : CType :=
  { kind := .pointer, spelling := "void (*)(struct S *)", pointee := some prototype }

def callback : CType :=
  { kind := .typedef, spelling := "Cb", ownCanonical := some prototypePointer,
    declaration := some 4 }

/-- `void f(Cb listener, void (*)(void), void (*)(void)); int g(void);`
    `void f(Cb listener, void (*)(void), void (*)(void)); typedef void (*Cb)(struct S *);`
    `struct S { Inner inner; }; typedef void (*Inner)(void);` -/
def header : Header :=
  ⟨#[{ kind := .unit, children := [1, 2, 3, 4, 5, 6] },
    { kind := .function, name := some "f", resultType := some void,
      arguments := some [7, 8, 9] },
    { kind := .function, name := some "g", resultType := some int, arguments := some [] },
    { kind := .function, name := some "f", resultType := some void,
      arguments := some [7, 8, 9] },
    { kind := .typedef, name := some "Cb", underlying := some prototypePointer },
    { kind := .struct, name := some "S", children := [10] },
    { kind := .typedef, name := some "Inner", underlying := some pointer },
    { kind := .parameter, name := some "listener", type := some callback },
    { kind := .parameter, type := some pointer },
    { kind := .parameter, type := some pointer },
    { kind := .field, name := some "inner", type := some inner }]⟩

def job : Job :=
  ⟨header, .prefixing⟩

def exported : Progress :=
  ((job.exportHeader "Lib" 0).outcome {}).2

theorem outcome : ((job.exportHeader "Lib" 0).outcome {}).1 = .ok () ∧
    exported.calls.map (·.1) = ["X_f", "X_g"] ∧
    exported.callbacks.map (·.1) = ["X_Inner", "X_f_listener", "X_f_cb0", "X_f_cb1", "X_Cb"] := by
  refine ⟨?_, ?_, ?_⟩ <;> cbv

theorem run : (job.exportHeader "Lib" 0).Succeeds {} () exported :=
  .of_fst outcome.1

/-- The function that is declared twice has one member, and this binds its first declaration. -/
theorem functions_bound : ∃ members : List FunctionMember,
    members.map (·.name) = ["f", "g"] ∧ (∀ member ∈ members, job.BindsFirst 0 member) ∧
      exported.calls = members.map (·.entry) := by
  obtain ⟨members, names, binds, calls, -, -⟩ := Job.functions_bound_once run
  exact ⟨members, names, binds, calls⟩

end NestedCallbacks

end HeaderBindings
