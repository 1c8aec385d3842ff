import HeaderBindings.Proofs.Export.DeclaredNames

/-!
# The names of the members

The library class has a private member for each callback and for each function. The name of a member
is that of a function, that of a type definition, or the name of a function and the label of one of
its parameters with an underscore between them. Names in a header may have underscores themselves,
so a name of the last kind can be any other one.
-/

namespace HeaderBindings

namespace Chunk

def isLine : Chunk → Bool
  | .line _ => true
  | .comment _ | .block _ _ => false

/-- A chunk of a library class declares a member by a field, or sets one by a parameter or an
    initializer of the constructor. -/
inductive IsOfMember : Chunk → String → Prop where
  | field (type name : String) : IsOfMember (.line ("final " ++ type ++ " " ++ name ++ ";")) name
  | parameter (name : String) : IsOfMember (.line ("  , this." ++ name)) name
  | initializer (separator name value : String) :
      IsOfMember (.line (separator ++ " " ++ name ++ " = " ++ value)) name

end Chunk

namespace LibraryClass

open Chunk

def memberName (entry : String × Binding) : String :=
  "_" ++ entry.1

variable (library : LibraryClass)

/-- The names of the members, those of callbacks before those of functions. -/
def memberNames : List String :=
  (library.callbacks ++ library.calls).map memberName

theorem nodup_memberNames_iff : library.memberNames.Nodup ↔
    (library.callbacks.map (·.1) ++ library.calls.map (·.1)).Nodup := by
  have names : library.memberNames =
      (library.callbacks.map (·.1) ++ library.calls.map (·.1)).map ("_" ++ ·) := by
    rw [← List.map_append, List.map_map]
    rfl
  rw [names]
  exact List.nodup_map_iff fun name other same => (String.append_right_inj "_").mp same

/-- The fields of a library class, its parameters and its initializers are those of its members. -/
structure HasMembers : Prop where
  fields : List.Forall₂ IsOfMember
    (((library.callbacks.flatMap fun (name, binding) => callbackField name binding) ++
      library.calls.flatMap fun (name, binding) => callField name binding).filter isLine)
    library.memberNames
  parameters : List.Forall₂ IsOfMember
    (library.callbacks.map fun (name, _) => callbackParameter name)
    (library.callbacks.map memberName)
  initializers : List.Forall₂ IsOfMember (initializers library.calls)
    (library.calls.map memberName)

theorem filter_isLine_commentChunks (comment : Option String) :
    (commentChunks comment).filter isLine = [] := by
  cases comment <;> rfl

theorem isOfMember_callbackField (entry : String × Binding) :
    List.Forall₂ IsOfMember ((callbackField entry.1 entry.2).filter isLine) [memberName entry] := by
  have line : "final Pointer<NativeFunction<" ++ entry.2.native.text ++ ">> _" ++ entry.1 ++ ";" =
      "final " ++ ("Pointer<NativeFunction<" ++ entry.2.native.text ++ ">>") ++ " " ++
        memberName entry ++ ";" := by
    rw [memberName, show "final Pointer<NativeFunction<" = "final " ++ "Pointer<NativeFunction<" from
      rfl, show ">> _" = ">>" ++ (" " ++ "_") from rfl]
    simp only [String.append_assoc]
  rw [callbackField, List.filter_append, filter_isLine_commentChunks, line]
  exact .cons (.field _ _) .nil

theorem isOfMember_callField (entry : String × Binding) :
    List.Forall₂ IsOfMember ((callField entry.1 entry.2).filter isLine) [memberName entry] := by
  have line : "final " ++ entry.2.logical.text ++ " _" ++ entry.1 ++ ";" =
      "final " ++ entry.2.logical.text ++ " " ++ memberName entry ++ ";" := by
    rw [memberName, show " _" = " " ++ "_" from rfl]
    simp only [String.append_assoc]
  rw [callField, List.filter_append, filter_isLine_commentChunks, line]
  exact .cons (.field _ _) .nil

theorem isOfMember_initializer (separator : String) (entry : String × Binding) :
    IsOfMember (initializer separator entry.1 entry.2) (memberName entry) := by
  have line : separator ++ " _" ++ entry.1 ++ " = dylib.lookup<NativeFunction<" ++
      entry.2.native.text ++ ">>('" ++ entry.2.name.getD "None" ++ "').asFunction()" =
      separator ++ " " ++ memberName entry ++ " = " ++ ("dylib.lookup<NativeFunction<" ++
        entry.2.native.text ++ ">>('" ++ entry.2.name.getD "None" ++ "').asFunction()") := by
    rw [memberName, show " _" = " " ++ "_" from rfl, show " = dylib.lookup<NativeFunction<" =
      " = " ++ "dylib.lookup<NativeFunction<" from rfl]
    simp only [String.append_assoc]
  rw [initializer, line]
  exact .initializer _ _ _

theorem isOfMember_flatMap {chunks : String × Binding → List Chunk}
    (each : ∀ entry, List.Forall₂ IsOfMember ((chunks entry).filter isLine) [memberName entry])
    (entries : List (String × Binding)) :
    List.Forall₂ IsOfMember ((entries.flatMap chunks).filter isLine) (entries.map memberName) := by
  induction entries with
  | nil => exact .nil
  | cons entry rest ih =>
    rw [List.flatMap_cons, List.filter_append]
    exact List.rel_append (each entry) ih

theorem hasMembers : library.HasMembers where
  fields := by
    rw [List.filter_append, memberNames, List.map_append]
    exact List.rel_append (isOfMember_flatMap isOfMember_callbackField _)
      (isOfMember_flatMap isOfMember_callField _)
  parameters := by
    rw [List.forall₂_map_left_iff, List.forall₂_map_right_iff]
    refine List.forall₂_same.mpr fun ⟨name, binding⟩ _ => ?_
    have line : "  , this._" ++ name = "  , this." ++ memberName (name, binding) := by
      rw [memberName, show "  , this._" = "  , this." ++ "_" from rfl, String.append_assoc]
    change IsOfMember (.line ("  , this._" ++ name)) _
    rw [line]
    exact .parameter _
  initializers := by
    cases library.calls with
    | nil => exact .nil
    | cons entry rest =>
      refine .cons (isOfMember_initializer ":" entry) ?_
      rw [List.forall₂_map_left_iff, List.forall₂_map_right_iff]
      exact List.forall₂_same.mpr fun entry _ => isOfMember_initializer "," entry

end LibraryClass

theorem Item.filterMap_callbackName? (items : List Item) :
    items.filterMap Item.callbackName? = (items.filterMap Item.callback?).map (·.1) := by
  rw [List.map_filterMap]
  refine List.filterMap_congr fun item _ => ?_
  cases item <;> rfl

namespace CallbackParameter

/-- The name of the callback in the library class, when functions keep their names. -/
def fullName (parameter : CallbackParameter) : String :=
  parameter.function ++ "_" ++ parameter.label

end CallbackParameter

namespace Job

variable (job : Job)

/-- Functions in scope have other names than type definitions, and the parameters of each have
    different names. -/
structure NamesApart (root : DeclId) : Prop where
  functions : ∀ name ∈ job.functionNames root, ∀ id, job.header.DeclaresType root id →
    (job.header.decl id).kind = .typedef → (job.header.decl id).properName? ≠ some name
  parameters : ∀ id ∈ job.childrenInScope root (· = .function),
    ((job.header.argumentsOf (job.header.decl id)).filterMap (·.properName?)).Nodup

/-- No callback among the parameters of a function in scope has a name that callbacks without a name
    are given there. -/
def NumbersApart (root : DeclId) : Prop :=
  ∀ id ∈ job.childrenInScope root (· = .function),
    let arguments := job.header.argumentsOf (job.header.decl id)
    ∀ argument ∈ arguments, argument.functionPointee?.isSome = true →
      ∀ number < arguments.countP (·.isUnnamedCallback),
        argument.properName? ≠ some ("cb" ++ toString number)

variable {job} {s s₁ s' : Progress}

theorem callbackParameter?_eq_some {function : String} {before : List Decl} {argument : Decl}
    {parameter : CallbackParameter}
    (isCallback : argument.callbackParameter? function before = some parameter) :
    argument.functionPointee?.isSome = true ∧ parameter.function = function ∧
      parameter.label = argument.callbackLabel before := by
  obtain ⟨prototype, calls, rfl⟩ := Option.map_eq_some_iff.mp isCallback
  exact ⟨by rw [calls, Option.isSome_some], rfl, rfl⟩

theorem isUnnamedCallback_of_callback {argument : Decl}
    (isCallback : argument.functionPointee?.isSome = true) (unnamed : argument.properName? = none) :
    argument.isUnnamedCallback = true := by
  rw [Decl.isUnnamedCallback, isCallback, unnamed]
  rfl

/-- The label of a callback is its name, or the number of a callback without a name. -/
theorem label_of_mem_callbacksAmong {function : String} {before arguments : List Decl}
    {parameter : CallbackParameter}
    (inside : parameter ∈ callbacksAmong function before arguments) :
    parameter.function = function ∧
      ((∃ argument ∈ arguments, argument.functionPointee?.isSome = true ∧
          argument.properName? = some parameter.label) ∨
        ∃ number, before.countP (·.isUnnamedCallback) ≤ number ∧
          number < (before ++ arguments).countP (·.isUnnamedCallback) ∧
          parameter.label = "cb" ++ toString number) := by
  induction arguments generalizing before with
  | nil => cases inside
  | cons argument rest ih =>
    rcases List.mem_append.mp inside with own | later
    · obtain ⟨isCallback, ofFunction, label⟩ := callbackParameter?_eq_some (Option.mem_toList.mp own)
      refine ⟨ofFunction, ?_⟩
      rw [label, Decl.callbackLabel]
      cases named : argument.properName? with
      | some name => exact .inl ⟨argument, List.mem_cons_self, isCallback, named⟩
      | none =>
        refine .inr ⟨_, le_rfl, ?_, rfl⟩
        rw [List.countP_append,
          List.countP_cons_of_pos (isUnnamedCallback_of_callback isCallback named)]
        omega
    · obtain ⟨ofFunction, label⟩ := ih later
      refine ⟨ofFunction, label.imp ?_ ?_⟩
      · rintro ⟨other, isArgument, isCallback, named⟩
        exact ⟨other, List.mem_cons_of_mem _ isArgument, isCallback, named⟩
      · rintro ⟨number, lower, upper, label⟩
        rw [List.append_assoc] at upper
        rw [List.countP_append] at lower
        exact ⟨number, by omega, upper, label⟩

/-- The label of a callback is none of those of the callbacks after it. -/
theorem label_ne_of_mem_callbacksAmong {function : String} {before rest : List Decl}
    {argument : Decl} (isCallback : argument.functionPointee?.isSome = true)
    (named : ((argument :: rest).filterMap (·.properName?)).Nodup)
    (numbers : ∀ other ∈ argument :: rest, other.functionPointee?.isSome = true →
      ∀ number < (before ++ argument :: rest).countP (·.isUnnamedCallback),
        other.properName? ≠ some ("cb" ++ toString number))
    {parameter : CallbackParameter}
    (inside : parameter ∈ callbacksAmong function (before ++ [argument]) rest) :
    parameter.label ≠ argument.callbackLabel before := by
  intro same
  obtain ⟨ownNumbers, numbersRest⟩ := List.forall_mem_cons.mp numbers
  obtain ⟨-, label⟩ := label_of_mem_callbacksAmong inside
  rw [same, Decl.callbackLabel, List.append_assoc] at label
  cases isNamed : argument.properName? with
  | some name =>
    rw [isNamed, Option.getD_some] at label
    rcases label with ⟨other, inRest, -, sameName⟩ | ⟨number, -, upper, isNumber⟩
    · rw [List.filterMap_cons_some isNamed] at named
      exact (List.nodup_cons.mp named).1 (List.mem_filterMap.mpr ⟨other, inRest, sameName⟩)
    · exact ownNumbers isCallback number upper (isNumber ▸ isNamed)
  | none =>
    have unnamed := isUnnamedCallback_of_callback isCallback isNamed
    rw [isNamed, Option.getD_none] at label
    rcases label with ⟨other, inRest, isCallback, sameName⟩ | ⟨number, lower, -, sameNumber⟩
    · refine numbersRest other inRest isCallback _ ?_ sameName
      rw [List.countP_append, List.countP_cons_of_pos unnamed]
      omega
    · have equal := Nat.repr_inj.mp ((String.append_right_inj "cb").mp sameNumber)
      rw [List.countP_append, List.countP_cons_of_pos unnamed] at lower
      omega

/-- The callbacks among parameters have different labels. -/
theorem nodup_labels {function : String} {before arguments : List Decl}
    (named : (arguments.filterMap (·.properName?)).Nodup)
    (numbers : ∀ argument ∈ arguments, argument.functionPointee?.isSome = true →
      ∀ number < (before ++ arguments).countP (·.isUnnamedCallback),
        argument.properName? ≠ some ("cb" ++ toString number)) :
    ((callbacksAmong function before arguments).map (·.label)).Nodup := by
  induction arguments generalizing before with
  | nil => exact List.nodup_nil
  | cons argument rest ih =>
    have namedRest : (rest.filterMap (·.properName?)).Nodup :=
      named.sublist ((List.sublist_cons_self _ _).filterMap _)
    have later := @ih (before ++ [argument]) namedRest (by
      rw [List.append_assoc]
      exact (List.forall_mem_cons.mp numbers).2)
    cases own : argument.callbackParameter? function before with
    | none => simpa only [callbacksAmong, own, Option.toList_none, List.nil_append] using later
    | some parameter =>
      obtain ⟨isCallback, -, label⟩ := callbackParameter?_eq_some own
      simp only [callbacksAmong, own, Option.toList_some, List.cons_append, List.nil_append,
        List.map_cons]
      refine List.nodup_cons.mpr ⟨fun inside => ?_, later⟩
      obtain ⟨other, isOther, same⟩ := List.mem_map.mp inside
      exact label_ne_of_mem_callbacksAmong isCallback named numbers isOther (same.trans label)

theorem pairwise_firstNamed {bound : List String} {ids : List DeclId} :
    (job.firstNamed bound ids).Pairwise fun id other =>
      (job.header.decl id).name.getD "" ≠ (job.header.decl other).name.getD "" := by
  induction ids generalizing bound with
  | nil => exact .nil
  | cons id rest ih =>
    simp only [firstNamed]
    split
    · exact ih
    · refine .cons (fun other inside same => ?_) ih
      exact (find?_firstNamed inside).1 (same ▸ List.mem_cons_self)

/-- The names of the callbacks that parameters are differ, unless those of two functions meet. -/
theorem nodup_fullNames_iff {root : DeclId} (apart : job.NamesApart root)
    (numbers : job.NumbersApart root) :
    ((job.callbackParameters root).map (·.fullName)).Nodup ↔
      ∀ parameter ∈ job.callbackParameters root, ∀ other ∈ job.callbackParameters root,
        other.fullName = parameter.fullName → other.function = parameter.function := by
  constructor
  · intro distinct parameter isParameter other isOther same
    rw [List.inj_on_of_nodup_map distinct isOther isParameter same]
  · intro functionsDiffer
    rw [List.Nodup, List.pairwise_map, callbackParameters, List.pairwise_flatMap]
    have ofFunctions : ∀ {id}, id ∈ job.boundFunctions root → ∀ parameter ∈
        callbacksAmong ((job.header.decl id).name.getD "") []
          (job.header.argumentsOf (job.header.decl id)),
        parameter ∈ job.callbackParameters root ∧
          parameter.function = (job.header.decl id).name.getD "" :=
      fun isBound parameter inside => ⟨List.mem_flatMap.mpr ⟨_, isBound, inside⟩,
        (label_of_mem_callbacksAmong inside).1⟩
    refine ⟨fun id isBound => ?_, ?_⟩
    · have inScope := List.mem_of_find?_eq_some (find?_boundFunctions isBound)
      have labels : ((callbacksAmong ((job.header.decl id).name.getD "") []
          (job.header.argumentsOf (job.header.decl id))).map (·.label)).Nodup :=
        nodup_labels (apart.parameters id inScope) (numbers id inScope)
      refine (List.pairwise_map.mp labels).imp_of_mem fun isParameter isOther differs same =>
        differs ?_
      rw [CallbackParameter.fullName, CallbackParameter.fullName,
        (ofFunctions isBound _ isParameter).2, (ofFunctions isBound _ isOther).2] at same
      exact (String.append_right_inj _).mp same
    · refine pairwise_firstNamed.imp_of_mem fun isBound isBoundToo differs parameter isParameter other
        isOther same => differs ?_
      obtain ⟨inside, ofFunction⟩ := ofFunctions isBound parameter isParameter
      obtain ⟨insideToo, ofOther⟩ := ofFunctions isBoundToo other isOther
      rw [← ofFunction, ← ofOther]
      exact functionsDiffer other insideToo parameter inside same

/-- Actions admit members of a set only, if their tasks are among them. -/
theorem Takes.among {members : DeclId → Prop} (closed : job.ClosedUnderExport members)
    {actions : List Action} {admitted : List DeclId} (takes : job.Takes actions s s' admitted) :
    (∀ task ∈ actions.filterMap Action.task?, task.Among members) →
      ∀ id ∈ admitted, members id := by
  induction takes with
  | nil => exact fun _ => nofun
  | quietly _ _ _ ih | callback _ _ ih | call _ _ _ ih => exact ih
  | task first _ ih =>
    intro among
    obtain ⟨own, others⟩ := List.forall_mem_cons.mp among
    exact List.forall_mem_append.mpr ⟨first.among closed own, ih others⟩

theorem map_fst_of_areParameterCallbacks (keeps : ∀ name, job.names.apply name = .ok name)
    {parameters : List CallbackParameter} {entries : List (String × Binding)}
    (areCallbacks : List.Forall₂ job.IsParameterCallback parameters entries) :
    entries.map (·.1) = parameters.map (·.fullName) := by
  induction areCallbacks with
  | nil => rfl
  | cons isCallback _ ih =>
    obtain ⟨newName, given, renamed, rfl⟩ := isCallback
    cases (keeps _).symm.trans renamed
    rw [List.map_cons, List.map_cons, ih]
    rfl

section

variable (keeps : ∀ name, job.names.apply name = .ok name) {root : DeclId}
  {admitted : List DeclId} (takes : job.Takes (job.headerActions root) opened s₁ admitted)

include keeps takes

theorem map_fst_calls : s₁.calls.map (·.1) =
    (job.boundFunctions root).map fun id => (job.header.decl id).name.getD "" := by
  obtain ⟨members, calls, decls, bindings⟩ := takes.calls
  rw [filterMap_call?_headerActions] at decls
  have calls : s₁.calls = members.map (·.entry) := calls
  rw [calls, ← decls, List.map_map, List.map_map]
  refine List.map_congr_left fun member inside => ?_
  have isBinding := bindings member inside
  have keepsOwn : member.newName = member.name :=
    Except.ok.inj (isBinding.renamed.symm.trans (keeps _))
  exact keepsOwn.trans isBinding.name.symm

/-- The callbacks of the library class have the names of parameters and those of the callbacks in the
    text. -/
theorem map_fst_callbacks_perm : (s₁.callbacks.map (·.1)).Perm
    ((job.callbackParameters root).map (·.fullName) ++ s₁.items.filterMap Item.callbackName?) := by
  obtain ⟨items, ofParameters, added, written, calledBack, interleaves, areParameters, -⟩ :=
    takes.leaves
  obtain rfl : s₁.callbacks = added := calledBack
  have names : s₁.items.filterMap Item.callbackName? =
      (items.filterMap Item.callback?).map (·.1) := by
    rw [← Item.filterMap_callbackName?, written]
    rfl
  rw [filterMap_callback?_headerActions] at areParameters
  rw [names, ← map_fst_of_areParameterCallbacks keeps areParameters, ← List.map_append]
  exact interleaves.perm.map _

/-- The callbacks in the text have the names of type definitions, and no two the same one. -/
theorem callbackNames_of_takes : (s₁.items.filterMap Item.callbackName?).Nodup ∧
    ∀ name ∈ s₁.items.filterMap Item.callbackName?, ∃ id, job.header.DeclaresType root id ∧
      (job.header.decl id).kind = .typedef ∧ (job.header.decl id).properName? = some name := by
  obtain ⟨items, -, -, written, -, -, -, leaves⟩ := takes.leaves
  have names : s₁.items.filterMap Item.callbackName? = items.filterMap Item.callbackName? := by
    rw [written]
    rfl
  have apart : job.RenamesApart s₁.exported := by
    intro name _ other _ same
    rw [keeps, keeps] at same
    exact Except.ok.inj same
  rw [names]
  refine ⟨(leaves.nodup_typeNames takes.isNew.1 apart).sublist (Item.callbackNames_sublist items),
    fun name inside => ?_⟩
  rw [Item.filterMap_callbackName?] at inside
  obtain ⟨entry, isCallback, rfl⟩ := List.mem_map.mp inside
  obtain ⟨id, isDefinition, own, prototype, given, named, renamed, defines, -⟩ :=
    exists_of_forall₂_of_mem leaves.definitions isCallback
  obtain rfl : own = entry.1 := Except.ok.inj ((keeps own).symm.trans renamed)
  have declares : job.header.DeclaresType root id := by
    refine takes.among closedUnderExport_declaresType (fun task isTask => ?_) id
      (List.mem_of_mem_filter isDefinition)
    rw [filterMap_headerActions] at isTask
    exact (headerTasks_among task isTask).mono fun _ wanted => wanted.declaresType
  refine ⟨id, declares, ?_, named⟩
  unfold Header.definedPrototype? at defines
  split at defines
  case h_1 kind => exact kind
  case h_2 => cases defines

end

/-- When the renaming is by the template `$0`, functions have other names than type definitions, and
    the parameters of each function are told apart by their names and numbers, then the members of
    the library class of a successful run have different names, unless the name of a callback that
    is a parameter is that of a function, that of a callback in the text, or that of a parameter of
    another function. -/
theorem memberNames_nodup_iff {root : DeclId} {className : String} {pattern : Pattern}
    (whole : Renaming.ofTemplate pattern "$0" = .ok job.names) (apart : job.NamesApart root)
    (numbers : job.NumbersApart root)
    (run : (job.exportHeader className root).Succeeds {} () s) :
    let library : LibraryClass := ⟨className, s.callbacks, s.calls⟩
    s.items.getLast? = some (.library library) ∧ library.HasMembers ∧
      (library.memberNames.Nodup ↔
        ∀ parameter ∈ job.callbackParameters root,
          parameter.fullName ∉ job.functionNames root ∧
          parameter.fullName ∉ s.items.filterMap Item.callbackName? ∧
          ∀ other ∈ job.callbackParameters root, other.fullName = parameter.fullName →
            other.function = parameter.function) := by
  have keeps : ∀ name, job.names.apply name = .ok name := by
    rw [← Except.ok.inj ((Renaming.ofTemplate_whole pattern).symm.trans whole)]
    exact Renaming.apply_whole pattern
  obtain ⟨s₁, admitted, takes, rfl⟩ := takes_of_exportHeader run
  refine ⟨List.getLast?_concat, LibraryClass.hasMembers _, ?_⟩
  have callbackNames : (s₁.emitted (.library ⟨className, s₁.callbacks, s₁.calls⟩)).items.filterMap
      Item.callbackName? = s₁.items.filterMap Item.callbackName? := by
    simp [Item.callbackName?]
  have perm := map_fst_callbacks_perm keeps takes
  obtain ⟨distinctCallbacks, areDefined⟩ := callbackNames_of_takes keeps takes
  rw [callbackNames]
  have functionNames_iff : ∀ name, name ∈ s₁.calls.map (·.1) ↔ name ∈ job.functionNames root := by
    intro name
    rw [map_fst_calls keeps takes, map_name_boundFunctions, List.mem_eraseDups]
  have distinctFunctions : (s₁.calls.map (·.1)).Nodup := by
    rw [map_fst_calls keeps takes]
    exact List.pairwise_map.mpr pairwise_firstNamed
  refine (LibraryClass.nodup_memberNames_iff _).trans ((perm.append_right _).nodup_iff.trans ?_)
  rw [List.nodup_append, List.nodup_append, nodup_fullNames_iff apart numbers]
  constructor
  · rintro ⟨⟨ofFunctions, -, apartFromCallbacks⟩, -, apartFromFunctions⟩ parameter isParameter
    have isName : parameter.fullName ∈ (job.callbackParameters root).map (·.fullName) :=
      List.mem_map_of_mem isParameter
    refine ⟨fun inside => ?_, fun inside => apartFromCallbacks _ isName _ inside rfl,
      ofFunctions parameter isParameter⟩
    exact apartFromFunctions _ (List.mem_append_left _ isName) _ ((functionNames_iff _).mpr inside)
      rfl
  · intro differ
    refine ⟨⟨fun parameter isParameter => (differ parameter isParameter).2.2, distinctCallbacks, ?_⟩,
      distinctFunctions, ?_⟩
    · rintro _ isName name isCallback rfl
      obtain ⟨parameter, isParameter, rfl⟩ := List.mem_map.mp isName
      exact (differ parameter isParameter).2.1 isCallback
    · rintro name isCallback _ isFunction rfl
      replace isFunction := (functionNames_iff name).mp isFunction
      rcases List.mem_append.mp isCallback with isName | ofDefinition
      · obtain ⟨parameter, isParameter, rfl⟩ := List.mem_map.mp isName
        exact (differ parameter isParameter).1 isFunction
      · obtain ⟨id, declares, kind, named⟩ := areDefined name ofDefinition
        exact apart.functions name isFunction id declares kind named

end Job

namespace NestedCallbacks

def keepingJob : Job :=
  ⟨header, .whole ⟨"", .empty, 0, [], {}⟩⟩

def kept : Progress :=
  ((keepingJob.exportHeader "Lib" 0).outcome {}).2

theorem outcomeKept : ((keepingJob.exportHeader "Lib" 0).outcome {}).1 = .ok () ∧
    kept.items.filterMap Item.callbackName? = ["Inner", "Cb"] := by
  constructor <;> cbv

theorem reaches_among {node : Node} (reaches : header.Reaches 0 node) :
    node.Among [0, 1, 2, 3, 4, 5, 6, 7, 8, 9, 10] [void, int, plain, pointer, inner, record, pointerS,
      prototype, prototypePointer, callback] := by
  have declLinks : [0, 1, 2, 3, 4, 5, 6, 7, 8, 9, 10].map (fun id => header.links (.decl id)) =
      [[.decl 1, .decl 2, .decl 3, .decl 4, .decl 5, .decl 6],
        [.decl 7, .decl 8, .decl 9, .type void], [.type int],
        [.decl 7, .decl 8, .decl 9, .type void], [.type prototypePointer], [.decl 10],
        [.type pointer], [.type callback], [.type pointer], [.type pointer], [.type inner]] := rfl
  have typeLinks : [void, int, plain, pointer, inner, record, pointerS, prototype, prototypePointer,
      callback].map (fun type => header.links (.type type)) =
      [[], [], [.type void], [.type plain], [.type pointer, .decl 6], [.decl 5], [.type record],
        [.type void, .type pointerS], [.type prototype], [.type prototypePointer, .decl 4]] := rfl
  exact reaches.among_of_links declLinks typeLinks (by decide) (by simp [Node.Among])

theorem namesApart : keepingJob.NamesApart 0 where
  functions name inside id declares := by
    have names : keepingJob.functionNames 0 = ["f", "g", "f"] := by cbv
    have apart : ∀ id ∈ [0, 1, 2, 3, 4, 5, 6, 7, 8, 9, 10], (header.decl id).kind = .typedef →
        ∀ name ∈ ["f", "g", "f"], (header.decl id).properName? ≠ some name := by decide
    rw [names] at inside
    exact fun kind => apart id (reaches_among declares.1) kind name inside
  parameters := by
    have functions : keepingJob.childrenInScope 0 (· = .function) = [1, 2, 3] := by cbv
    rw [functions]
    decide

theorem numbersApart : keepingJob.NumbersApart 0 := by
  have functions : keepingJob.childrenInScope 0 (· = .function) = [1, 2, 3] := by cbv
  rw [Job.NumbersApart, functions]
  decide

/-- No two members of the library class have the same name. -/
theorem members_distinct :
    (LibraryClass.memberNames ⟨"Lib", kept.callbacks, kept.calls⟩).Nodup := by
  have functions : keepingJob.functionNames 0 = ["f", "g", "f"] := by cbv
  have parameters : keepingJob.callbackParameters 0 =
      [⟨"f", "listener", prototype⟩, ⟨"f", "cb0", plain⟩, ⟨"f", "cb1", plain⟩] := by cbv
  have run : (keepingJob.exportHeader "Lib" 0).Succeeds {} () kept := .of_fst outcomeKept.1
  obtain ⟨-, -, members⟩ :=
    Job.memberNames_nodup_iff (Renaming.ofTemplate_whole _) namesApart numbersApart run
  refine members.mpr ?_
  rw [functions, parameters, outcomeKept.2]
  decide

end NestedCallbacks

/-!
Two headers whose names are all different. In the first one the name of a function is that of the
callback of another function; in the second one the name of a callback is a number.
-/

namespace MeetingMembers

def void : CType := { kind := .scalar .void, spelling := "void" }

def prototype : CType := { kind := .function, spelling := "void (void)", result := some void }

def pointer : CType := { kind := .pointer, spelling := "void (*)(void)", pointee := some prototype }

/-- `void a(void (*b)(void)); void a_b(void);` -/
def functions : Header :=
  ⟨#[{ kind := .unit, children := [1, 2] },
    { kind := .function, name := some "a", resultType := some void, arguments := some [3] },
    { kind := .function, name := some "a_b", resultType := some void, arguments := some [] },
    { kind := .parameter, name := some "b", type := some pointer }]⟩

/-- `void f(void (*cb0)(void), void (*)(void));` -/
def numbers : Header :=
  ⟨#[{ kind := .unit, children := [1] },
    { kind := .function, name := some "f", resultType := some void, arguments := some [2, 3] },
    { kind := .parameter, name := some "cb0", type := some pointer },
    { kind := .parameter, type := some pointer }]⟩

def job (header : Header) : Job :=
  ⟨header, .whole ⟨"", .empty, 0, [], {}⟩⟩

def exported (header : Header) : Progress :=
  (((job header).exportHeader "Lib" 0).outcome {}).2

/-- The names of the members of the library class. -/
def members (header : Header) : List String :=
  LibraryClass.memberNames ⟨"Lib", (exported header).callbacks, (exported header).calls⟩

theorem members_functions : (((job functions).exportHeader "Lib" 0).outcome {}).1 = .ok () ∧
    members functions = ["_a_b", "_a", "_a_b"] := by
  constructor <;> cbv

theorem members_numbers : (((job numbers).exportHeader "Lib" 0).outcome {}).1 = .ok () ∧
    members numbers = ["_f_cb0", "_f_cb0", "_f"] := by
  constructor <;> cbv

theorem reaches_among {header : Header} (isHeader : header = functions ∨ header = numbers)
    {node : Node} (reaches : header.Reaches 0 node) :
    node.Among [0, 1, 2, 3] [void, prototype, pointer] := by
  have typeLinks : [void, prototype, pointer].map (fun type => header.links (.type type)) =
      [[], [.type void], [.type prototype]] := rfl
  rcases isHeader with rfl | rfl
  · have declLinks : [0, 1, 2, 3].map (fun id => functions.links (.decl id)) =
        [[.decl 1, .decl 2], [.decl 3, .type void], [.type void], [.type pointer]] := rfl
    exact reaches.among_of_links declLinks typeLinks (by decide) (by simp [Node.Among])
  · have declLinks : [0, 1, 2, 3].map (fun id => numbers.links (.decl id)) =
        [[.decl 1], [.decl 2, .decl 3, .type void], [.type pointer], [.type pointer]] := rfl
    exact reaches.among_of_links declLinks typeLinks (by decide) (by simp [Node.Among])

theorem namesApart {header : Header} (isHeader : header = functions ∨ header = numbers) :
    (job header).NamesApart 0 where
  functions name _ id declares kind := by
    have noDefinition : ∀ id ∈ [0, 1, 2, 3], (header.decl id).kind ≠ .typedef := by
      rcases isHeader with rfl | rfl <;> decide
    exact absurd kind (noDefinition id (reaches_among isHeader declares.1))
  parameters := by
    rcases isHeader with rfl | rfl
    · have inScope : (job functions).childrenInScope 0 (· = .function) = [1, 2] := by cbv
      rw [inScope]
      decide
    · have inScope : (job numbers).childrenInScope 0 (· = .function) = [1] := by cbv
      rw [inScope]
      decide

/-- In both headers members have the same name although functions have different ones, no function
    has the name of a type definition, and the parameters of a function have different names. -/
theorem memberNames_repeated :
    (((job functions).functionNames 0).Nodup ∧ (job functions).NamesApart 0 ∧
      ((job functions).exportHeader "Lib" 0).Succeeds {} () (exported functions) ∧
      ¬ (members functions).Nodup) ∧
    ((job numbers).functionNames 0).Nodup ∧ (job numbers).NamesApart 0 ∧
      ((job numbers).exportHeader "Lib" 0).Succeeds {} () (exported numbers) ∧
      ¬ (members numbers).Nodup := by
  have ofFunctions : (job functions).functionNames 0 = ["a", "a_b"] := by cbv
  have ofNumbers : (job numbers).functionNames 0 = ["f"] := by cbv
  rw [ofFunctions, ofNumbers, members_functions.2, members_numbers.2]
  exact ⟨⟨by decide, namesApart (.inl rfl), .of_fst members_functions.1, by decide⟩,
    by decide, namesApart (.inr rfl), .of_fst members_numbers.1, by decide⟩

end MeetingMembers

end HeaderBindings
