import HeaderBindings.Proofs.Export.Callbacks
import HeaderBindings.Proofs.Export.Lookups
import HeaderBindings.Proofs.Resolution.NativeForms

/-!
# The fields of callbacks

A parameter that points to a function is resolved twice: its prototype alone, for the field of the
callback, and the whole type for its function, after the later parameters were exported. Both come
to the same type, for the names that the prototype looks up are marked before the first time, and a
marked name keeps the name that it was given, or stays without one.
-/

namespace HeaderBindings

namespace Signature

/-- The type of a pointer to a function with a signature. -/
def pointerType (signature : Signature) : DartType :=
  .pointer (.nativeFunction signature.result (signature.parameters.map (·.type)))

theorem pointer_frame (result parameters : String) :
    "Pointer<" ++ ("NativeFunction<" ++ result ++ " Function(" ++ parameters ++ ")>") ++ ">" =
      "Pointer<NativeFunction<" ++ (result ++ " Function(" ++ parameters ++ ")") ++ ">>" := by
  rw [show "Pointer<NativeFunction<" = "Pointer<" ++ "NativeFunction<" from rfl,
    show ")>" = ")" ++ ">" from rfl, show ">>" = ">" ++ ">" from rfl]
  simp only [String.append_assoc]

/-- The text of a signature without names of parameters stands inside the pointer to it. -/
theorem text_pointerType {signature : Signature}
    (unnamed : ∀ parameter ∈ signature.parameters, parameter.name = none) :
    signature.pointerType.text = "Pointer<NativeFunction<" ++ signature.text ++ ">>" := by
  have parameters : DartType.texts (signature.parameters.map (·.type)) =
      signature.parameters.map (·.text) := by
    rw [DartType.texts_eq_map, List.map_map]
    refine List.map_congr_left fun parameter inside => ?_
    rw [Function.comp_apply, Parameter.text, unnamed parameter inside]
  calc signature.pointerType.text
      = "Pointer<" ++ ("NativeFunction<" ++ signature.result.text ++ " Function(" ++
          ", ".intercalate (DartType.texts (signature.parameters.map (·.type))) ++ ")>") ++ ">" :=
        rfl
    _ = "Pointer<NativeFunction<" ++ (signature.result.text ++ " Function(" ++
          ", ".intercalate (DartType.texts (signature.parameters.map (·.type))) ++ ")") ++ ">>" :=
        pointer_frame _ _
    _ = "Pointer<NativeFunction<" ++ signature.text ++ ">>" := by
        rw [parameters, Signature.text, Signature.parameterText]

end Signature

namespace Header

variable {header : Header} {given other : GivenNames}

theorem text_pointerType_bindPrototype (prototype : CType) (name comment : Option String) :
    (header.bindPrototype given prototype name comment).native.pointerType.text =
      "Pointer<NativeFunction<" ++
        (header.bindPrototype given prototype name comment).native.text ++ ">>" := by
  refine Signature.text_pointerType fun parameter inside => ?_
  obtain ⟨type, -, rfl⟩ := List.mem_map.mp inside
  rfl

/-- A canonical prototype has the same signatures under given names that agree on its mentions. -/
theorem bindPrototype_of_mentions {prototype : CType} (isCanonical : prototype.IsCanonical)
    (same : ∀ mention ∈ header.prototypeMentions prototype,
      given.find? mention.name = other.find? mention.name) (name comment : Option String) :
    header.bindPrototype given prototype name comment =
      header.bindPrototype other prototype name comment := by
  refine bindPrototype_congr (fun native part inside => ?_) name comment
  have isPart : prototype.result = some part ∨ part ∈ prototype.arguments := by
    simpa using inside
  have canonicalPart : part.IsCanonical :=
    isCanonical.part (isPart.elim CType.mem_parts_result CType.mem_parts_argument)
  refine resolve_of_lookups native fun looked looks => ?_
  obtain ⟨mention, isMention, rfl⟩ := exists_mention_of_looksUp canonicalPart looks
  exact same mention (header.mem_prototypeMentions.mpr ⟨part, isPart, isMention⟩)

theorem scalar?_of_pointer {type : CType} (kind : type.canonical.kind = .pointer) :
    header.scalar? type = none := by
  simp [scalar?, kind]

theorem scalar?_of_function {type : CType} (kind : type.canonical.kind.isFunction = true) :
    header.scalar? type = none := by
  unfold scalar?
  cases own : type.canonical.kind <;> simp_all [TypeKind.isFunction]

theorem resolve_function (native : Bool) {type : CType}
    (kind : type.canonical.kind.isFunction = true) :
    header.resolve given native type =
      .nativeFunction (header.resolveResult given true type.canonical.result)
        (type.canonical.arguments.map (header.resolve given true)) := by
  have result : ∀ own : Option CType, (own.map (header.resolve given true)).getD (.native .void) =
      header.resolveResult given true own := by
    intro own
    cases own <;> rfl
  rw [resolve_eq]
  unfold assemble
  rw [scalar?_of_function kind]
  cases own : type.canonical.kind with
  | function | functionNoParameters => simp only [result]
  | _ =>
    rw [own] at kind
    cases kind

/-- A type that points to a function, canonically and by a pointee of its own if it has one, resolves
    to the pointer to the native signature of the prototype. -/
theorem resolve_functionPointer (native : Bool) {type prototype : CType}
    (points : type.functionPointee? = some prototype)
    (ownPointee : ∀ pointee, type.pointee = some pointee → pointee.canonical = prototype) :
    header.resolve given native type =
      (header.prototypeSignature given true prototype).pointerType := by
  obtain ⟨kind, isFunction, canonicalPointee, canonicalPoints, same⟩ :=
    CType.functionPointee?_eq_some points
  obtain ⟨pointee, chosen, isPrototype⟩ : ∃ pointee,
      type.pointee.or type.canonical.pointee = some pointee ∧ pointee.canonical = prototype := by
    cases own : type.pointee with
    | none => exact ⟨canonicalPointee, by simp [canonicalPoints], same⟩
    | some pointee => exact ⟨pointee, rfl, ownPointee pointee own⟩
  subst isPrototype
  rw [resolve_eq]
  unfold assemble
  simp only [scalar?_of_pointer kind, kind, chosen, Option.map_some, resolve_function true isFunction,
    Signature.pointerType, prototypeSignature, List.map_map, Function.comp_def]

end Header

namespace Progress

/-- Marked names stay marked and keep what they were given. No function is added, and of the
    callbacks that are added those of parameters, which have no name of their own, are `entries`. -/
structure AddsOfParameters (s s₁ : Progress) (entries : List (String × Binding)) : Prop where
  exported : ∀ name ∈ s.exported, name ∈ s₁.exported
  given : ∀ name ∈ s.exported, s₁.given.find? name = s.given.find? name
  calls : s₁.calls = s.calls
  callbacks : ∃ added, s₁.callbacks = s.callbacks ++ added ∧
    added.filter (fun entry => entry.2.name.isNone) = entries

namespace AddsOfParameters

variable {s s₁ s₂ : Progress} {entries others : List (String × Binding)}

theorem refl (s : Progress) : s.AddsOfParameters s [] where
  exported _ marked := marked
  given _ _ := rfl
  calls := rfl
  callbacks := ⟨[], (List.append_nil _).symm, rfl⟩

theorem trans (first : s.AddsOfParameters s₁ entries) (second : s₁.AddsOfParameters s₂ others) :
    s.AddsOfParameters s₂ (entries ++ others) where
  exported name marked := second.exported name (first.exported name marked)
  given name marked :=
    (second.given name (first.exported name marked)).trans (first.given name marked)
  calls := second.calls.trans first.calls
  callbacks := by
    obtain ⟨added, grows, rfl⟩ := first.callbacks
    obtain ⟨more, growsAgain, rfl⟩ := second.callbacks
    refine ⟨added ++ more, ?_, List.filter_append _ _⟩
    rw [growsAgain, grows, List.append_assoc]

theorem before {log : List Log.Record} {bound : List String}
    (adds : AddsOfParameters { s with log, bound } s₁ entries) : s.AddsOfParameters s₁ entries :=
  ⟨adds.exported, adds.given, adds.calls, adds.callbacks⟩

theorem calledBack (s : Progress) (name : String) {binding : Binding}
    (unnamed : binding.name = none) :
    s.AddsOfParameters (s.calledBack name binding) [(name, binding)] where
  exported _ marked := marked
  given _ _ := rfl
  calls := rfl
  callbacks := ⟨_, rfl, by simp [unnamed]⟩

end AddsOfParameters

end Progress

namespace Job

variable {job : Job} {s s₁ s' : Progress} {admitted : List DeclId}

theorem name_ne_none_of_areDefinedCallbacks {ids : List DeclId} {entries : List (String × Binding)}
    (areCallbacks : List.Forall₂ job.IsDefinedCallback ids entries) :
    ∀ entry ∈ entries, entry.2.name ≠ none := by
  induction areCallbacks with
  | nil => exact fun _ => nofun
  | cons isCallback _ ih =>
    obtain ⟨name, prototype, given, -, -, -, binds⟩ := isCallback
    exact List.forall_mem_cons.mpr ⟨by simp [binds, Header.bindPrototype], ih⟩

/-- An export adds no callback of a parameter. -/
theorem Admits.addsOfParameters {task : Task} (admits : job.Admits task s s' admitted) :
    s.AddsOfParameters s' [] where
  exported := admits.exports.exported
  given := admits.exports.given_of_marked
  calls := admits.exports.keepsMembers.calls
  callbacks := by
    obtain ⟨items, grows, leaves⟩ := admits.leaves
    refine ⟨_, grows.callbacks, List.filter_eq_nil_iff.mpr fun entry inside => ?_⟩
    simpa using name_ne_none_of_areDefinedCallbacks leaves.definitions entry inside

/-- What one action does. -/
def Action.Does (job : Job) : Action → Progress → Progress → Prop
  | .task asked, s, s' => ∃ admitted, job.Admits asked s s' admitted
  | .callback parameter, s, s' => ∃ newName, job.names.apply parameter.function = .ok newName ∧
      s' = s.calledBack (newName ++ "_" ++ parameter.label)
        (job.header.bindPrototype s.given parameter.prototype none none)
  | .call id, s, s' => ∃ newName binding,
      job.names.apply ((job.header.decl id).name.getD "") = .ok newName ∧
      job.header.bindFunction s.given (job.header.decl id) = .ok binding ∧
      s' = { s with calls := s.calls ++ [(newName, binding)] }

/-- Actions are taken by taking the first one, and then the others. -/
theorem Takes.uncons {action : Action} {actions : List Action}
    (takes : job.Takes (action :: actions) s s' admitted) : ∃ log bound s₁ later,
      action.Does job { s with log, bound } s₁ ∧ job.Takes actions s₁ s' later := by
  generalize whole : action :: actions = list at takes
  induction takes with
  | nil => cases whole
  | quietly log bound _ ih =>
    obtain ⟨log, bound, s₁, later, does, rest⟩ := ih whole
    exact ⟨log, bound, s₁, later, does, rest⟩
  | @task _ _ s _ _ _ _ first rest =>
    cases whole
    exact ⟨s.log, s.bound, _, _, ⟨_, first⟩, rest⟩
  | @callback _ _ _ s _ _ renamed rest =>
    cases whole
    exact ⟨s.log, s.bound, _, _, ⟨_, renamed, rfl⟩, rest⟩
  | @call _ _ _ _ s _ _ renamed binds rest =>
    cases whole
    exact ⟨s.log, s.bound, _, _, ⟨_, _, renamed, binds, rfl⟩, rest⟩

theorem Takes.unnil (takes : job.Takes [] s s' admitted) :
    s'.calls = s.calls ∧ s'.callbacks = s.callbacks := by
  generalize whole : [] = list at takes
  induction takes with
  | nil => exact ⟨rfl, rfl⟩
  | quietly _ _ _ ih => exact ih whole
  | task | callback | call => cases whole

/-- The callback of the library class for a parameter, under given names. -/
def parameterEntry (job : Job) (newName : String) (given : GivenNames)
    (parameter : CallbackParameter) : String × Binding :=
  (newName ++ "_" ++ parameter.label,
    job.header.bindPrototype given parameter.prototype none none)

/-- The callbacks of the parameters of a function are what their prototypes come to under the names
    that are given when all parameters are done. -/
theorem adds_of_argumentActions {function newName : String}
    (renamed : job.names.apply function = .ok newName) {before arguments : List Decl}
    {actions : List Action}
    (canonical : ∀ argument ∈ arguments, ∀ prototype, argument.functionPointee? = some prototype →
      prototype.IsCanonical)
    (takes : job.Takes (job.argumentActions function before arguments ++ actions) s s' admitted) :
    ∃ s₁ later, job.Takes actions s₁ s' later ∧ s.AddsOfParameters s₁
      ((callbacksAmong function before arguments).map (job.parameterEntry newName s₁.given)) := by
  induction arguments generalizing s before admitted with
  | nil => exact ⟨s, _, takes, .refl s⟩
  | cons argument rest ih =>
    have canonicalRest := fun other inside => canonical other (List.mem_cons_of_mem _ inside)
    rw [argumentActions, List.append_assoc, List.append_assoc] at takes
    rw [callbacksAmong]
    cases own : argument.type with
    | none =>
      have noCallback : argument.functionPointee? = none := by
        rw [Decl.functionPointee?, own, Option.bind_none]
      simp only [own, Decl.callbackParameter?, noCallback] at takes ⊢
      exact ih canonicalRest takes
    | some type =>
      have ofType : type.functionPointee? = argument.functionPointee? := by
        rw [Decl.functionPointee?, own, Option.bind_some]
      cases calls : argument.functionPointee? with
      | none =>
        simp only [own, Decl.callbackParameter?, calls, Option.toList_some, Option.map_none,
          Option.toList_none, List.map_cons, List.map_nil, List.cons_append, List.nil_append]
          at takes ⊢
        obtain ⟨log, bound, s₁, later, ⟨_, admits⟩, takesRest⟩ := takes.uncons
        obtain ⟨s₂, later, takesMore, adds⟩ := ih canonicalRest takesRest
        exact ⟨s₂, later, takesMore, (admits.addsOfParameters.trans adds).before⟩
      | some prototype =>
        simp only [own, argumentTask, ofType, Decl.callbackParameter?, calls, Option.toList_some,
          Option.map_some, List.map_cons, List.map_nil, List.cons_append, List.nil_append]
          at takes ⊢
        obtain ⟨log, bound, s₁, later, ⟨_, admits⟩, takesCallback⟩ := takes.uncons
        obtain ⟨log₁, bound₁, s₂, later, ⟨sameName, renamedAgain, rfl⟩, takesRest⟩ :=
          takesCallback.uncons
        obtain rfl : newName = sameName := by
          rw [renamed] at renamedAgain
          exact Except.ok.inj renamedAgain
        obtain ⟨s₃, later, takesMore, adds⟩ := ih canonicalRest takesRest
        have settled : job.header.bindPrototype s₃.given prototype none none =
            job.header.bindPrototype s₁.given prototype none none :=
          Header.bindPrototype_of_mentions (canonical argument List.mem_cons_self prototype calls)
            (fun mention inside => adds.given _ (admits.exports.covers mention inside)) none none
        refine ⟨s₃, later, takesMore, ?_⟩
        rw [show job.parameterEntry newName s₃.given _ = _ from congrArg (Prod.mk _) settled]
        exact (admits.addsOfParameters.trans
          (((Progress.AddsOfParameters.calledBack _ _ rfl).trans adds).before)).before

/-- The parameters that point to functions, with their places among all parameters. -/
def callbackPlaces (arguments : List Decl) : List (Decl × Nat) :=
  arguments.zipIdx.filter fun place => place.1.functionPointee?.isSome

theorem callbacksAmong_eq_filterMap {function : String} {before arguments : List Decl} :
    callbacksAmong function before arguments =
      (arguments.zipIdx before.length).filterMap fun place =>
        place.1.callbackParameter? function ((before ++ arguments).take place.2) := by
  induction arguments generalizing before with
  | nil => rfl
  | cons argument rest ih =>
    have later := @ih (before ++ [argument])
    rw [List.append_assoc, List.singleton_append, List.length_append, List.length_singleton]
      at later
    rw [callbacksAmong, later, List.zipIdx_cons, List.filterMap_cons, List.take_left' rfl]
    cases argument.callbackParameter? function before <;> rfl

/-- The field of a callback, for the parameter at a place of a function: it has the name of that, and
    its type in both signatures of the function is a pointer to the callback. -/
structure IsFieldOf (newName : String) (call : Binding) (arguments : List Decl)
    (place : Decl × Nat) (entry : String × Binding) : Prop where
  name : entry.1 = newName ++ "_" ++ place.1.callbackLabel (arguments.take place.2)
  native : (call.native.parameters[place.2]?).map (·.type.text) =
    some ("Pointer<NativeFunction<" ++ entry.2.native.text ++ ">>")
  logical : (call.logical.parameters[place.2]?).map (·.type.text) =
    some ("Pointer<NativeFunction<" ++ entry.2.native.text ++ ">>")

theorem forall₂_filterMap {α β : Type} {holds : α → Prop} {give : α → Option β} {list : List α}
    (all : ∀ x ∈ list, holds x) :
    List.Forall₂ (fun x y => holds x ∧ give x = some y) (list.filter fun x => (give x).isSome)
      (list.filterMap give) := by
  induction list with
  | nil => exact .nil
  | cons x rest ih =>
    have below := ih fun y inside => all y (List.mem_cons_of_mem _ inside)
    cases given : give x with
    | none => simpa [given] using below
    | some y => simpa [given] using ⟨all x List.mem_cons_self, below⟩

/-- The callbacks among parameters are those at their places. -/
theorem callbackPlaces_forall₂ (function : String) (arguments : List Decl) :
    List.Forall₂ (fun place parameter => arguments[place.2]? = some place.1 ∧
        place.1.callbackParameter? function (arguments.take place.2) = some parameter)
      (callbackPlaces arguments) (callbacksAmong function [] arguments) := by
  have places : callbackPlaces arguments = arguments.zipIdx.filter fun place =>
      (place.1.callbackParameter? function (arguments.take place.2)).isSome :=
    List.filter_congr fun place _ => (Option.isSome_map).symm
  rw [places, callbacksAmong_eq_filterMap]
  exact forall₂_filterMap fun place inside => List.mem_zipIdx_iff_getElem?.mp inside

/-- The field of a callback, from what binding its function comes to under the same names. -/
theorem isFieldOf_parameterEntry {decl : Decl} {newName function : String} {given : GivenNames}
    {call : Binding} {place : Decl × Nat} {parameter : CallbackParameter}
    (bound : job.header.bindFunction given decl = .ok call)
    (isArgument : (job.header.argumentsOf decl)[place.2]? = some place.1)
    (isCallback : place.1.callbackParameter? function
      ((job.header.argumentsOf decl).take place.2) = some parameter)
    (pointees : ∀ type prototype pointee, place.1.type = some type →
      type.functionPointee? = some prototype → type.pointee = some pointee →
        pointee.canonical = prototype) :
    IsFieldOf newName call (job.header.argumentsOf decl) place
      (job.parameterEntry newName given parameter) := by
  obtain ⟨prototype, points, rfl⟩ := Option.map_eq_some_iff.mp isCallback
  obtain ⟨type, own, points⟩ := Option.bind_eq_some_iff.mp points
  obtain ⟨native, logical⟩ := Header.parameters_of_bindFunction bound
  have inPlace : ((job.header.argumentsOf decl).map fun argument =>
      (argument.type, argument.properName?))[place.2]? = some (some type, place.1.properName?) := by
    rw [List.getElem?_map, isArgument, Option.map_some, own]
  have resolves : ∀ native, (job.header.resolve given native type).text =
      "Pointer<NativeFunction<" ++ (job.header.bindPrototype given prototype none none).native.text ++
        ">>" := by
    intro native
    rw [Header.resolve_functionPointer native points fun pointee isPointee =>
      pointees type prototype pointee own points isPointee]
    exact Header.text_pointerType_bindPrototype prototype none none
  constructor
  case name => rfl
  case native =>
    rw [native.inPlace inPlace, Option.map_some, resolves]
    rfl
  case logical =>
    rw [logical.inPlace inPlace, Option.map_some, resolves]
    rfl

theorem exists_newName_of_functionActions {id : DeclId}
    (takes : job.Takes (job.functionActions id) s s' admitted) :
    ∃ newName, job.names.apply ((job.header.decl id).name.getD "") = .ok newName := by
  obtain ⟨members, -, decls, binds⟩ := takes.calls
  rw [filterMap_call?_functionActions] at decls
  obtain ⟨member, rfl, isDecl⟩ := List.map_eq_singleton_iff.mp decls
  have bindsMember := binds member (List.mem_singleton_self member)
  rw [← isDecl, bindsMember.name]
  exact ⟨_, bindsMember.renamed⟩

/-- The actions of a function, taken one after another: its callbacks are added with what their
    prototypes come to under the names that are given when the function is bound. -/
theorem adds_of_functionActions {id : DeclId} {newName : String}
    (renamed : job.names.apply ((job.header.decl id).name.getD "") = .ok newName)
    (canonical : ∀ argument ∈ job.header.argumentsOf (job.header.decl id), ∀ prototype,
      argument.functionPointee? = some prototype → prototype.IsCanonical)
    (takes : job.Takes (job.functionActions id) s s' admitted) :
    ∃ s₁ call, s.AddsOfParameters s₁ ((callbacksAmong ((job.header.decl id).name.getD "") []
        (job.header.argumentsOf (job.header.decl id))).map (job.parameterEntry newName s₁.given)) ∧
      job.header.bindFunction s₁.given (job.header.decl id) = .ok call ∧
      s'.calls = s₁.calls ++ [(newName, call)] ∧ s'.callbacks = s₁.callbacks := by
  obtain ⟨s₀, later, starts, takesArguments⟩ : ∃ s₀ later, s.AddsOfParameters s₀ [] ∧
      job.Takes (job.argumentActions ((job.header.decl id).name.getD "") []
        (job.header.argumentsOf (job.header.decl id)) ++ [.call id]) s₀ s' later := by
    rw [functionActions, List.append_assoc] at takes
    cases result : (job.header.decl id).resultType with
    | none =>
      rw [result] at takes
      exact ⟨s, _, .refl s, takes⟩
    | some type =>
      rw [result] at takes
      obtain ⟨log, bound, s₀, later, ⟨_, admits⟩, rest⟩ := takes.uncons
      exact ⟨s₀, later, admits.addsOfParameters.before, rest⟩
  obtain ⟨s₁, later, takesCall, adds⟩ :=
    adds_of_argumentActions renamed canonical takesArguments
  obtain ⟨log, bound, s₂, later, ⟨sameName, call, renamedAgain, binds, rfl⟩, ends⟩ :=
    takesCall.uncons
  obtain rfl : newName = sameName := by
    rw [renamed] at renamedAgain
    exact Except.ok.inj renamedAgain
  exact ⟨s₁, call, starts.trans adds, binds, ends.unnil⟩

/-- However far an export has come, binding a function that is not bound yet adds one function, and a
    callback for each of its parameters that point to functions, in their order. The field of the
    callback has the type that the parameter has in both signatures of the function. It is asked of
    the types of the parameters that their canonical forms are canonical all the way down, and of
    those that point to functions that a pointee of their own is the same prototype canonically. -/
theorem callbackFields_match {id : DeclId} {name : String}
    (named : (job.header.decl id).name = some name) (fresh : name ∉ s.bound)
    (canonical : ∀ argument ∈ job.header.argumentsOf (job.header.decl id), ∀ type,
      argument.type = some type → type.canonical.IsCanonical)
    (pointees : ∀ argument ∈ job.header.argumentsOf (job.header.decl id),
      ∀ type prototype pointee, argument.type = some type →
        type.functionPointee? = some prototype → type.pointee = some pointee →
          pointee.canonical = prototype)
    (run : (job.bindFunction (job.header.decl id)).Succeeds s () s') :
    ∃ newName call added, job.names.apply name = .ok newName ∧
      s'.calls = s.calls ++ [(newName, call)] ∧ s'.callbacks = s.callbacks ++ added ∧
      List.Forall₂ (IsFieldOf newName call (job.header.argumentsOf (job.header.decl id)))
        (callbackPlaces (job.header.argumentsOf (job.header.decl id)))
        (added.filter fun entry => entry.2.name.isNone) := by
  have takes := takes_of_bindFunction named run
  have proper : (job.header.decl id).name.getD "" = name := by rw [named, Option.getD_some]
  rw [if_neg fresh] at takes
  obtain ⟨admitted, takes, -⟩ := takes
  have canonicalPrototype : ∀ argument ∈ job.header.argumentsOf (job.header.decl id), ∀ prototype,
      argument.functionPointee? = some prototype → prototype.IsCanonical := by
    intro argument isArgument prototype points
    obtain ⟨type, own, points⟩ := Option.bind_eq_some_iff.mp points
    obtain ⟨-, -, pointee, isPointee, rfl⟩ := CType.functionPointee?_eq_some points
    have isCanonical :=
      (canonical argument isArgument type own).part (CType.mem_parts_pointee isPointee)
    rw [isCanonical.canonical_eq]
    exact isCanonical
  obtain ⟨newName, renamed⟩ := exists_newName_of_functionActions takes
  obtain ⟨s₁, call, adds, bound, calls, callbacks⟩ :=
    adds_of_functionActions renamed canonicalPrototype takes
  rw [proper] at renamed
  obtain ⟨added, grows, ofParameters⟩ := adds.callbacks
  refine ⟨newName, call, added, renamed, by rw [calls, adds.calls], by rw [callbacks, grows], ?_⟩
  rw [ofParameters, List.forall₂_map_right_iff]
  refine (callbackPlaces_forall₂ _ _).imp fun place parameter ⟨isArgument, isCallback⟩ => ?_
  exact isFieldOf_parameterEntry bound isArgument isCallback
    (pointees place.1 (List.mem_of_getElem? isArgument))

end Job

namespace NestedCallbacks

/-- The progress after `g` was bound. -/
def boundBefore : Progress :=
  ((job.bindFunction (job.header.decl 2)).outcome {}).2

/-- The progress after `f` was bound, too. -/
def boundAfter : Progress :=
  ((job.bindFunction (job.header.decl 1)).outcome boundBefore).2

theorem binds : (job.bindFunction (job.header.decl 1)).Succeeds boundBefore () boundAfter := by
  refine .of_fst ?_
  cbv

theorem isCanonical_pointer : pointer.IsCanonical := by
  have isCanonical : void.IsCanonical := .intro rfl (by simp [void, CType.parts])
  have isCanonical : plain.IsCanonical := .intro rfl (by simpa [plain, CType.parts] using isCanonical)
  exact .intro rfl (by simpa [pointer, CType.parts] using isCanonical)

theorem isCanonical_prototypePointer : prototypePointer.IsCanonical := by
  have result : void.IsCanonical := .intro rfl (by simp [void, CType.parts])
  have record : record.IsCanonical := .intro rfl (by simp [record, CType.parts])
  have parameter : pointerS.IsCanonical :=
    .intro rfl (by simpa [pointerS, CType.parts] using record)
  have isCanonical : prototype.IsCanonical :=
    .intro rfl (by simpa [prototype, CType.parts] using ⟨result, parameter⟩)
  exact .intro rfl (by simpa [prototypePointer, CType.parts] using isCanonical)

theorem listener_fields : "f" ∉ boundBefore.bound ∧ ∃ newName call added,
    job.names.apply "f" = .ok newName ∧ boundAfter.calls = boundBefore.calls ++ [(newName, call)] ∧
      boundAfter.callbacks = boundBefore.callbacks ++ added ∧
      List.Forall₂ (Job.IsFieldOf newName call (header.argumentsOf (header.decl 1)))
        (Job.callbackPlaces (header.argumentsOf (header.decl 1)))
        (added.filter fun entry => entry.2.name.isNone) := by
  have bound : boundBefore.bound = ["g"] := by cbv
  have fresh : "f" ∉ boundBefore.bound := by simp [bound]
  have arguments : ∀ argument ∈ header.argumentsOf (header.decl 1), argument.type = some callback ∨
      argument.type = some pointer := by
    simp [Header.argumentsOf, Header.decl, header]
  refine ⟨fresh, Job.callbackFields_match rfl fresh ?_ ?_ binds⟩
  · intro argument isArgument type own
    rcases arguments argument isArgument with known | known
    · cases known.symm.trans own
      exact isCanonical_prototypePointer
    · cases known.symm.trans own
      exact isCanonical_pointer
  · intro argument isArgument type prototype pointee own points isPointee
    rcases arguments argument isArgument with known | known
    · cases known.symm.trans own
      cases isPointee
    · cases known.symm.trans own
      cases isPointee
      cases points
      rfl

end NestedCallbacks

end HeaderBindings
