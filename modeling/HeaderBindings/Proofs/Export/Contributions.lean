import HeaderBindings.Proofs.Export.Admissions
import HeaderBindings.Proofs.Export.Wanted

/-!
# What admitted declarations leave behind

A declaration that is admitted leaves in the text and in the library class what its kind says, under
its new name: the class of a structure or enumeration, another name for one, a callback, or nothing.
-/

namespace HeaderBindings

/-- What is related to a list from the right is related to one of its members. -/
theorem exists_of_forall₂_of_mem {α β : Type} {R : α → β → Prop} {left : List α} {right : List β}
    (related : List.Forall₂ R left right) {b : β} (inside : b ∈ right) : ∃ a ∈ left, R a b := by
  induction related with
  | nil => cases inside
  | cons first _ ih =>
    rcases List.mem_cons.mp inside with rfl | later
    · exact ⟨_, List.mem_cons_self, first⟩
    · obtain ⟨a, isMember, relatedTo⟩ := ih later
      exact ⟨a, List.mem_cons_of_mem _ isMember, relatedTo⟩

namespace Item

/-- The name of the type that an item declares; a callback has a second one for its native form. -/
def typeName? : Item → Option String
  | .enumClass _ name _ _ => some name
  | .structClass _ name _ _ => some name
  | .alias name _ _ => some name
  | .callback name _ => some name
  | _ => none

/-- The name and the signatures of a callback. -/
def callback? : Item → Option (String × Binding)
  | .callback name binding => some (name, binding)
  | _ => none

end Item

namespace Progress

/-- Items are added to the text, and the callbacks among them to the library class. -/
structure GrowsBy (s s' : Progress) (added : List Item) : Prop where
  items : s'.items = s.items ++ added
  callbacks : s'.callbacks = s.callbacks ++ added.filterMap Item.callback?

namespace GrowsBy

variable {s s₁ s₂ s' : Progress} {added others : List Item}

theorem nothing (items : s'.items = s.items) (callbacks : s'.callbacks = s.callbacks) :
    s.GrowsBy s' [] where
  items := by rw [items, List.append_nil]
  callbacks := by rw [callbacks, List.filterMap_nil, List.append_nil]

theorem trans (first : s.GrowsBy s₁ added) (second : s₁.GrowsBy s₂ others) :
    s.GrowsBy s₂ (added ++ others) where
  items := by rw [second.items, first.items, List.append_assoc]
  callbacks := by rw [second.callbacks, first.callbacks, List.filterMap_append, List.append_assoc]

theorem before (grows : s₁.GrowsBy s' added) (items : s₁.items = s.items)
    (callbacks : s₁.callbacks = s.callbacks) : s.GrowsBy s' added :=
  (nothing items callbacks).trans grows

/-- An item that is no callback is added. -/
theorem single {item : Item} (items : s'.items = s.items ++ [item])
    (callbacks : s'.callbacks = s.callbacks) (noCallback : item.callback? = none) :
    s.GrowsBy s' [item] where
  items := items
  callbacks := by
    rw [callbacks, List.filterMap_cons_none noCallback, List.filterMap_nil, List.append_nil]

end GrowsBy

end Progress

namespace Header

variable (header : Header)

/-- The prototype of the callback that a declaration defines: it is a type definition of a function
    or of a pointer to one. -/
def definedPrototype? (id : DeclId) : Option CType :=
  match (header.decl id).kind with
  | .typedef => (header.decl id).underlying.bind Job.callbackPrototype?
  | _ => none

/-- A declaration has a name, or it is a type definition of a structure or enumeration with that
    name. -/
def HasName (id : DeclId) (name : String) : Prop :=
  (header.decl id).properName? = some name ∨
    ∃ tag, header.tagOf? id = some tag ∧ (header.decl tag).properName? = some name

/-- Whether a declaration declares a type in the text when it is admitted. -/
def leavesType (id : DeclId) : Bool :=
  (header.tagOf? id).isSome || (header.definedPrototype? id).isSome

end Header

namespace Job

variable (job : Job)

/-- A declaration is renamed to a new name. -/
def IsRenamed (id : DeclId) (newName : String) : Prop :=
  ∃ name, (job.header.decl id).properName? = some name ∧ job.names.apply name = .ok newName

/-- An item of the text declares a type under the new name of a declaration. -/
def IsTypeOf (id : DeclId) (item : Item) : Prop :=
  ∃ newName, item.typeName? = some newName ∧ job.IsRenamed id newName

/-- A callback of the library class is that of a type definition, with its new name and its
    comment. -/
def IsDefinedCallback (id : DeclId) (entry : String × Binding) : Prop :=
  ∃ name prototype given, (job.header.decl id).properName? = some name ∧
    job.names.apply name = .ok entry.1 ∧ job.header.definedPrototype? id = some prototype ∧
    entry.2 = job.header.bindPrototype given prototype (some name) (job.header.decl id).comment

/-- What declarations leave behind when they are admitted: an item for each that leaves a type in the
    text, and among these a callback for each that defines one. -/
structure Leaves (admitted : List DeclId) (items : List Item) : Prop where
  types : List.Forall₂ job.IsTypeOf (admitted.filter job.header.leavesType) items
  definitions : List.Forall₂ job.IsDefinedCallback
    (admitted.filter fun id => (job.header.definedPrototype? id).isSome)
    (items.filterMap Item.callback?)

variable {job} {s s₁ s₂ s' : Progress} {admitted later : List DeclId}

theorem Opens.isRenamed {id : DeclId} {opening : Opening} (opens : job.Opens id s opening s₁) :
    job.IsRenamed id opening.newName := by
  cases opens with
  | tag named fresh renamed | typedef named fresh renamed => exact ⟨_, named, renamed⟩

theorem definedPrototype?_eq {id : DeclId} {underlying : CType}
    (kind : (job.header.decl id).kind = .typedef)
    (names : (job.header.decl id).underlying = some underlying) :
    job.header.definedPrototype? id = callbackPrototype? underlying := by
  simp [Header.definedPrototype?, kind, names]

/-- What is a structure or enumeration, or a type definition of one, defines no callback. -/
theorem definedPrototype?_of_tagOf? {id tag : DeclId} (isTag : job.header.tagOf? id = some tag) :
    job.header.definedPrototype? id = none := by
  unfold Header.definedPrototype?
  split
  case h_1 kind =>
    cases names : (job.header.decl id).underlying with
    | none => rfl
    | some underlying =>
      cases calls : callbackPrototype? underlying with
      | none => simpa using calls
      | some prototype =>
        rw [Header.tagOf?_typedef kind names, (isFunction_of_callbackPrototype? calls).2] at isTag
        cases isTag
  case h_2 => rfl

namespace Leaves

theorem nil : job.Leaves [] [] where
  types := .nil
  definitions := .nil

theorem append {items others : List Item} (first : job.Leaves admitted items)
    (second : job.Leaves later others) : job.Leaves (admitted ++ later) (items ++ others) where
  types := by
    rw [List.filter_append]
    exact List.rel_append first.types second.types
  definitions := by
    rw [List.filter_append, List.filterMap_append]
    exact List.rel_append first.definitions second.definitions

/-- A structure or enumeration, or a type definition of one, leaves its class or another name. -/
theorem tag {id tag : DeclId} {item : Item} {newName : String}
    (isTag : job.header.tagOf? id = some tag) (isName : item.typeName? = some newName)
    (renamed : job.IsRenamed id newName) (noCallback : item.callback? = none) :
    job.Leaves [id] [item] where
  types := by
    have isType : job.IsTypeOf id item := ⟨newName, isName, renamed⟩
    simp [Header.leavesType, isTag, isType]
  definitions := by simp [definedPrototype?_of_tagOf? isTag, noCallback]

theorem nothing {id : DeclId} (noTag : job.header.tagOf? id = none)
    (uncalled : job.header.definedPrototype? id = none) : job.Leaves [id] [] where
  types := by simp [Header.leavesType, noTag, uncalled]
  definitions := by simp [uncalled]

/-- The type definition of a callback leaves the callback. -/
theorem callback {id : DeclId} {name newName : String} {prototype : CType} {given : GivenNames}
    (named : (job.header.decl id).properName? = some name)
    (renamed : job.names.apply name = .ok newName)
    (defines : job.header.definedPrototype? id = some prototype) :
    job.Leaves [id] [.callback newName (job.header.bindPrototype given prototype (some name)
      (job.header.decl id).comment)] where
  types := by
    have isType : job.IsTypeOf id (.callback newName (job.header.bindPrototype given prototype
        (some name) (job.header.decl id).comment)) := ⟨newName, rfl, name, named, renamed⟩
    simp [Header.leavesType, defines, isType]
  definitions := by
    have isCallback : job.IsDefinedCallback id (newName, job.header.bindPrototype given prototype
        (some name) (job.header.decl id).comment) :=
      ⟨name, prototype, given, named, renamed, defines, rfl⟩
    simp [defines, Item.callback?, isCallback]

end Leaves

/-- An export adds what the declarations that it admits leave behind. -/
theorem Admits.leaves {task : Task} (admits : job.Admits task s s' admitted) :
    ∃ items, s.GrowsBy s' items ∧ job.Leaves admitted items := by
  induction admits with
  | done | known => exact ⟨[], .nothing rfl rfl, .nil⟩
  | next named first others ihFirst ihOthers =>
    obtain ⟨items, grows, leaves⟩ := ihFirst
    obtain ⟨others, growsAgain, leavesOthers⟩ := ihOthers
    exact ⟨items ++ others, .trans (grows.before rfl rfl) growsAgain, leaves.append leavesOthers⟩
  | other named fresh renamed kind =>
    refine ⟨[], .nothing rfl rfl, .nothing (tagOf?_of_other kind) ?_⟩
    unfold Header.definedPrototype?
    split
    case h_1 isTypedef => simp [isTypedef, DeclKind.declaresType] at kind
    case h_2 => rfl
  | enumClass opens record exported =>
    exact ⟨[_], .single (congrArg (· ++ _) opens.items) opens.callbacks rfl,
      .tag opens.tagOf? rfl opens.isRenamed rfl⟩
  | structClass opens record inside exported ih =>
    obtain ⟨items, grows, leaves⟩ := ih
    exact ⟨items ++ [_], .trans (grows.before opens.items opens.callbacks) (.single rfl rfl rfl),
      leaves.append (.tag opens.tagOf? rfl opens.isRenamed rfl)⟩
  | otherName named fresh renamed kind names tagged known =>
    exact ⟨[_], .single rfl rfl rfl,
      .tag (Header.tagOf?_of_tagged kind names tagged) rfl ⟨_, named, renamed⟩ rfl⟩
  | callback named fresh renamed kind names untagged calls inside ih =>
    obtain ⟨items, grows, leaves⟩ := ih
    exact ⟨items ++ [.callback _ _], .trans (grows.before rfl rfl) ⟨rfl, rfl⟩,
      leaves.append (.callback named renamed ((definedPrototype?_eq kind names).trans calls))⟩
  | plain named fresh renamed kind names untagged uncalled inside quiet ih =>
    obtain ⟨items, grows, leaves⟩ := ih
    refine ⟨items ++ [], .trans (grows.before rfl rfl) (.nothing rfl rfl),
      leaves.append (.nothing (tagOf?_of_untagged kind names untagged) ?_)⟩
    exact (definedPrototype?_eq kind names).trans uncalled

/-- An export admits members of a set only, if it is among them and exports do not lead out. -/
theorem Admits.among {members : DeclId → Prop} (closed : job.ClosedUnderExport members) {task : Task}
    (admits : job.Admits task s s' admitted) : task.Among members → ∀ id ∈ admitted, members id := by
  have around : ∀ {id : DeclId} {inside : List DeclId}, (∀ other ∈ inside, members other) →
      members id → ∀ other ∈ inside ++ [id], members other :=
    fun others own => List.forall_mem_append.mpr ⟨others, List.forall_mem_singleton.mpr own⟩
  induction admits with
  | done | known => exact fun _ => nofun
  | next named first others ihFirst ihOthers =>
    intro among
    refine List.forall_mem_append.mpr ⟨ihFirst (among _ List.mem_cons_self), ihOthers ?_⟩
    exact fun _ isMention => among _ (List.mem_cons_of_mem _ isMention)
  | other | enumClass | otherName => exact fun member => List.forall_mem_singleton.mpr member
  | structClass opens record _ _ ih =>
    exact fun member => around (ih (opens.among_fields closed member record)) member
  | callback _ _ _ kind names untagged calls _ ih =>
    exact fun member => around (ih (closed.callback member kind names untagged calls)) member
  | plain _ _ _ kind names untagged uncalled _ _ ih =>
    exact fun member => around (ih (closed.uncalled member kind names untagged uncalled)) member

theorem hasName_of_marked {id : DeclId} {own name : String} {names : List String}
    (named : (job.header.decl id).properName? = some own) (marked : name ∈ own :: names) :
    name ∈ names ∨ job.header.HasName id name := by
  rcases List.mem_cons.mp marked with rfl | before
  · exact .inr (.inl named)
  · exact .inl before

theorem Opens.hasName {id : DeclId} {opening : Opening} (opens : job.Opens id s opening s₁)
    {name : String} (marked : name ∈ s₁.exported) :
    name ∈ s.exported ∨ job.header.HasName id name := by
  rcases opens.mem_exported.mp marked with before | named | named
  · exact .inl before
  · exact .inr (.inl named)
  · exact .inr (.inr ⟨_, opens.tagOf?, named⟩)

/-- Every name that an export marks is one of a declaration that it admits. -/
theorem Admits.hasName {task : Task} (admits : job.Admits task s s' admitted) :
    ∀ name ∈ s'.exported,
      name ∈ s.exported ∨ ∃ id ∈ admitted, job.header.HasName id name := by
  induction admits with
  | done | known => exact fun _ => .inl
  | next named first others ihFirst ihOthers =>
    intro name marked
    rcases ihOthers name marked with before | ⟨id, inside, hasName⟩
    · rcases ihFirst name before with before | ⟨id, inside, hasName⟩
      · exact .inl before
      · exact .inr ⟨id, List.mem_append_left _ inside, hasName⟩
    · exact .inr ⟨id, List.mem_append_right _ inside, hasName⟩
  | other named | otherName named =>
    intro name marked
    exact (hasName_of_marked named marked).imp_right fun hasName => ⟨_, by simp, hasName⟩
  | enumClass opens =>
    intro name marked
    exact (opens.hasName marked).imp_right fun hasName => ⟨_, by simp, hasName⟩
  | structClass opens record inside exported ih =>
    intro name marked
    rcases ih name marked with before | ⟨id, inside, hasName⟩
    · exact (opens.hasName before).imp_right fun hasName => ⟨_, by simp, hasName⟩
    · exact .inr ⟨id, List.mem_append_left _ inside, hasName⟩
  | callback named fresh renamed kind names untagged calls inside ih
  | plain named fresh renamed kind names untagged uncalled inside quiet ih =>
    intro name marked
    rcases ih name marked with before | ⟨id, inside, hasName⟩
    · exact (hasName_of_marked named before).imp_right fun hasName => ⟨_, by simp, hasName⟩
    · exact .inr ⟨id, List.mem_append_left _ inside, hasName⟩

end Job

end HeaderBindings
