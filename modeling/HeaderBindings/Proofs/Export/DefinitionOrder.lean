import HeaderBindings.Proofs.Export.Items
import HeaderBindings.Proofs.Header.Uses

/-!
# Definitions before uses

What a declaration uses is exported before the item is written that the declaration comes to. If no
declaration comes to use itself, nothing that an item refers to is still open then, so its class
stands in the text before the item.
-/

namespace HeaderBindings

/-- Items declare a structure or enumeration under a name: they have its class, and the name is that
    of the class or another name for it. -/
def DeclaresTag (items : List Item) (tag : DeclId) (name : String) : Prop :=
  ∃ className, (∃ item ∈ items, item.classOf? = some (tag, className)) ∧
    (name = className ∨ ∃ comment, Item.alias name className comment ∈ items)

/-- Every structure that the resolution of a type comes to is called by a given name, and items
    declare it under that name. -/
def Header.RecordsDeclared (header : Header) (given : GivenNames) (items : List Item)
    (type : CType) : Prop :=
  ∀ inside ∈ header.visited type, inside.canonical.kind = .record →
    ∃ tag name, inside.canonical.declaration = some tag ∧
      header.recordName given inside = .given name ∧ DeclaresTag items tag name

theorem Header.RecordsDeclared.of_entries {header : Header} {given other : GivenNames}
    {items : List Item} {type : CType} (declared : header.RecordsDeclared given items type)
    (entries : ∀ {name newName : String}, given.find? name = some newName →
      other.find? name = some newName) : header.RecordsDeclared other items type := by
  intro inside isVisited kind
  obtain ⟨tag, name, isTag, isGiven, declares⟩ := declared inside isVisited kind
  refine ⟨tag, name, isTag, ?_, declares⟩
  unfold recordName at isGiven ⊢
  split at isGiven
  · cases isGiven
  · split at isGiven
    case h_2 => cases isGiven
    case h_1 known => rw [entries known, ← isGiven]

theorem DeclaresTag.declaredIn {items : List Item} {tag : DeclId} {name : String}
    (declares : DeclaresTag items tag name) : DeclaredIn items name := by
  obtain ⟨className, ⟨item, inside, isClass⟩, rfl | ⟨comment, isAlias⟩⟩ := declares
  · exact .inl ⟨item, inside, tag, isClass⟩
  · exact .inr ⟨className, comment, isAlias⟩

namespace Job

variable (job : Job) (root : DeclId)

/-- An item is what its declaration comes to under given names, and what it refers to stands among
    the items before it: the classes of the structures in the types that it is made of, and the
    class that it is another name for. -/
structure UsesDeclared (given : GivenNames) (before : List Item) (item : Item) : Prop where
  describes : job.Describes root given item
  records : ∀ type, job.MadeOf root type item → job.header.RecordsDeclared given before type
  target : ∀ name className comment, item = .alias name className comment →
    ∃ id tag own, job.header.DeclaresType root id ∧ job.header.typedefTarget? id = some tag ∧
      (job.header.decl id).properName? = some own ∧ job.names.apply own = .ok name ∧
      ∃ other ∈ before, other.classOf? = some (tag, className)

/-- What each item refers to stands before it. -/
def Ordered (s : Progress) : Prop :=
  ∀ before item after, s.items = before ++ item :: after →
    job.UsesDeclared root s.given before item

/-- Every class that was recorded has been written, except for those of open declarations. -/
def WrittenExcept (isOpen : DeclId → Prop) (s : Progress) : Prop :=
  ∀ tag className, s.classes.find? tag = some className →
    isOpen tag ∨ ∃ item ∈ s.items, item.classOf? = some (tag, className)

/-- A declaration uses, directly or through others, all that a task asks for. -/
def Task.UsedBy (header : Header) (id : DeclId) : Task → Prop
  | .decl other => Relation.TransGen header.Uses id other
  | .mentions list => ∀ mention ∈ list, Relation.TransGen header.Uses id mention.decl

variable {job root} {s s₁ s' : Progress} {isOpen : DeclId → Prop}

namespace UsesDeclared

variable {given : GivenNames} {before : List Item} {item : Item}
  (uses : job.UsesDeclared root given before item)

include uses

/-- An item refers to structures only by names that are declared before it. -/
theorem refersTo : RefersTo before item.references := by
  intro reference inside
  obtain ⟨type, madeOf, -, refers⟩ := uses.describes.exists_madeOf inside
  obtain ⟨part, isVisited, kind, rfl⟩ := (Header.mem_references_resolve true type).mp refers
  obtain ⟨tag, name, -, isGiven, declares⟩ := uses.records type madeOf part isVisited kind
  exact ⟨name, isGiven, declares.declaredIn⟩

theorem of_entries {other : GivenNames}
    (entries : ∀ {name newName : String}, given.find? name = some newName →
      other.find? name = some newName) : job.UsesDeclared root other before item where
  describes := by
    refine uses.describes.of_entries entries fun name isOwn => ?_
    obtain ⟨_, isGiven, -⟩ := uses.refersTo _ isOwn
    cases isGiven
  records type madeOf := (uses.records type madeOf).of_entries entries
  target := uses.target

end UsesDeclared

namespace Ordered

theorem mono (ordered : job.Ordered root s) (grows : s.Extends s₁)
    (items : s₁.items = s.items) : job.Ordered root s₁ := by
  intro before item after split
  exact (ordered before item after (items ▸ split)).of_entries grows.given

theorem reported (ordered : job.Ordered root s) (records : List Log.Record) :
    job.Ordered root (s.reported records) :=
  ordered.mono (.reported records) rfl

/-- Items stay in order when one is written that refers to earlier ones. -/
theorem emitted (ordered : job.Ordered root s) {item : Item}
    (uses : job.UsesDeclared root s.given s.items item) : job.Ordered root (s.emitted item) := by
  intro before other after split
  have split : s.items ++ [item] = before ++ other :: after := split
  rcases List.eq_nil_or_concat after with rfl | ⟨rest, last, rfl⟩
  · obtain ⟨rfl, same⟩ := List.append_inj' split rfl
    cases same
    exact uses
  · rw [List.concat_eq_append, ← List.cons_append, ← List.append_assoc] at split
    exact ordered before other rest (List.append_inj' split rfl).1

end Ordered

/-- What leads to a declaration whenever it is open still does once that declaration opens, too. -/
theorem leads_to_opened {header : Header} {target : DeclId}
    (leads : ∀ other, isOpen other → Relation.ReflTransGen header.Uses other target) :
    ∀ other, isOpen other ∨ other = target → Relation.ReflTransGen header.Uses other target := by
  rintro other (isOpen | rfl)
  · exact leads other isOpen
  · exact .refl

theorem uses_of_fieldMentions {tag : DeclId} {mention : Mention}
    (kind : (job.header.decl tag).kind = .struct) (inside : mention ∈ job.fieldMentions tag) :
    job.header.Uses tag mention.decl := by
  obtain ⟨type, isType, inside⟩ := List.mem_flatMap.mp inside
  exact Header.uses_of_mem (Header.writtenTypes_struct kind ▸ isType) inside

theorem WrittenExcept.widen {isOpen' : DeclId → Prop} (written : WrittenExcept isOpen s)
    (widens : ∀ id, isOpen id → isOpen' id) : WrittenExcept isOpen' s :=
  fun tag className known => (written tag className known).imp_left (widens tag)

theorem Exports.writtenExcept {task : Task} (exports : job.Exports task s s')
    (written : WrittenExcept isOpen s) : WrittenExcept isOpen s' := by
  intro tag className known
  rcases exports.written tag className known with before | isWritten
  · refine (written tag className before).imp_right fun ⟨item, inside, isClass⟩ => ?_
    exact ⟨item, exports.items item inside, isClass⟩
  · exact .inr isWritten

theorem WrittenExcept.begins {id : DeclId} {opening : Opening}
    (written : WrittenExcept isOpen s) (begins : job.Begins root id s opening s₁) :
    WrittenExcept (fun tag => isOpen tag ∨ tag = opening.target) s₁ := by
  intro tag className known
  by_cases same : opening.target = tag
  · exact .inl (.inr same.symm)
  · rw [begins.find?_other same] at known
    rw [begins.items]
    exact (written tag className known).imp_left .inl

theorem ClosedExcept.widen {isOpen' : DeclId → Prop} (closed : job.ClosedExcept root isOpen s)
    (widens : ∀ id, isOpen id → isOpen' id) : job.ClosedExcept root isOpen' s :=
  fun _ declares isPlain => (closed declares isPlain).imp_left (widens _)

section

variable (coherent : job.header.Coherent root) (recordsNamed : job.header.RecordsNamed root)
  (unfolded : job.header.TypesUnfolded root)

include coherent recordsNamed

/-- The structures that the resolution of a type comes to are declared, if their names are marked
    and none of them is open. -/
theorem NamesAgree.recordsDeclared (agree : job.NamesAgree root s)
    (written : WrittenExcept isOpen s) {type : CType}
    (reaches : job.header.Reaches root (.type type))
    (marked : ∀ name, job.header.LooksUp type name → name ∈ s.exported)
    (closed : ∀ inside ∈ job.header.visited type, ∀ tag, inside.canonical.kind = .record →
      inside.canonical.declaration = some tag → ¬ isOpen tag) :
    job.header.RecordsDeclared s.given s.items type := by
  intro inside isVisited kind
  have reachesInside := reaches.visited isVisited
  obtain ⟨name, named⟩ := coherent.named_record recordsNamed reachesInside kind
  obtain ⟨newName, className, tag, isGiven, isTag, calls⟩ :=
    recordName_of_marked coherent agree reachesInside kind named
      (marked name ⟨inside, isVisited, kind, named⟩)
  have isWritten := (written tag className calls.classed).resolve_left
    (closed inside isVisited tag kind isTag)
  exact ⟨tag, newName, isTag, isGiven, className, isWritten, calls.declared⟩

include unfolded

/-- A declaration that stands for a structure is that structure or uses it. -/
theorem uses_tag {id tag : DeclId} (declares : job.header.DeclaresType root id)
    (isTag : job.header.tagOf? id = some tag) (kind : (job.header.decl tag).kind = .struct) :
    Relation.ReflTransGen job.header.Uses id tag := by
  have ofTypedef : job.header.typedefTarget? id = some tag →
      Relation.TransGen job.header.Uses id tag := by
    intro isTarget
    obtain ⟨idKind, underlying, record, names, tagged⟩ := Header.exists_of_typedefTarget? isTarget
    have reaches := declares.1.underlying names
    have targetKind := (coherent.tagTypes.target reaches tagged).2
    obtain ⟨canonicalKind, declared⟩ := Header.tagTarget?_eq_some tagged
    cases record with
    | false =>
      rw [kind] at targetKind
      cases targetKind
    | true =>
      have canonicalKind : underlying.canonical.kind = .record := canonicalKind
      obtain ⟨name, named⟩ :=
        Option.ne_none_iff_exists'.mp (recordsNamed reaches.canonical canonicalKind declared)
      exact (unfolded reaches).uses_of_canonical idKind names
        (job.header.mem_mentions_record canonicalKind declared named)
  unfold Header.tagOf? at isTag
  split at isTag
  · exact Option.some.inj isTag ▸ .refl
  · exact Option.some.inj isTag ▸ .refl
  · exact (ofTypedef isTag).to_reflTransGen

/-- The structures that the resolution of a type comes to are used by what the type mentions, or
    mentioned by it. -/
theorem exists_start_of_visited (pointers : job.header.PointeesOfPointers root)
    {type inside : CType} {tag : DeclId} (reaches : job.header.Reaches root (.type type))
    (isVisited : inside ∈ job.header.visited type) (kind : inside.canonical.kind = .record)
    (declared : inside.canonical.declaration = some tag) :
    ∃ start ∈ job.header.mentions type, Relation.ReflTransGen job.header.Uses start.decl tag := by
  obtain ⟨name, named⟩ := Option.ne_none_iff_exists'.mp
    (recordsNamed (reaches.visited isVisited).canonical kind declared)
  obtain ⟨written, reachesWritten, same, comes⟩ :=
    Header.exists_written_of_visited pointers reaches isVisited
  have mentioned : ∃ mention ∈ job.header.mentions written.canonical, mention.decl = tag := by
    rcases comes with rfl | ⟨part, isPart, below, mentioned⟩
    · exact ⟨_, job.header.mem_mentions_record kind declared named, rfl⟩
    · have canonicalPart := (coherent.isCanonical reachesWritten).part isPart
      rw [(Header.isCanonical_of_visited canonicalPart below).canonical_eq] at kind declared
      obtain ⟨mention, isMention, -, isTag⟩ :=
        Header.exists_mention_of_visited kind declared named canonicalPart below
      exact ⟨mention, mentioned mention isMention, isTag⟩
  obtain ⟨mention, isMention, rfl⟩ := mentioned
  rw [← same]
  exact (unfolded reachesWritten).exists_start mention isMention

end

section

variable (coherent : job.header.Coherent root) (unfolded : job.header.TypesUnfolded root)

include coherent unfolded

/-- A type definition uses what its callback mentions. -/
theorem uses_of_prototypeMentions {id : DeclId} {underlying prototype : CType} {mention : Mention}
    (declares : job.header.DeclaresType root id) (kind : (job.header.decl id).kind = .typedef)
    (names : (job.header.decl id).underlying = some underlying)
    (calls : callbackPrototype? underlying = some prototype)
    (inside : mention ∈ job.header.prototypeMentions prototype) :
    Relation.TransGen job.header.Uses id mention.decl := by
  have reaches := declares.1.underlying names
  rw [← mentions_of_callbackPrototype? (coherent.isCanonical reaches) calls] at inside
  exact (unfolded reaches).uses_of_canonical kind names inside

/-- A plain type definition uses what exporting it exports first. -/
theorem uses_of_follows {id : DeclId} {mention : Mention}
    (declares : job.header.DeclaresType root id) (isPlain : job.IsPlain id)
    (inside : mention ∈ job.follows id) : Relation.TransGen job.header.Uses id mention.decl := by
  obtain ⟨kind, untagged⟩ := isPlain
  cases names : (job.header.decl id).underlying with
  | none => simp [follows, untagged, names] at inside
  | some underlying =>
    cases calls : callbackPrototype? underlying with
    | some prototype =>
      rw [follows_callback names untagged calls] at inside
      exact uses_of_prototypeMentions coherent unfolded declares kind names calls inside
    | none =>
      rw [follows_plain names untagged calls] at inside
      exact .single (Header.uses_of_underlying kind names inside)

end

section

variable (coherent : job.header.Coherent root) (recordsNamed : job.header.RecordsNamed root)
  (unfolded : job.header.TypesUnfolded root) (pointers : job.header.PointeesOfPointers root)
  (unambiguous : job.header.Unambiguous root) (acyclic : job.header.Acyclic root)

include coherent recordsNamed unfolded acyclic

/-- When a type definition becomes another name for a class, that class stands before it. An open
    structure comes to use the type definition, and would come to use itself. -/
theorem NamesAgree.usesDeclared_alias (agree : job.NamesAgree root s)
    (written : WrittenExcept isOpen s) {given : GivenNames} {id target : DeclId}
    {name newName existing : String} {comment : Option String} {underlying : CType} {record : Bool}
    (declares : job.header.DeclaresType root id)
    (named : (job.header.decl id).properName? = some name)
    (renamed : job.names.apply name = .ok newName)
    (kind : (job.header.decl id).kind = .typedef)
    (names : (job.header.decl id).underlying = some underlying)
    (tagged : tagTarget? underlying = some (record, target))
    (known : job.existing? s target = some existing)
    (opens : ∀ other, isOpen other → Relation.TransGen job.header.Uses other id) :
    job.UsesDeclared root given s.items (.alias newName existing comment) where
  describes := trivial
  records _ madeOf := madeOf.elim
  target := by
    rintro _ _ _ ⟨⟩
    have isTarget : job.header.typedefTarget? id = some target := by
      rw [Header.typedefTarget?_eq kind names, tagged, Option.map_some]
    obtain ⟨ofTypedef, ofTarget⟩ :=
      coherent.tagTypes.tagOf?_of_typedefTarget? declares.1 isTarget
    have declaresTarget := (coherent.tagTypes.target (declares.1.underlying names) tagged).1
    have classed := agree.classes_of_existing? declaresTarget ofTarget known
    refine ⟨id, target, name, declares, isTarget, named, renamed,
      (written target existing classed).resolve_left fun isOpen => ?_⟩
    have back := opens target isOpen
    have kindTarget : (job.header.decl target).kind = .struct := by
      obtain ⟨_, uses, -⟩ := Relation.TransGen.head'_iff.mp back
      have kindTarget := (coherent.tagTypes.target (declares.1.underlying names) tagged).2
      cases record with
      | true => exact kindTarget
      | false =>
        have onlyUsers := uses.kind
        rw [kindTarget] at onlyUsers
        rcases onlyUsers with struct | typedef <;> contradiction
    exact acyclic declaresTarget
      (back.trans_left (uses_tag coherent recordsNamed unfolded declares ofTypedef kindTarget))

include pointers

/-- When the class of a structure is written, everything that its fields refer to stands before it:
    what is open comes to use the structure, so the structure does not use it. -/
theorem NamesAgree.usesDeclared_structClass (agree : job.NamesAgree root s)
    (written : WrittenExcept isOpen s) (closed : job.ClosedExcept root isOpen s) {tag : DeclId}
    {newName : String} {comment : Option String} {fields : List Field}
    (declares : job.header.DeclaresType root tag) (kind : (job.header.decl tag).kind = .struct)
    (opens : ∀ id, isOpen id → Relation.ReflTransGen job.header.Uses id tag)
    (covers : Covers s (job.fieldMentions tag))
    (become : List.Forall₂ (job.BecomesField s.given) (job.childrenOfKind .field tag) fields) :
    job.UsesDeclared root s.given s.items (.structClass tag newName comment fields) where
  describes := ⟨declares, become⟩
  records type madeOf := by
    obtain ⟨_, isField, own⟩ := madeOf
    have reaches : job.header.Reaches root (.type type) := by
      obtain ⟨child, rfl, reachesChild⟩ := reaches_of_mem_childrenOfKind declares.1 isField
      exact reachesChild.ownType own
    have mentioned : ∀ mention ∈ job.header.mentions type, mention ∈ job.fieldMentions tag :=
      fun mention inside => List.mem_flatMap.mpr
        ⟨type, List.mem_filterMap.mpr ⟨_, isField, own⟩, inside⟩
    have explored : job.Explored root (Relation.TransGen job.header.Uses tag) s :=
      { follows := fun _ leads declaresOther isPlain _ inside =>
          leads.trans (uses_of_follows coherent unfolded declaresOther isPlain inside)
        closed := fun other leads declaresOther isPlain =>
          (closed declaresOther isPlain).resolve_left fun isOpen =>
            acyclic declares (leads.trans_left (opens other isOpen)) }
    have knows : Knows (Relation.TransGen job.header.Uses tag) s (job.header.mentions type) :=
      fun mention inside => ⟨.single (uses_of_fieldMentions kind (mentioned mention inside)),
        covers mention (mentioned mention inside)⟩
    refine agree.recordsDeclared coherent recordsNamed written reaches
      (fun _ => marked_of_looksUp agree explored coherent unfolded pointers reaches knows) ?_
    intro inside isVisited other recordKind declared isOpen
    obtain ⟨start, isStart, leads⟩ := exists_start_of_visited coherent recordsNamed unfolded
      pointers reaches isVisited recordKind declared
    exact acyclic declares (.head' (uses_of_fieldMentions kind (mentioned start isStart))
      (leads.trans (opens other isOpen)))
  target := by
    intro _ _ _ isAlias
    cases isAlias

include unambiguous

/-- When a callback is written, everything that its prototype refers to stands before it. -/
theorem NamesAgree.usesDeclared_callback (agree : job.NamesAgree root s)
    (written : WrittenExcept isOpen s) {id : DeclId} {name newName : String}
    {underlying prototype : CType} (declares : job.header.DeclaresType root id)
    (kind : (job.header.decl id).kind = .typedef)
    (named : (job.header.decl id).properName? = some name)
    (names : (job.header.decl id).underlying = some underlying)
    (untagged : job.header.tagOf? id = none)
    (calls : callbackPrototype? underlying = some prototype)
    (opens : ∀ other, isOpen other → Relation.ReflTransGen job.header.Uses other id)
    (covers : Covers s (job.header.prototypeMentions prototype)) :
    job.UsesDeclared root s.given s.items (.callback newName
      (job.header.bindPrototype s.given prototype (some name) (job.header.decl id).comment)) where
  describes := ⟨id, name, underlying, prototype, declares, kind, named, names, calls, rfl⟩
  records type madeOf := by
    obtain ⟨other, _, _, declaresOther, -, namedOther, namesOther, callsOther, isPart⟩ := madeOf
    obtain rfl := coherent.tagTypes.eq_of_untagged unambiguous declares declaresOther named
      namedOther untagged
    rw [names, Option.some.injEq] at namesOther
    subst namesOther
    rw [calls, Option.some.injEq] at callsOther
    subst callsOther
    have reachesUnderlying := declares.1.underlying names
    have isCanonical := isCanonical_callbackPrototype? coherent reachesUnderlying calls
    have inParts := isPart.elim CType.mem_parts_result CType.mem_parts_argument
    have reaches := (reaches_callbackPrototype? reachesUnderlying calls).part inParts
    refine agree.recordsDeclared coherent recordsNamed written reaches
      (fun _ => marked_of_looksUp_prototype isCanonical covers isPart) ?_
    intro inside isVisited tag recordKind declared isOpen
    obtain ⟨start, isStart, leads⟩ := exists_start_of_visited coherent recordsNamed unfolded
      pointers reaches isVisited recordKind declared
    have uses := uses_of_prototypeMentions coherent unfolded declares kind names calls
      (job.header.mem_prototypeMentions.mpr ⟨type, isPart, isStart⟩)
    exact acyclic declares (uses.trans_left (leads.trans (opens tag isOpen)))
  target := by
    intro _ _ _ isAlias
    cases isAlias

/-- Exports write items in order: what is open comes to use what is being exported, so nothing that
    an item uses is open when it is written. -/
theorem Exports.ordered {task : Task} (exports : job.Exports task s s') :
    ∀ isOpen : DeclId → Prop, (∀ id, isOpen id → task.UsedBy job.header id) →
      task.Within job.header root → job.NamesAgree root s → job.ClosedExcept root isOpen s →
        WrittenExcept isOpen s → job.Ordered root s → job.Ordered root s' := by
  have tagTypes := coherent.tagTypes
  induction exports with
  | done | known => exact fun _ _ _ _ _ _ ordered => ordered
  | next named first others ihFirst ihOthers =>
    intro isOpen usedBy within agree closed written ordered
    have declares := within _ List.mem_cons_self
    have agree₁ := (first.agree tagTypes unambiguous declares (agree.reported _)).1
    have closed₁ := first.closedExcept tagTypes unambiguous isOpen declares (agree.reported _)
      ((closed.same rfl).awaiting _)
    refine ihOthers isOpen (fun id isOpen _ inside => usedBy id isOpen _ (.tail _ inside))
      (fun _ inside => within _ (.tail _ inside)) agree₁ closed₁ (first.writtenExcept written) ?_
    exact ihFirst isOpen (fun id isOpen => usedBy id isOpen _ List.mem_cons_self) declares
      (agree.reported _) (closed.same rfl) written (ordered.reported _)
  | other =>
    intro _ _ _ _ _ _ ordered
    exact (ordered.mono (.marked _) rfl).reported _
  | enumClass opens =>
    intro _ _ declares agree _ _ ordered
    have begins := opens.begins agree tagTypes declares
    have begun := (ordered.mono (begins.grows agree) begins.items).reported
    exact (begun _).emitted ⟨trivial, fun _ madeOf => madeOf.elim, fun _ _ _ same => by cases same⟩
  | @structClass id _ _ s₂ opening _ opens record inside become ih =>
    intro isOpen usedBy declares agree closed written ordered
    have begins := opens.begins agree tagTypes declares
    have kind : (job.header.decl opening.target).kind = .struct := by
      rw [begins.kind, record]
      rfl
    have usesTag := uses_tag coherent recordsNamed unfolded declares begins.tag kind
    have leads := leads_to_opened fun other isOpen =>
      (usedBy other isOpen).to_reflTransGen.trans usesTag
    have agree₁ := (begins.agree agree tagTypes unambiguous declares).reported
    have closed₁ := (begins.closedExcept agree tagTypes unambiguous declares
      (closed.awaiting _)).widen fun other => Or.inl (b := other = opening.target)
    have written₁ := written.begins begins
    have within := within_fieldMentions begins.declares.1
    have begun := (ordered.mono (begins.grows agree) begins.items).reported
    have inner := ih _
      (fun other isOpen mention inside => .tail' (leads other isOpen)
        (uses_of_fieldMentions kind inside))
      within (agree₁ _) (closed₁.same rfl) written₁ (begun _)
    have agree₂ := (inside.agree tagTypes unambiguous within (agree₁ _)).1
    have closed₂ := inside.closedExcept tagTypes unambiguous _ within (agree₁ _)
      ((closed₁.same rfl).awaiting _)
    refine Ordered.emitted (inner.reported _) ?_
    exact agree₂.usesDeclared_structClass coherent recordsNamed unfolded pointers acyclic
      (inside.writtenExcept written₁) closed₂ begins.declares kind leads inside.covers become
  | otherName named fresh renamed kind names tagged known =>
    intro isOpen usedBy declares agree closed written ordered
    have grows := ((Exports.otherName named fresh renamed kind names tagged known).agree
      tagTypes unambiguous declares agree).2
    refine Ordered.emitted ?_ ?_
    · exact ordered.mono ⟨grows.exported, grows.given, grows.classes, fun inside => inside⟩ rfl
    · exact agree.usesDeclared_alias coherent recordsNamed unfolded acyclic written declares named
        renamed kind names tagged known usedBy
  | @callback id _ _ _ _ _ _ named fresh renamed kind names untagged calls inside ih =>
    intro isOpen usedBy declares agree closed written ordered
    have untagged := tagOf?_of_untagged kind names untagged
    have leads := leads_to_opened fun other isOpen => (usedBy other isOpen).to_reflTransGen
    have agree₁ := (agree.mark tagTypes unambiguous declares named untagged).reported
    have within := within_prototypeMentions
      (reaches_callbackPrototype? (declares.1.underlying names) calls)
    have closed₁ := (closed.awaiting _).mark tagTypes unambiguous declares named
    have written₁ := written.widen fun other => Or.inl (b := other = id)
    have inner := ih _
      (fun other isOpen mention inside => .trans_right (leads other isOpen)
        (uses_of_prototypeMentions coherent unfolded declares kind names calls inside))
      within (agree₁ _) (closed₁.same rfl) written₁
      ((ordered.mono (.marked _) rfl).reported _)
    have agree₂ := (inside.agree tagTypes unambiguous within (agree₁ _)).1
    refine Ordered.mono (Ordered.emitted (inner.reported _) ?_) (.calledBack _ _) rfl
    exact agree₂.usesDeclared_callback coherent recordsNamed unfolded pointers unambiguous acyclic
      (inside.writtenExcept written₁) declares kind named names untagged calls leads inside.covers
  | @plain id _ _ _ _ _ _ named fresh renamed kind names untagged uncalled inside quiet ih =>
    intro isOpen usedBy declares agree closed written ordered
    have untagged := tagOf?_of_untagged kind names untagged
    have agree₁ := agree.mark tagTypes unambiguous declares named untagged
    have closed₁ := (closed.awaiting _).mark tagTypes unambiguous declares named
    have leads := leads_to_opened fun other isOpen => (usedBy other isOpen).to_reflTransGen
    have inner := ih _
      (fun other isOpen mention inside => .tail' (leads other isOpen)
        (Header.uses_of_underlying kind names inside))
      (within_mentions (declares.1.underlying names)) agree₁ closed₁
      (written.widen fun other => Or.inl (b := other = id)) (ordered.mono (.marked _) rfl)
    exact inner.reported _

theorem Steps.ordered (steps : job.Steps root {} s) : job.Ordered root s := by
  induction steps with
  | refl =>
    intro before item after split
    simp at split
  | tail before step ih =>
    have sound := (Steps.sound coherent.tagTypes unambiguous before .start).1
    have grows := (step.sound coherent.tagTypes unambiguous sound).2
    cases step with
    | exports within exports =>
      exact exports.ordered coherent recordsNamed unfolded pointers unambiguous acyclic
        (fun _ => False) (fun _ isOpen => isOpen.elim) within sound.agree sound.closed
        (fun _ _ known => .inr (sound.written known)) ih
    | wrote frame =>
      refine ih.emitted ?_
      rcases frame with rfl | rfl | ⟨cls, rfl⟩ <;>
        exact ⟨trivial, fun _ madeOf => madeOf.elim, fun _ _ _ same => by cases same⟩
    | reported | bound | calledBack | called => exact ih.mono grows rfl

end

/-- In a successful run on a header in which no declaration comes to use itself, everything that the
    class of a structure, a callback or another name for a class refers to is declared before it. -/
theorem definitions_precede_uses (coherent : job.header.Coherent root)
    (recordsNamed : job.header.RecordsNamed root) (unambiguous : job.header.Unambiguous root)
    (pointers : job.header.PointeesOfPointers root) (acyclic : job.header.Acyclic root)
    {className : String} (run : (job.exportHeader className root).Succeeds {} () s) :
    ∀ before item after, s.items = before ++ item :: after →
      job.UsesDeclared root s.given before item ∧ RefersTo before item.references := by
  intro before item after split
  have unfolded := coherent.typesUnfolded_of_acyclic acyclic
  have ordered := Steps.ordered coherent recordsNamed unfolded pointers unambiguous acyclic
    (steps_of_exportHeader run)
  have uses := ordered before item after split
  exact ⟨uses, uses.refersTo⟩

end Job

/-!
A callback that takes a pointer to a structure, which has a pointer to another structure, and a
second name for the first structure.
-/

namespace LayeredHeader

def void : CType := { kind := .scalar .void, spelling := "void" }

def recordA : CType := { kind := .record, spelling := "struct A", declaration := some 2 }

def recordB : CType := { kind := .record, spelling := "struct B", declaration := some 3 }

def pointerA : CType := { kind := .pointer, spelling := "struct A *", pointee := some recordA }

def pointerB : CType := { kind := .pointer, spelling := "struct B *", pointee := some recordB }

def prototype : CType :=
  { kind := .function, spelling := "void (struct A *)", result := some void,
    arguments := [pointerA] }

def pointer : CType :=
  { kind := .pointer, spelling := "void (*)(struct A *)", pointee := some prototype }

def types : List CType :=
  [void, recordA, recordB, pointerA, pointerB, prototype, pointer]

/-- `typedef void (*Cb)(struct A *); struct A { struct B *b; }; struct B {}; typedef struct A T;` -/
def header : Header :=
  ⟨#[{ kind := .unit, children := [1, 2, 3, 4] },
    { kind := .typedef, name := some "Cb", underlying := some pointer },
    { kind := .struct, name := some "A", children := [5] },
    { kind := .struct, name := some "B" },
    { kind := .typedef, name := some "T", underlying := some recordA },
    { kind := .field, name := some "b", type := some pointerB }]⟩

def job : Job :=
  ⟨header, .prefixing⟩

def exported : Progress :=
  ((job.exportHeader "Lib" 0).outcome {}).2

theorem reaches_among {node : Node} (reaches : job.header.Reaches 0 node) :
    node.Among [0, 1, 2, 3, 4, 5] types := by
  have declLinks : [0, 1, 2, 3, 4, 5].map (fun id => job.header.links (.decl id)) =
      [[.decl 1, .decl 2, .decl 3, .decl 4], [.type pointer], [.decl 5], [], [.type recordA],
        [.type pointerB]] := rfl
  have typeLinks : types.map (fun type => job.header.links (.type type)) =
      [[], [.decl 2], [.decl 3], [.type recordA], [.type recordB], [.type void, .type pointerA],
        [.type prototype]] := rfl
  exact reaches.among_of_links declLinks typeLinks (by decide) (by simp [Node.Among, types])

theorem coherent : job.header.Coherent 0 := by
  intro type reaches
  have among : type ∈ types := reaches_among reaches
  simp only [types, List.mem_cons, List.not_mem_nil, or_false] at among
  rcases among with rfl | rfl | rfl | rfl | rfl | rfl | rfl
  all_goals
    refine ⟨⟨?_, ?_⟩, ?_, ?_, ?_, ?_, ?_, ?_, ?_, ?_⟩ <;>
      simp [Header.decl, job, header, CType.parts, CType.canonical, TypeKind.isFunction, void,
        recordA, recordB, pointerA, pointerB, prototype, pointer]

theorem unambiguous : job.header.Unambiguous 0 :=
  .of_distinct (fun _ reaches => reaches_among reaches) (by decide)

theorem pointers : job.header.PointeesOfPointers 0 := by
  intro type pointee reaches points
  have among : type ∈ types := reaches_among reaches
  simp only [types, List.mem_cons, List.not_mem_nil, or_false] at among
  rcases among with rfl | rfl | rfl | rfl | rfl | rfl | rfl
  all_goals first | rfl | cases points

theorem recordsNamed : job.header.RecordsNamed 0 := by
  intro type id reaches kind declared
  have among : type ∈ types := reaches_among reaches
  simp only [types, List.mem_cons, List.not_mem_nil, or_false] at among
  rcases among with rfl | rfl | rfl | rfl | rfl | rfl | rfl
  all_goals first | exact absurd kind (by decide) | (cases declared; decide)

/-- How far a declaration is from those that use nothing. -/
def rank (id : DeclId) : Nat :=
  [0, 2, 1, 0, 2, 0].getD id 0

theorem acyclic : job.header.Acyclic 0 := by
  have falls : ∀ id ∈ [0, 1, 2, 3, 4, 5], ∀ type ∈ job.header.writtenTypes id,
      ∀ mention ∈ job.header.mentions type, rank mention.decl < rank id := by decide
  exact .of_rank rank fun id reaches => falls id (reaches_among reaches)

theorem outcome : ((job.exportHeader "Lib" 0).outcome {}).1 = .ok () ∧
    exported.items.map (·.references) =
      [[], [], [], [.given "X_B"], [.given "X_A", .given "X_A"], [], []] := by
  constructor <;> cbv

theorem run : (job.exportHeader "Lib" 0).Succeeds {} () exported :=
  .of_fst outcome.1

/-- The callback is written after the class that it refers to. -/
theorem callback_after_class : ∃ before item after, exported.items = before ++ item :: after ∧
    .given "X_A" ∈ item.references ∧ job.UsesDeclared 0 exported.given before item ∧
      RefersTo before item.references := by
  have inside : [.given "X_A", .given "X_A"] ∈ exported.items.map (·.references) := by
    simp [outcome.2]
  obtain ⟨item, written, references⟩ := List.mem_map.mp inside
  obtain ⟨before, after, split⟩ := List.append_of_mem written
  exact ⟨before, item, after, split, by simp [references],
    Job.definitions_precede_uses coherent recordsNamed unambiguous pointers acyclic run before item
      after split⟩

end LayeredHeader

/-!
A structure with a field of a type definition, whose type points to one structure canonically and
has another structure as a pointee of its own.
-/

namespace StrayField

open StrayPointee (recordA recordB pointerA stray)

def job : Job :=
  ⟨⟨#[{ kind := .unit, children := [1, 2, 3, 4] },
    { kind := .struct, name := some "C", children := [5] },
    { kind := .typedef, name := some "T", underlying := some pointerA },
    { kind := .struct, name := some "A" },
    { kind := .struct, name := some "B" },
    { kind := .field, name := some "x", type := some stray }]⟩, .prefixing⟩

def exported : Progress :=
  ((job.exportHeader "Lib" 0).outcome {}).2

theorem reaches_among {node : Node} (reaches : job.header.Reaches 0 node) :
    node.Among [0, 1, 2, 3, 4, 5] [recordA, recordB, pointerA, stray] := by
  have declLinks : [0, 1, 2, 3, 4, 5].map (fun id => job.header.links (.decl id)) =
      [[.decl 1, .decl 2, .decl 3, .decl 4], [.decl 5], [.type pointerA], [], [],
        [.type stray]] := rfl
  have typeLinks : [recordA, recordB, pointerA, stray].map
      (fun type => job.header.links (.type type)) =
      [[.decl 3], [.decl 4], [.type recordA], [.type pointerA, .type recordB, .decl 2]] := rfl
  exact reaches.among_of_links declLinks typeLinks (by decide) (by simp [Node.Among])

theorem coherent : job.header.Coherent 0 := by
  intro type reaches
  have among : type ∈ [recordA, recordB, pointerA, stray] := reaches_among reaches
  simp only [List.mem_cons, List.not_mem_nil, or_false] at among
  rcases among with rfl | rfl | rfl | rfl
  all_goals
    refine ⟨⟨?_, ?_⟩, ?_, ?_, ?_, ?_, ?_, ?_, ?_, ?_⟩ <;>
      simp [Header.decl, job, Header.IsDefined, CType.IsTagged, CType.parts, CType.canonical,
        TypeKind.isFunction, Decl.properName?, recordA, recordB, pointerA, stray]

theorem unambiguous : job.header.Unambiguous 0 :=
  .of_distinct (fun _ reaches => reaches_among reaches) (by decide)

theorem recordsNamed : job.header.RecordsNamed 0 := by
  intro type id reaches kind declared
  have among : type ∈ [recordA, recordB, pointerA, stray] := reaches_among reaches
  simp only [List.mem_cons, List.not_mem_nil, or_false] at among
  rcases among with rfl | rfl | rfl | rfl
  all_goals first | exact absurd kind (by decide) | (cases declared; decide)

/-- How far a declaration is from those that use nothing. -/
def rank (id : DeclId) : Nat :=
  [0, 2, 1, 0, 0, 0].getD id 0

theorem acyclic : job.header.Acyclic 0 := by
  have falls : ∀ id ∈ [0, 1, 2, 3, 4, 5], ∀ type ∈ job.header.writtenTypes id,
      ∀ mention ∈ job.header.mentions type, rank mention.decl < rank id := by decide
  exact .of_rank rank fun id reaches => falls id (reaches_among reaches)

theorem outcome : ((job.exportHeader "Lib" 0).outcome {}).1 = .ok () ∧
    exported.items.map (fun item => (item.classOf?, item.references)) =
      [(none, []), (none, []), (some (3, "X_A"), []), (some (1, "X_C"), [.own "B"]),
        (some (4, "X_B"), []), (none, [])] := by
  constructor <;> cbv

theorem run : (job.exportHeader "Lib" 0).Succeeds {} () exported :=
  .of_fst outcome.1

/-- In a coherent header with unambiguous names, where every structure has a name and no declaration
    comes to use itself, the class of a structure may still refer to one that comes after it, when a
    type that is no pointer has a pointee. -/
theorem definition_after_use :
    job.header.Coherent 0 ∧ job.header.RecordsNamed 0 ∧ job.header.Unambiguous 0 ∧
      job.header.Acyclic 0 ∧ (job.exportHeader "Lib" 0).Succeeds {} () exported ∧
      ∃ before item after, exported.items = before ++ item :: after ∧
        item.classOf? = some (1, "X_C") ∧ .own "B" ∈ item.references ∧
        (∀ other ∈ before, ∀ className, other.classOf? ≠ some (4, className)) ∧
        ∃ other ∈ after, other.classOf? = some (4, "X_B") := by
  refine ⟨coherent, recordsNamed, unambiguous, acyclic, run, ?_⟩
  obtain ⟨before, rest, split, ofBefore, ofRest⟩ := List.map_eq_append_iff.mp
    (outcome.2.trans (List.take_append_drop 3 _).symm)
  obtain ⟨item, after, rfl, ofItem, ofAfter⟩ := List.map_eq_cons_iff.mp ofRest
  refine ⟨before, item, after, split, congrArg Prod.fst ofItem, ?_, ?_, ?_⟩
  · have references : item.references = [.own "B"] := congrArg Prod.snd ofItem
    simp [references]
  · intro other inside className isClass
    have isView : (other.classOf?, other.references) ∈
        before.map fun item => (item.classOf?, item.references) := List.mem_map_of_mem inside
    simp [ofBefore, isClass] at isView
  · obtain ⟨other, rest, rfl, ofOther, -⟩ := List.map_eq_cons_iff.mp ofAfter
    exact ⟨other, List.mem_cons_self, congrArg Prod.fst ofOther⟩

end StrayField

end HeaderBindings
