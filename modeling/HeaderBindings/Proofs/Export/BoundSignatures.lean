import HeaderBindings.Proofs.Export.Lookups
import HeaderBindings.Proofs.Export.Run

/-!
# The signatures of bound functions

Before a function or one of its callbacks is added to the library class, everything that its types
mention has been exported to its end. So its signatures refer to structures by names that the text
declares.
-/

namespace HeaderBindings

/-- Items declare a name, as a class or as another name for a class. -/
def DeclaredIn (items : List Item) (name : String) : Prop :=
  (∃ item ∈ items, ∃ id, item.classOf? = some (id, name)) ∨
    ∃ target comment, Item.alias name target comment ∈ items

/-- All references are to names that items declare. -/
def RefersTo (items : List Item) (references : List RecordName) : Prop :=
  ∀ reference ∈ references, ∃ name, reference = .given name ∧ DeclaredIn items name

theorem DeclaredIn.mono {items others : List Item} {name : String}
    (declared : DeclaredIn items name) (grows : ∀ item ∈ items, item ∈ others) : DeclaredIn others name := by
  rcases declared with ⟨item, inside, id, isClass⟩ | ⟨target, comment, inside⟩
  · exact .inl ⟨item, grows item inside, id, isClass⟩
  · exact .inr ⟨target, comment, grows _ inside⟩

theorem RefersTo.mono {items others : List Item} {references : List RecordName}
    (refers : RefersTo items references) (grows : ∀ item ∈ items, item ∈ others) :
    RefersTo others references := by
  intro reference inside
  obtain ⟨name, given, declared⟩ := refers reference inside
  exact ⟨name, given, declared.mono grows⟩

namespace Job

variable {job : Job} {root : DeclId} {s s' : Progress}

theorem Sound.declared (sound : job.Sound root s) {name newName className : String} {tag : DeclId}
    (calls : job.Calls s name newName className tag) : DeclaredIn s.items newName := by
  rcases calls.declared with rfl | ⟨comment, isAlias⟩
  · obtain ⟨item, inside, isClass⟩ := sound.written calls.classed
    exact .inl ⟨item, inside, tag, isClass⟩
  · exact .inr ⟨className, comment, isAlias⟩

theorem Sound.explored (sound : job.Sound root s) : job.Explored root (fun _ => True) s where
  follows _ _ _ _ _ _ := trivial
  closed _ _ declares isPlain := (sound.closed declares isPlain).resolve_left id

section

variable (coherent : job.header.Coherent root) (grounded : job.header.TypesGrounded root)
  (pointers : job.header.PointeesOfPointers root) (recordsNamed : job.header.RecordsNamed root)

include coherent recordsNamed

theorem Sound.refersTo (sound : job.Sound root s) {type : CType} {native : Bool}
    (reaches : job.header.Reaches root (.type type))
    (marked : ∀ name, job.header.LooksUp type name → name ∈ s.exported) :
    RefersTo s.items (job.header.resolve s.given native type).references := by
  intro reference inside
  obtain ⟨name, newName, className, tag, given, calls⟩ :=
    given_of_reference coherent sound.agree recordsNamed reaches marked inside
  exact ⟨newName, given, sound.declared calls⟩

theorem Sound.refersTo_prototype (sound : job.Sound root s) {type prototype : CType}
    {name comment : Option String} (reaches : job.header.Reaches root (.type type))
    (calls : type.functionPointee? = some prototype)
    (covers : Covers s (job.header.prototypeMentions prototype)) :
    RefersTo s.items (job.header.bindPrototype s.given prototype name comment).references := by
  intro reference inside
  obtain ⟨part, isPart, refers⟩ := Header.mem_references_bindPrototype.mp inside
  rw [List.mem_append, Option.mem_toList] at isPart
  have isCanonical := (isCanonical_functionPointee? coherent reaches calls).2.2.1
  have reachesPart := (reaches_functionPointee? reaches calls).part
    (isPart.elim CType.mem_parts_result CType.mem_parts_argument)
  refine sound.refersTo coherent recordsNamed reachesPart ?_ reference refers
  exact fun name looks => marked_of_looksUp_prototype isCanonical covers isPart looks

include grounded pointers

theorem Sound.refersTo_type (sound : job.Sound root s) {type : CType} {native : Bool}
    (reaches : job.header.Reaches root (.type type)) (covers : job.CoversType s type) :
    RefersTo s.items (job.header.resolve s.given native type).references := by
  refine sound.refersTo coherent recordsNamed reaches fun name looks => ?_
  rcases covers with covers | ⟨prototype, calls, covers⟩
  · exact marked_of_looksUp sound.agree sound.explored coherent (coherent.typesUnfolded grounded)
      pointers reaches (fun mention inside => ⟨trivial, covers mention inside⟩) looks
  · exact marked_of_looksUp_pointer coherent pointers reaches calls covers looks

/-- The signatures of a function whose types have been exported refer to declared names. -/
theorem Sound.refersTo_function (sound : job.Sound root s) {decl : Decl} {binding : Binding}
    (reaches : ∀ type ∈ job.header.signatureTypes decl, job.header.Reaches root (.type type))
    (covers : ∀ type ∈ job.header.signatureTypes decl, job.CoversType s type)
    (bound : job.header.bindFunction s.given decl = .ok binding) :
    RefersTo s.items binding.references := by
  intro reference inside
  obtain ⟨type, isType, refers⟩ := (Header.mem_references_bindFunction bound).mp inside
  exact sound.refersTo_type coherent grounded pointers recordsNamed (reaches type isType)
    (covers type isType) reference refers

end

/-- The functions of the library class and its callbacks without a name, which are parameters of
    functions, refer to declared names. -/
def MembersClosed (s : Progress) : Prop :=
  (∀ entry ∈ s.calls, RefersTo s.items entry.2.references) ∧
    ∀ entry ∈ s.callbacks, entry.2.name = none → RefersTo s.items entry.2.references

theorem MembersClosed.start : MembersClosed {} := by
  constructor <;> intro entry inside <;> cases inside

theorem MembersClosed.of_keeps (closed : MembersClosed s) (keeps : s.KeepsMembers s')
    (grows : ∀ item ∈ s.items, item ∈ s'.items) : MembersClosed s' := by
  constructor
  · intro entry inside
    rw [keeps.calls] at inside
    exact (closed.1 entry inside).mono grows
  · intro entry inside unnamed
    rcases keeps.callbacks entry inside with before | named
    · exact (closed.2 entry before unnamed).mono grows
    · exact absurd unnamed named

section

variable (coherent : job.header.Coherent root) (grounded : job.header.TypesGrounded root)
  (pointers : job.header.PointeesOfPointers root) (recordsNamed : job.header.RecordsNamed root)

include coherent grounded pointers recordsNamed

theorem Step.membersClosed (step : job.Step root s s') (sound : job.Sound root s)
    (closed : MembersClosed s) : MembersClosed s' := by
  cases step with
  | exports within exports => exact closed.of_keeps exports.keepsMembers exports.items
  | reported => exact closed.of_keeps (.reported _) fun _ written => written
  | wrote => exact closed.of_keeps (.emitted _) fun _ => List.mem_append_left _
  | bound => exact closed.of_keeps (.of_eq rfl rfl) fun _ written => written
  | calledBack label reaches calls covers =>
    refine ⟨closed.1, fun entry inside unnamed => ?_⟩
    rcases List.mem_append.mp inside with before | added
    · exact closed.2 entry before unnamed
    · rw [List.mem_singleton.mp added]
      exact sound.refersTo_prototype coherent recordsNamed reaches calls covers
  | called newName reaches covers bound =>
    refine ⟨fun entry inside => ?_, closed.2⟩
    rcases List.mem_append.mp inside with before | added
    · exact closed.1 entry before
    · rw [List.mem_singleton.mp added]
      exact sound.refersTo_function coherent grounded pointers recordsNamed reaches covers bound

theorem Steps.membersClosed (unambiguous : job.header.Unambiguous root)
    (steps : job.Steps root s s') (sound : job.Sound root s) (closed : MembersClosed s) :
    MembersClosed s' := by
  induction steps with
  | refl => exact closed
  | tail before step ih =>
    have soundBefore := (Steps.sound coherent.tagTypes unambiguous before sound).1
    exact step.membersClosed coherent grounded pointers recordsNamed soundBefore ih

end

/-- After a successful run every function of the library class, and every callback that a parameter
    of a function became, refers to structures by names only that the text declares. -/
theorem boundSignatures_closed (coherent : job.header.Coherent root)
    (grounded : job.header.TypesGrounded root) (pointers : job.header.PointeesOfPointers root)
    (recordsNamed : job.header.RecordsNamed root) (unambiguous : job.header.Unambiguous root)
    {className : String} (run : (job.exportHeader className root).Succeeds {} () s) :
    (∀ entry ∈ s.calls, RefersTo s.items entry.2.references) ∧
      ∀ entry ∈ s.callbacks, entry.2.name = none → RefersTo s.items entry.2.references :=
  Steps.membersClosed coherent grounded pointers recordsNamed unambiguous
    (steps_of_exportHeader run) .start .start

end Job

/-- The function of the cycle refers to the second structure by a declared name, although the field
    of the first structure does not. -/
theorem CallbackCycle.call_refersTo :
    ∃ entry ∈ exported.calls, .given "X_B" ∈ entry.2.references ∧
      RefersTo exported.items entry.2.references := by
  have isCall : [.given "X_A", .given "X_B", .given "X_A", .given "X_B"] ∈
      exported.calls.map (·.2.references) := by simp [outcome.2.2]
  obtain ⟨entry, inside, same⟩ := List.mem_map.mp isCall
  refine ⟨entry, inside, by simp [same], ?_⟩
  exact (Job.boundSignatures_closed coherent grounded pointers recordsNamed unambiguous
    run).1 entry inside

/-!
Two headers show what is asked of types beyond coherence. In the first, a type definition stands for
itself, so that what it unfolds to is never mentioned; in the second, a type that is no pointer has
a pointee, which resolutions prefer and mentions leave out.
-/

namespace SelfDefinition

def recordA : CType := { kind := .record, spelling := "struct A", declaration := some 3 }

def pointerA : CType := { kind := .pointer, spelling := "struct A *", pointee := some recordA }

def itself : CType :=
  { kind := .typedef, spelling := "T", ownCanonical := some pointerA, declaration := some 2 }

def job : Job :=
  ⟨⟨#[{ kind := .unit, children := [1, 2, 3] },
    { kind := .function, name := some "f", resultType := some itself, arguments := some [] },
    { kind := .typedef, name := some "T", underlying := some itself },
    { kind := .struct, name := some "A" }]⟩, .prefixing⟩

def exported : Progress :=
  ((job.exportHeader "Lib" 0).outcome {}).2

theorem reaches_among {node : Node} (reaches : job.header.Reaches 0 node) :
    node.Among [0, 1, 2, 3] [recordA, pointerA, itself] := by
  have declLinks : [0, 1, 2, 3].map (fun id => job.header.links (.decl id)) =
      [[.decl 1, .decl 2, .decl 3], [.type itself], [.type itself], []] := rfl
  have typeLinks : [recordA, pointerA, itself].map (fun type => job.header.links (.type type)) =
      [[.decl 3], [.type recordA], [.type pointerA, .decl 2]] := rfl
  exact reaches.among_of_links declLinks typeLinks (by decide) (by simp [Node.Among])

theorem coherent : job.header.Coherent 0 := by
  intro type reaches
  have among : type ∈ [recordA, pointerA, itself] := reaches_among reaches
  simp only [List.mem_cons, List.not_mem_nil, or_false] at among
  rcases among with rfl | rfl | rfl
  all_goals
    refine ⟨⟨?_, ?_⟩, ?_, ?_, ?_, ?_, ?_, ?_, ?_, ?_⟩ <;>
      simp [Header.decl, job, Header.IsDefined, CType.IsTagged, CType.parts, CType.canonical,
        TypeKind.isFunction, Decl.properName?, recordA, pointerA, itself]

theorem unambiguous : job.header.Unambiguous 0 :=
  .of_distinct (fun _ reaches => reaches_among reaches) (by decide)

theorem recordsNamed : job.header.RecordsNamed 0 := by
  intro type id reaches kind declared
  have among : type ∈ [recordA, pointerA, itself] := reaches_among reaches
  simp only [List.mem_cons, List.not_mem_nil, or_false] at among
  rcases among with rfl | rfl | rfl
  all_goals first | exact absurd kind (by decide) | (cases declared; decide)

theorem outcome : ((job.exportHeader "Lib" 0).outcome {}).1 = .ok () ∧
    exported.calls.map (·.2.references) = [[.own "A", .own "A"]] := by
  constructor <;> cbv

theorem run : (job.exportHeader "Lib" 0).Succeeds {} () exported :=
  .of_fst outcome.1

end SelfDefinition

namespace StrayPointee

def recordA : CType := { kind := .record, spelling := "struct A", declaration := some 3 }

def recordB : CType := { kind := .record, spelling := "struct B", declaration := some 4 }

def pointerA : CType := { kind := .pointer, spelling := "struct A *", pointee := some recordA }

def stray : CType :=
  { kind := .typedef, spelling := "T", ownCanonical := some pointerA, pointee := some recordB,
    declaration := some 2 }

def job : Job :=
  ⟨⟨#[{ kind := .unit, children := [1, 2, 3, 4] },
    { kind := .function, name := some "f", resultType := some stray, arguments := some [] },
    { kind := .typedef, name := some "T", underlying := some pointerA },
    { kind := .struct, name := some "A" },
    { kind := .struct, name := some "B" }]⟩, .prefixing⟩

def exported : Progress :=
  ((job.exportHeader "Lib" 0).outcome {}).2

theorem reaches_among {node : Node} (reaches : job.header.Reaches 0 node) :
    node.Among [0, 1, 2, 3, 4] [recordA, recordB, pointerA, stray] := by
  have declLinks : [0, 1, 2, 3, 4].map (fun id => job.header.links (.decl id)) =
      [[.decl 1, .decl 2, .decl 3, .decl 4], [.type stray], [.type pointerA], [], []] := rfl
  have typeLinks : [recordA, recordB, pointerA, stray].map (fun type => job.header.links (.type type)) =
      [[.decl 3], [.decl 4], [.type recordA], [.type pointerA, .type recordB, .decl 2]] := rfl
  exact reaches.among_of_links declLinks typeLinks (by decide) (by simp [Node.Among])

theorem coherent : job.header.Coherent 0 := by
  intro type reaches
  have among : type ∈ [recordA, recordB, pointerA, stray] := reaches_among reaches
  simp only [List.mem_cons, List.not_mem_nil, or_false] at among
  rcases among with rfl | rfl | rfl | rfl
  all_goals
    refine ⟨⟨?_, ?_⟩, ?_, ?_, ?_, ?_, ?_, ?_, ?_, ?_⟩ <;>
      simp [Header.decl, job, Header.IsDefined, CType.IsTagged, CType.parts, CType.canonical,
        TypeKind.isFunction, Decl.properName?, recordA, recordB, pointerA, stray]

theorem unambiguous : job.header.Unambiguous 0 :=
  .of_distinct (fun _ reaches => reaches_among reaches) (by decide)

theorem recordsNamed : job.header.RecordsNamed 0 := by
  intro type id reaches kind declared
  have among : type ∈ [recordA, recordB, pointerA, stray] := reaches_among reaches
  simp only [List.mem_cons, List.not_mem_nil, or_false] at among
  rcases among with rfl | rfl | rfl | rfl
  all_goals first | exact absurd kind (by decide) | (cases declared; decide)

theorem outcome : ((job.exportHeader "Lib" 0).outcome {}).1 = .ok () ∧
    exported.calls.map (·.2.references) = [[.own "B", .own "B"]] := by
  constructor <;> cbv

theorem run : (job.exportHeader "Lib" 0).Succeeds {} () exported :=
  .of_fst outcome.1

end StrayPointee

/-- In a coherent header with unambiguous names, where every structure has a name, a successful run
    may still leave a function that refers to a structure by its own name: when a type definition
    stands for itself, or when a type that is no pointer has a pointee. -/
theorem boundSignatures_not_closed :
    (SelfDefinition.job.header.Coherent 0 ∧ SelfDefinition.job.header.Unambiguous 0 ∧
      SelfDefinition.job.header.RecordsNamed 0 ∧
      (SelfDefinition.job.exportHeader "Lib" 0).Succeeds {} () SelfDefinition.exported ∧
      ∃ entry ∈ SelfDefinition.exported.calls, .own "A" ∈ entry.2.references) ∧
    (StrayPointee.job.header.Coherent 0 ∧ StrayPointee.job.header.Unambiguous 0 ∧
      StrayPointee.job.header.RecordsNamed 0 ∧
      (StrayPointee.job.exportHeader "Lib" 0).Succeeds {} () StrayPointee.exported ∧
      ∃ entry ∈ StrayPointee.exported.calls, .own "B" ∈ entry.2.references) := by
  have ofFirst : [.own "A", .own "A"] ∈ SelfDefinition.exported.calls.map (·.2.references) := by
    simp [SelfDefinition.outcome.2]
  have ofSecond : [.own "B", .own "B"] ∈ StrayPointee.exported.calls.map (·.2.references) := by
    simp [StrayPointee.outcome.2]
  obtain ⟨call, isCall, refers⟩ := List.mem_map.mp ofFirst
  obtain ⟨other, isOther, refersOther⟩ := List.mem_map.mp ofSecond
  exact ⟨⟨SelfDefinition.coherent, SelfDefinition.unambiguous, SelfDefinition.recordsNamed,
      SelfDefinition.run, call, isCall, by simp [refers]⟩,
    ⟨StrayPointee.coherent, StrayPointee.unambiguous, StrayPointee.recordsNamed,
      StrayPointee.run, other, isOther, by simp [refersOther]⟩⟩

end HeaderBindings
