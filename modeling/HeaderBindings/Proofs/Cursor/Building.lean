import HeaderBindings.Proofs.Cursor.Discovery

/-!
# Building declarations in one pass

Declarations can be built while they are discovered. A memo holds a declaration for each key met so
far. A declaration is put there before it has any parts, so that a cycle comes back to it, and its
parts are filled in while the memo goes on growing. In the end the memo is the table of
declarations: nothing that was put there unfinished has stayed so.
-/

namespace HeaderBindings

namespace CursorGraph

/-- The declarations built so far by their keys, some of them still without all their parts. The
    place of a declaration is its index. -/
abbrev Memo := List (Cursor.Key × Decl)

/-- A part of the construction. It comes to nothing if the budget of its nesting is used up. -/
abbrev Builder := StateT Memo Option

/-- The memo with the declaration at a place changed. -/
def Memo.change (memo : Memo) (place : DeclId) (change : Decl → Decl) : Memo :=
  memo.modify place fun entry => (entry.1, change entry.2)

namespace Builder

/-- Changes the declaration at a place. -/
def update (place : DeclId) (change : Decl → Decl) : Builder Unit :=
  modify fun memo => Memo.change memo place change

/-- Builds a part of the declaration at a place, and then puts it there. -/
def assign {α : Type} (place : DeclId) (part : Builder α) (change : α → Decl → Decl) :
    Builder Unit := do
  let value ← part
  update place (change value)

end Builder

open Builder

variable (graph : CursorGraph)

section

variable (visit : CursorId → Builder DeclId)

mutual

def buildType : (isCanonical : Bool) → CursorType → Builder CType
  | isCanonical, ⟨kindName, spelling, canonical, pointee, result, arguments, declaration⟩ => do
      let kind := TypeKind.ofName kindName
      let ownCanonical ←
        (if isCanonical then pure none else buildCanonical canonical : Builder (Option CType))
      let pointee ←
        (if kind = .pointer then buildOption pointee else pure none : Builder (Option CType))
      let result ←
        (if kind.isFunction then buildOption result else pure none : Builder (Option CType))
      let arguments ←
        (if kind = .function then buildList arguments else pure [] : Builder (List CType))
      let declaration ← (graph.declared declaration).mapM visit
      return {
        kind := kind, spelling := spelling, rawKind := kindName, ownCanonical := ownCanonical,
        pointee := pointee, result := result, arguments := arguments, declaration := declaration }

def buildCanonical : Option CursorType → Builder (Option CType)
  | none => pure none
  | some type => some <$> buildType true type

def buildOption : Option CursorType → Builder (Option CType)
  | none => pure none
  | some type => some <$> buildType false type

def buildList : List CursorType → Builder (List CType)
  | [] => pure []
  | type :: rest => do
      let first ← buildType false type
      let others ← buildList rest
      return first :: others

end

/-- Fills in the parts of the declaration at a place, those that a declaration of its kind has. -/
def fill (place : DeclId) (cursor : Cursor) : Builder Unit :=
  match cursor.kind with
  | .unit | .struct =>
      assign place ((graph.membersOf cursor).mapM visit) fun children decl =>
        { decl with children := children }
  | .enum => do
      assign place (graph.buildOption visit cursor.enumType) fun type decl =>
        { decl with underlying := type }
      assign place ((graph.membersOf cursor).mapM visit) fun children decl =>
        { decl with children := children }
  | .enumConstant => update place fun decl => { decl with value := cursor.enumValue }
  | .typedef =>
      assign place (graph.buildOption visit cursor.typedefType) fun type decl =>
        { decl with underlying := type }
  | .function => do
      assign place (graph.buildOption visit cursor.type) fun type decl =>
        { decl with type := type }
      assign place (graph.buildOption visit cursor.resultType) fun type decl =>
        { decl with resultType := type }
      assign place (cursor.arguments.mapM visit) fun arguments decl =>
        { decl with arguments := some arguments }
  | .field | .parameter =>
      assign place (graph.buildOption visit cursor.type) fun type decl => { decl with type := type }
  | .unsupported => pure ()

end

/-- A declaration before its parts are filled in. -/
def blank (cursor : Cursor) : Decl :=
  { kind := cursor.kind
    name := Cursor.nameOf cursor.spelling
    comment := cursor.comment
    rawKind := cursor.kindName }

/-- Builds the declaration that a cursor stands for, unless the memo has it, and gives its place. -/
def buildDecl : Nat → CursorId → Builder DeclId
  | budget, id => do
      let memo ← get
      let key := graph.keyOf id
      if memo.any (·.1 = key) then return memo.findIdx (·.1 = key)
      else
        match budget with
        | 0 => failure
        | budget + 1 =>
            let cursor := graph.cursor (graph.definitionOf id)
            set (memo ++ [(key, blank cursor)])
            graph.fill (buildDecl budget) memo.length cursor
            return memo.length

/-! ## What a part of the construction builds -/

/-- The finished entries of the memo for what was found, where `final` is all that is found in the
    end. -/
def built (final found : Found) : Memo :=
  found.map fun entry => (entry.1, graph.declarationOf final (graph.cursor entry.2))

/-- A part of the construction follows the cursors `ids` and gives `value`: it leaves the entries
    that the memo has as they are, those of unfinished declarations too, and adds finished entries
    for all that it finds. -/
def Builds {α : Type} (final : Found) (budget : Nat) (part : Builder α) (ids : List CursorId)
    (value : α) : Prop :=
  ∀ (memo : Memo) (found : Found), memo.map (·.1) = found.keys →
    (graph.unfound found).card ≤ budget → ids.foldl (graph.discover budget) found <+: final →
      ∃ new, ids.foldl (graph.discover budget) found = found ++ new ∧
        part.run memo = some (value, memo ++ graph.built final new)

/-- A way to build declarations gives their places. -/
def BuildsPlaces (final : Found) (budget : Nat) (visit : CursorId → Builder DeclId) : Prop :=
  ∀ id, graph.Builds final budget (visit id) [id] (graph.placeOf final id)

/-- A part of the construction follows the cursors `ids` and changes the declaration at a place. -/
def Fills (final : Found) (budget : Nat) (place : DeclId) (part : Builder Unit)
    (ids : List CursorId) (change : Decl → Decl) : Prop :=
  ∀ (memo : Memo) (found : Found), memo.map (·.1) = found.keys → place < memo.length →
    (graph.unfound found).card ≤ budget → ids.foldl (graph.discover budget) found <+: final →
      ∃ new, ids.foldl (graph.discover budget) found = found ++ new ∧
        part.run memo = some ((), Memo.change memo place change ++ graph.built final new)

variable {graph} {final found : Found} {budget : Nat}

theorem prefix_foldl_discover (ids : List CursorId) :
    found <+: ids.foldl (graph.discover budget) found :=
  prefix_foldl (prefix_discover budget) ids found

theorem keys_append_built {memo : Memo} (sameKeys : memo.map (·.1) = found.keys) (new : Found) :
    (memo ++ graph.built final new).map (·.1) = Found.keys (found ++ new) := by
  simp only [List.map_append, sameKeys, Found.keys, built, List.map_map, Function.comp_def]

theorem built_append (first second : Found) :
    graph.built final (first ++ second) = graph.built final first ++ graph.built final second :=
  List.map_append

namespace Builds

variable {α β : Type}

theorem pure (value : α) : graph.Builds final budget (Pure.pure value) [] value := by
  intro memo found _ _ _
  exact ⟨[], (List.append_nil found).symm, by simp [built]⟩

/-- Two parts are built one after the other; what is found in the end is the same for both, so their
    places agree. -/
theorem bind {part : Builder α} {next : α → Builder β} {ids ids' : List CursorId} {value : α}
    {value' : β} (first : graph.Builds final budget part ids value)
    (rest : graph.Builds final budget (next value) ids' value') :
    graph.Builds final budget (part >>= next) (ids ++ ids') value' := by
  intro memo found sameKeys enough isPrefix
  rw [List.foldl_append] at isPrefix ⊢
  obtain ⟨new, finds, builds⟩ :=
    first memo found sameKeys enough ((prefix_foldl_discover ids').trans isPrefix)
  rw [finds] at isPrefix ⊢
  have fewer : (graph.unfound (found ++ new)).card ≤ _ :=
    card_unfound_anti (List.prefix_append found new)
  obtain ⟨new', finds', builds'⟩ :=
    rest _ _ (keys_append_built sameKeys new) (fewer.trans enough) isPrefix
  refine ⟨new ++ new', finds'.trans (List.append_assoc _ _ _), ?_⟩
  rw [StateT.run_bind, builds]
  exact builds'.trans (by rw [built_append, List.append_assoc])

theorem bind_pure {part : Builder α} {ids : List CursorId} {value : α}
    (builds : graph.Builds final budget part ids value) (f : α → β) :
    graph.Builds final budget (part >>= fun value => Pure.pure (f value)) ids (f value) := by
  rw [← List.append_nil ids]
  exact builds.bind (.pure (f value))

theorem map {part : Builder α} {ids : List CursorId} {value : α}
    (builds : graph.Builds final budget part ids value) (f : α → β) :
    graph.Builds final budget (f <$> part) ids (f value) := by
  rw [map_eq_pure_bind]
  exact builds.bind_pure f

theorem mapM {visit : CursorId → Builder α} {place : CursorId → α}
    (each : ∀ id, graph.Builds final budget (visit id) [id] (place id)) (ids : List CursorId) :
    graph.Builds final budget (ids.mapM visit) ids (ids.map place) := by
  induction ids with
  | nil => exact .pure []
  | cons id rest ih =>
    rw [List.mapM_cons]
    exact Builds.bind (each id) (ih.bind_pure (place id :: ·))

theorem optionMapM {visit : CursorId → Builder α} {place : CursorId → α}
    (each : ∀ id, graph.Builds final budget (visit id) [id] (place id)) (id? : Option CursorId) :
    graph.Builds final budget (id?.mapM visit) id?.toList (id?.map place) := by
  cases id? with
  | none => exact .pure none
  | some id => exact (each id).map some

theorem ite {condition : Prop} [Decidable condition] {part other : Builder α}
    {ids ids' : List CursorId} {value value' : α} (yes : graph.Builds final budget part ids value)
    (no : graph.Builds final budget other ids' value') :
    graph.Builds final budget (if condition then part else other) (if condition then ids else ids')
      (if condition then value else value') := by
  split
  · exact yes
  · exact no

end Builds

/-- The links of a type, part by part. -/
theorem typeLinks_eq (isCanonical : Bool) (kindName spelling : String)
    (canonical pointee result : Option CursorType) (arguments : List CursorType)
    (declaration : Option CursorId) :
    graph.typeLinks isCanonical
        ⟨kindName, spelling, canonical, pointee, result, arguments, declaration⟩ =
      (if isCanonical then [] else graph.canonicalLinks canonical) ++
        ((if TypeKind.ofName kindName = .pointer then graph.optionLinks pointee else []) ++
          ((if (TypeKind.ofName kindName).isFunction then graph.optionLinks result else []) ++
            ((if TypeKind.ofName kindName = .function then graph.listLinks arguments else []) ++
              (graph.declared declaration).toList))) := by
  rw [typeLinks]
  cases TypeKind.ofName kindName <;> simp [TypeKind.isFunction]

variable {visit : CursorId → Builder DeclId}

mutual

theorem builds_type (each : graph.BuildsPlaces final budget visit) (isCanonical : Bool)
    (type : CursorType) :
    graph.Builds final budget (graph.buildType visit isCanonical type)
      (graph.typeLinks isCanonical type) (graph.typeOf final isCanonical type) := by
  match type with
  | ⟨kindName, spelling, canonical, pointee, result, arguments, declaration⟩ =>
    rw [typeLinks_eq, buildType, typeOf]
    refine Builds.bind (.ite (.pure none) (builds_canonical each canonical)) ?_
    refine Builds.bind (.ite (builds_option each pointee) (.pure none)) ?_
    refine Builds.bind (.ite (builds_option each result) (.pure none)) ?_
    refine Builds.bind (.ite (builds_list each arguments) (.pure [])) ?_
    exact (Builds.optionMapM each (graph.declared declaration)).bind_pure _

theorem builds_canonical (each : graph.BuildsPlaces final budget visit) (type : Option CursorType) :
    graph.Builds final budget (graph.buildCanonical visit type) (graph.canonicalLinks type)
      (graph.canonicalOf final type) := by
  match type with
  | none => exact .pure none
  | some type => exact (builds_type each true type).map some

theorem builds_option (each : graph.BuildsPlaces final budget visit) (type : Option CursorType) :
    graph.Builds final budget (graph.buildOption visit type) (graph.optionLinks type)
      (graph.optionOf final type) := by
  match type with
  | none => exact .pure none
  | some type => exact (builds_type each false type).map some

theorem builds_list (each : graph.BuildsPlaces final budget visit) (types : List CursorType) :
    graph.Builds final budget (graph.buildList visit types) (graph.listLinks types)
      (graph.listOf final types) := by
  match types with
  | [] => exact .pure []
  | type :: rest =>
    rw [buildList, listLinks, listOf]
    exact Builds.bind (builds_type each false type) ((builds_list each rest).bind_pure _)

end

/-! ## Filling in the parts of a declaration -/

namespace Memo

variable {memo : Memo} {place : DeclId}

theorem map_fst_change (change : Decl → Decl) :
    (memo.change place change).map (·.1) = memo.map (·.1) := by
  induction memo generalizing place with
  | nil => cases place <;> rfl
  | cons entry rest ih =>
    cases place with
    | zero => rfl
    | succ place => exact congrArg (entry.1 :: ·) ih

theorem length_change (change : Decl → Decl) : (memo.change place change).length = memo.length :=
  List.length_modify _ _ _

theorem change_change (change change' : Decl → Decl) :
    (memo.change place change).change place change' = memo.change place (change' ∘ change) :=
  List.modify_modify_eq _ _ _ _

theorem change_append (inside : place < memo.length) (change : Decl → Decl) (later : Memo) :
    Memo.change (memo ++ later) place change = memo.change place change ++ later := by
  induction memo generalizing place with
  | nil => exact absurd inside (Nat.not_lt_zero place)
  | cons entry rest ih =>
    cases place with
    | zero => rfl
    | succ place => exact congrArg (entry :: ·) (ih (Nat.lt_of_succ_lt_succ inside))

theorem change_last (memo : Memo) (key : Cursor.Key) (decl : Decl) (change : Decl → Decl) :
    Memo.change (memo ++ [(key, decl)]) memo.length change = memo ++ [(key, change decl)] := by
  simp [Memo.change, List.modify_eq_take_drop]

end Memo

namespace Fills

variable {α : Type} {place : DeclId}

theorem pure : graph.Fills final budget place (Pure.pure ()) [] id := by
  intro memo found _ _ _ _
  refine ⟨[], (List.append_nil found).symm, ?_⟩
  have unchanged : Memo.change memo place id = memo := List.modify_id place memo
  rw [unchanged, built, List.map_nil, List.append_nil]
  rfl

theorem update (change : Decl → Decl) :
    graph.Fills final budget place (Builder.update place change) [] change := by
  intro memo found _ _ _ _
  exact ⟨[], (List.append_nil found).symm, by simp [Builder.update, built]⟩

theorem assign {part : Builder α} {ids : List CursorId} {value : α}
    (builds : graph.Builds final budget part ids value) (change : α → Decl → Decl) :
    graph.Fills final budget place (Builder.assign place part change) ids (change value) := by
  intro memo found sameKeys inside enough isPrefix
  obtain ⟨new, finds, builds⟩ := builds memo found sameKeys enough isPrefix
  refine ⟨new, finds, ?_⟩
  rw [Builder.assign, StateT.run_bind, builds, ← Memo.change_append inside]
  rfl

theorem seq {part other : Builder Unit} {ids ids' : List CursorId} {change change' : Decl → Decl}
    (first : graph.Fills final budget place part ids change)
    (rest : graph.Fills final budget place other ids' change') :
    graph.Fills final budget place (do part; other) (ids ++ ids') (change' ∘ change) := by
  intro memo found sameKeys inside enough isPrefix
  rw [List.foldl_append] at isPrefix ⊢
  obtain ⟨new, finds, fills⟩ :=
    first memo found sameKeys inside enough ((prefix_foldl_discover ids').trans isPrefix)
  rw [finds] at isPrefix ⊢
  have fewer : (graph.unfound (found ++ new)).card ≤ _ :=
    card_unfound_anti (List.prefix_append found new)
  have stillInside : place < (memo.change place change).length := by rwa [Memo.length_change]
  obtain ⟨new', finds', fills'⟩ :=
    rest _ _ (keys_append_built ((Memo.map_fst_change change).trans sameKeys) new)
      (List.length_append ▸ Nat.lt_add_right _ stillInside) (fewer.trans enough) isPrefix
  refine ⟨new ++ new', finds'.trans (List.append_assoc _ _ _), ?_⟩
  rw [StateT.run_bind, fills]
  refine fills'.trans ?_
  rw [Memo.change_append stillInside, Memo.change_change, built_append, List.append_assoc]

end Fills

/-- A blank declaration with its parts filled in is finished. -/
theorem fill_fills (each : graph.BuildsPlaces final budget visit) (place : DeclId)
    (cursor : Cursor) :
    ∃ change, graph.Fills final budget place (graph.fill visit place cursor) (graph.links cursor)
      change ∧ change (blank cursor) = graph.declarationOf final cursor := by
  unfold fill links declarationOf blank
  cases cursor.kind with
  | unit | struct => exact ⟨_, .assign (.mapM each _) _, rfl⟩
  | enum => exact ⟨_, .seq (.assign (builds_option each _) _) (.assign (.mapM each _) _), rfl⟩
  | typedef | field | parameter => exact ⟨_, .assign (builds_option each _) _, rfl⟩
  | enumConstant => exact ⟨_, .update _, rfl⟩
  | function =>
    dsimp only
    rw [List.append_assoc]
    exact ⟨_, .seq (.assign (builds_option each _) _)
      (.seq (.assign (builds_option each _) _) (.assign (.mapM each _) _)), rfl⟩
  | unsupported => exact ⟨_, .pure, rfl⟩

theorem findIdx_key {memo : Memo} (sameKeys : memo.map (·.1) = found.keys) (id : CursorId) :
    memo.findIdx (·.1 = graph.keyOf id) = graph.placeOf found id := by
  have ofKeys : ∀ {β : Type} (list : List (Cursor.Key × β)),
      list.findIdx (·.1 = graph.keyOf id) = (list.map (·.1)).findIdx (· = graph.keyOf id) :=
    fun list => by rw [List.findIdx_map]; rfl
  rw [placeOf, ofKeys, ofKeys, sameKeys, Found.keys]

theorem buildDecl_of_mem {memo : Memo} {id : CursorId}
    (known : graph.keyOf id ∈ memo.map (·.1)) :
    (graph.buildDecl budget id).run memo = some (memo.findIdx (·.1 = graph.keyOf id), memo) := by
  unfold buildDecl
  rw [StateT.run_bind]
  exact congrArg (StateT.run · memo) (if_pos (Found.any_iff_mem_keys.mpr known))

theorem buildDecl_succ_of_not_mem {memo : Memo} {id : CursorId}
    (unknown : graph.keyOf id ∉ memo.map (·.1)) :
    (graph.buildDecl (budget + 1) id).run memo =
      ((graph.fill (graph.buildDecl budget) memo.length
          (graph.cursor (graph.definitionOf id))).run
        (memo ++ [(graph.keyOf id, blank (graph.cursor (graph.definitionOf id)))])).map
      fun result => (memo.length, result.2) := by
  conv_lhs => unfold buildDecl
  rw [StateT.run_bind]
  refine (congrArg (StateT.run · memo) (if_neg (mt Found.any_iff_mem_keys.mp unknown))).trans ?_
  simp only [StateT.run_bind, StateT.run_set, StateT.run_pure, Option.pure_def, Option.bind_eq_bind,
    Option.bind_some]
  exact Option.map_eq_bind.symm

/-- A declaration that the memo has is not built again, even if it is unfinished. -/
theorem buildDecl_known {memo : Memo} {id : CursorId} (sameKeys : memo.map (·.1) = found.keys)
    (known : graph.keyOf id ∈ found.keys) (isPrefix : found <+: final) :
    ∃ new, graph.discover budget found id = found ++ new ∧
      (graph.buildDecl budget id).run memo =
        some (graph.placeOf final id, memo ++ graph.built final new) := by
  refine ⟨[], by rw [discover_of_mem known, List.append_nil], ?_⟩
  rw [buildDecl_of_mem (sameKeys ▸ known), findIdx_key sameKeys,
    placeOf_stable isPrefix known, built, List.map_nil, List.append_nil]

/-- Building a declaration gives its place, and leaves finished declarations behind. Its parts are
    built while the memo holds the blank declaration, so a cycle finds its place. -/
theorem builds_decl (budget : Nat) : graph.BuildsPlaces final budget (graph.buildDecl budget) := by
  induction budget with
  | zero =>
    intro id memo found sameKeys enough isPrefix
    exact buildDecl_known sameKeys (keyOf_mem_of_card_le_zero enough id) isPrefix
  | succ budget ih =>
    intro id memo found sameKeys enough isPrefix
    by_cases known : graph.keyOf id ∈ found.keys
    · exact buildDecl_known sameKeys known ((prefix_foldl_discover [id]).trans isPrefix)
    · rw [List.foldl_cons, List.foldl_nil, discover_succ_of_not_mem known] at isPrefix ⊢
      obtain ⟨change, fills, finishes⟩ :=
        fill_fills ih memo.length (graph.cursor (graph.definitionOf id))
      obtain ⟨new, finds, filled⟩ :=
        fills (memo ++ [(graph.keyOf id, blank (graph.cursor (graph.definitionOf id)))])
          (found ++ [graph.entryOf id]) (by simp [sameKeys, Found.keys, entryOf]) (by simp)
          (card_unfound_append known enough) isPrefix
      have sameLength : memo.length = found.length := by
        simpa [Found.keys] using congrArg List.length sameKeys
      have place : graph.placeOf final id = memo.length := by
        rw [placeOf_stable ((prefix_foldl_discover _).trans isPrefix)
          (by simp [Found.keys, entryOf]), placeOf_append_entryOf known, sameLength]
      refine ⟨graph.entryOf id :: new, by rw [finds, List.append_assoc]; rfl, ?_⟩
      rw [buildDecl_succ_of_not_mem (sameKeys ▸ known), filled, Memo.change_last, finishes, place]
      simp only [Option.map_some, built, List.map_cons, List.append_assoc, List.cons_append,
        List.nil_append, entryOf]

theorem placeOf_root (root : CursorId) : graph.placeOf (graph.reachable root) root = rootPlace := by
  have first : [graph.entryOf root] <+: graph.reachable root := by
    rw [reachable, discover_succ_of_not_mem List.not_mem_nil]
    exact prefix_foldl_discover _
  rw [placeOf_stable first (by simp [Found.keys, entryOf])]
  simp [placeOf, entryOf, rootPlace, List.findIdx_cons]

theorem toList_decls (root : CursorId) :
    (graph.header root).decls.toList =
      (graph.built (graph.reachable root) (graph.reachable root)).map (·.2) := by
  simp [header, built]

/-- The construction in one pass ends with the table of declarations, and gives the place of the
    declaration that it began with. -/
theorem buildDecl_root {root : CursorId} (enough : graph.cursors.size < budget) :
    (graph.buildDecl budget root).run [] =
      some (rootPlace, (graph.reachable root).keys.zip (graph.header root).decls.toList) := by
  have finds := discover_of_size_lt enough root
  have builds : graph.BuildsPlaces (graph.reachable root) budget (graph.buildDecl budget) :=
    builds_decl budget
  obtain ⟨new, isNew, built⟩ := builds root [] [] rfl ((card_unfound_le []).trans enough)
    (by rw [List.foldl_cons, List.foldl_nil, finds])
  rw [List.foldl_cons, List.foldl_nil, finds, List.nil_append] at isNew
  rw [built, List.nil_append, ← isNew, placeOf_root, toList_decls]
  simp only [CursorGraph.built, Found.keys, List.map_map, List.zip_map', Function.comp_def]

end CursorGraph

end HeaderBindings
