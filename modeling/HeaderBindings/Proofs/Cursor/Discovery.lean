import Mathlib.Data.Finset.Card
import HeaderBindings.Cursor.Declarations

/-!
# What discovery finds

Discovery follows links and lists a declaration before what it leads to. What it has found only
grows, and every nested step finds a new key; so a budget for each key of the graph is never used
up, and what is found in the end is closed: with a declaration it holds all that the cursor of the
declaration leads to.
-/

namespace HeaderBindings

namespace CursorGraph

variable {graph : CursorGraph}

/-- The cursors that the links of a graph lead to, the links of a cursor being those of the cursor
    that stands for its declaration. -/
inductive Reaches (graph : CursorGraph) (root : CursorId) : CursorId → Prop where
  | root : Reaches graph root root
  | link {id next : CursorId} (reached : Reaches graph root id)
      (isLink : next ∈ graph.links (graph.cursor (graph.definitionOf id))) :
      Reaches graph root next

/-- Cursors from which no link leads out are all that one of them reaches. -/
theorem Reaches.mem_of_closed {root : CursorId} {ids : List CursorId}
    (closed : ∀ id ∈ ids, ∀ next ∈ graph.links (graph.cursor (graph.definitionOf id)), next ∈ ids)
    (inside : root ∈ ids) {id : CursorId} (reached : graph.Reaches root id) : id ∈ ids := by
  induction reached with
  | root => exact inside
  | link _ isLink ih => exact closed _ ih _ isLink

/-- What discovery notes about the declaration that a cursor stands for. -/
def entryOf (graph : CursorGraph) (id : CursorId) : Cursor.Key × CursorId :=
  (graph.keyOf id, graph.definitionOf id)

namespace Found

def keys (found : Found) : List Cursor.Key :=
  found.map (·.1)

theorem mem_keys {found : Found} {key : Cursor.Key} :
    key ∈ found.keys ↔ ∃ entry ∈ found, entry.1 = key := by
  simp only [keys, List.mem_map]

theorem any_iff_mem_keys {α : Type} {entries : List (Cursor.Key × α)} {key : Cursor.Key} :
    entries.any (·.1 = key) = true ↔ key ∈ entries.map (·.1) := by
  simp

theorem keys_mono {found found' : Found} (extended : found <+: found')
    {key : Cursor.Key} (isKey : key ∈ found.keys) : key ∈ found'.keys := by
  obtain ⟨entry, isFound, rfl⟩ := mem_keys.mp isKey
  exact mem_keys.mpr ⟨entry, extended.subset isFound, rfl⟩

end Found

theorem discover_of_mem {budget : Nat} {found : Found} {id : CursorId}
    (known : graph.keyOf id ∈ found.keys) : graph.discover budget found id = found := by
  cases budget with
  | zero => rfl
  | succ budget => exact if_pos (Found.any_iff_mem_keys.mpr known)

theorem discover_succ_of_not_mem {budget : Nat} {found : Found} {id : CursorId}
    (unknown : graph.keyOf id ∉ found.keys) :
    graph.discover (budget + 1) found id =
      (graph.links (graph.cursor (graph.definitionOf id))).foldl (graph.discover budget)
        (found ++ [graph.entryOf id]) :=
  if_neg (mt Found.any_iff_mem_keys.mp unknown)

theorem prefix_foldl {step : Found → CursorId → Found} (grows : ∀ found id, found <+: step found id)
    (ids : List CursorId) (found : Found) : found <+: ids.foldl step found := by
  induction ids generalizing found with
  | nil => exact List.prefix_rfl
  | cons id rest ih => exact (grows found id).trans (ih _)

/-- What was found stays found. -/
theorem prefix_discover (budget : Nat) (found : Found) (id : CursorId) :
    found <+: graph.discover budget found id := by
  induction budget generalizing found id with
  | zero => exact List.prefix_rfl
  | succ budget ih =>
    by_cases known : graph.keyOf id ∈ found.keys
    · rw [discover_of_mem known]
    · rw [discover_succ_of_not_mem known]
      exact (List.prefix_append _ _).trans (prefix_foldl ih _ _)

/-- Discovery preserves what a new entry for a reached cursor preserves. -/
theorem discover_preserves {root : CursorId} (Property : Found → Prop)
    (add : ∀ found id, graph.Reaches root id → graph.keyOf id ∉ found.keys → Property found →
      Property (found ++ [graph.entryOf id]))
    {budget : Nat} {found : Found} {id : CursorId} (reached : graph.Reaches root id)
    (holds : Property found) : Property (graph.discover budget found id) := by
  induction budget generalizing found id with
  | zero => exact holds
  | succ budget ih =>
    by_cases known : graph.keyOf id ∈ found.keys
    · rwa [discover_of_mem known]
    · rw [discover_succ_of_not_mem known]
      exact List.foldlRecOn _ _ (add found id reached known holds) fun found holds next isLink =>
        ih (reached.link isLink) holds

theorem definitionOf_of_size_le {id : CursorId} (outside : graph.cursors.size ≤ id) :
    graph.definitionOf id = id := by
  have none : graph.cursor id = { kindName := Cursor.noDeclaration } := by
    simp [cursor, Array.getD_eq_getD_getElem?, Array.getElem?_eq_none outside]
  rw [definitionOf, if_neg (by simp [none, Cursor.noDeclaration])]

/-- The keys of all cursors; those of the cursors outside the graph are one. -/
def keys (graph : CursorGraph) : Finset Cursor.Key :=
  (Finset.range (graph.cursors.size + 1)).image graph.keyOf

theorem keyOf_mem_keys (id : CursorId) : graph.keyOf id ∈ graph.keys := by
  rw [keys, Finset.mem_image]
  by_cases inside : id < graph.cursors.size
  · exact ⟨id, Finset.mem_range.mpr (Nat.lt_succ_of_lt inside), rfl⟩
  · have outside := Nat.not_lt.mp inside
    refine ⟨graph.cursors.size, Finset.mem_range.mpr (Nat.lt_succ_self _), ?_⟩
    rw [keyOf, keyOf, definitionOf_of_size_le (Nat.le_refl _), definitionOf_of_size_le outside]
    simp [cursor, Array.getD_eq_getD_getElem?, Array.getElem?_eq_none outside]

theorem card_keys_le : graph.keys.card ≤ graph.cursors.size + 1 :=
  Finset.card_image_le.trans (Finset.card_range _).le

/-- The keys of cursors whose declarations are not yet found. -/
def unfound (graph : CursorGraph) (found : Found) : Finset Cursor.Key :=
  graph.keys \ found.keys.toFinset

theorem card_unfound_le (found : Found) : (graph.unfound found).card ≤ graph.cursors.size + 1 :=
  (Finset.card_le_card Finset.sdiff_subset).trans card_keys_le

theorem unfound_anti {found found' : Found} (extended : found <+: found') :
    graph.unfound found' ⊆ graph.unfound found := by
  refine Finset.sdiff_subset_sdiff subset_rfl fun key isKey => ?_
  exact List.mem_toFinset.mpr (Found.keys_mono extended (List.mem_toFinset.mp isKey))

theorem card_unfound_anti {found found' : Found} (extended : found <+: found') :
    (graph.unfound found').card ≤ (graph.unfound found).card :=
  Finset.card_le_card (unfound_anti extended)

theorem mem_unfound {found : Found} {id : CursorId} (unknown : graph.keyOf id ∉ found.keys) :
    graph.keyOf id ∈ graph.unfound found :=
  Finset.mem_sdiff.mpr ⟨keyOf_mem_keys id, fun isKey => unknown (List.mem_toFinset.mp isKey)⟩

/-- Where no key is left to be found, that of every cursor is among those found. -/
theorem keyOf_mem_of_card_le_zero {found : Found} (enough : (graph.unfound found).card ≤ 0)
    (id : CursorId) : graph.keyOf id ∈ found.keys := by
  by_contra unknown
  have isOpen := Finset.card_pos.mpr ⟨_, mem_unfound unknown⟩
  omega

/-- A new entry pays for one level of nesting. -/
theorem card_unfound_append {found : Found} {id : CursorId} {budget : Nat}
    (unknown : graph.keyOf id ∉ found.keys) (enough : (graph.unfound found).card ≤ budget + 1) :
    (graph.unfound (found ++ [graph.entryOf id])).card ≤ budget := by
  have fewer : graph.unfound (found ++ [graph.entryOf id]) ⊂ graph.unfound found := by
    refine (Finset.ssubset_iff_of_subset (unfound_anti (List.prefix_append _ _))).mpr ?_
    refine ⟨graph.keyOf id, mem_unfound unknown, ?_⟩
    simp [unfound, Found.keys, entryOf]
  exact Nat.le_of_lt_succ ((Finset.card_lt_card fewer).trans_le enough)

theorem foldl_eq_of_enough {budget : Nat} {step other : Found → CursorId → Found}
    (grows : ∀ found id, found <+: step found id)
    (same : ∀ found id, (graph.unfound found).card ≤ budget → other found id = step found id)
    (ids : List CursorId) (found : Found) (enough : (graph.unfound found).card ≤ budget) :
    ids.foldl other found = ids.foldl step found := by
  induction ids generalizing found with
  | nil => rfl
  | cons id rest ih =>
    rw [List.foldl_cons, List.foldl_cons, same found id enough]
    exact ih _ ((card_unfound_anti (grows found id)).trans enough)

/-- A budget for each key that is not yet found is never used up. -/
theorem discover_succ {budget : Nat} {found : Found} {id : CursorId}
    (enough : (graph.unfound found).card ≤ budget) :
    graph.discover (budget + 1) found id = graph.discover budget found id := by
  induction budget generalizing found id with
  | zero =>
    have known := keyOf_mem_of_card_le_zero enough id
    rw [discover_of_mem known, discover_of_mem known]
  | succ budget ih =>
    by_cases known : graph.keyOf id ∈ found.keys
    · rw [discover_of_mem known, discover_of_mem known]
    · rw [discover_succ_of_not_mem known, discover_succ_of_not_mem known]
      exact foldl_eq_of_enough (prefix_discover budget) (fun _ _ enough => ih enough) _ _
        (card_unfound_append known enough)

theorem discover_of_size_lt {budget : Nat} (enough : graph.cursors.size < budget)
    (root : CursorId) : graph.discover budget [] root = graph.reachable root := by
  obtain ⟨extra, rfl⟩ := Nat.exists_eq_add_of_lt enough
  induction extra with
  | zero => rfl
  | succ extra ih =>
    rw [← ih (by omega)]
    exact discover_succ ((card_unfound_le []).trans (by omega))

/-- From what is found to what is found after some cursors were followed: these are found, and so is
    all that the new entries lead to. -/
structure Explores (graph : CursorGraph) (ids : List CursorId) (found found' : Found) : Prop where
  grows : found <+: found'
  follows : ∀ id ∈ ids, graph.keyOf id ∈ found'.keys
  closes : ∀ entry ∈ found', entry ∈ found ∨
    ∀ next ∈ graph.links (graph.cursor entry.2), graph.keyOf next ∈ found'.keys

namespace Explores

theorem nil (found : Found) : graph.Explores [] found found where
  grows := List.prefix_rfl
  follows _ isId := nomatch isId
  closes _ isFound := .inl isFound

theorem cons {id : CursorId} {rest : List CursorId} {found found₁ found₂ : Found}
    (first : graph.Explores [id] found found₁) (others : graph.Explores rest found₁ found₂) :
    graph.Explores (id :: rest) found found₂ where
  grows := first.grows.trans others.grows
  follows := by
    rw [List.forall_mem_cons]
    have followed := first.follows id (List.mem_singleton_self id)
    exact ⟨Found.keys_mono others.grows followed, others.follows⟩
  closes entry isFound := by
    rcases others.closes entry isFound with before | closed
    · refine (first.closes entry before).imp_right fun closed next isLink => ?_
      exact Found.keys_mono others.grows (closed next isLink)
    · exact .inr closed

theorem known {found : Found} {id : CursorId} (known : graph.keyOf id ∈ found.keys) :
    graph.Explores [id] found found :=
  ⟨List.prefix_rfl, List.forall_mem_singleton.mpr known, fun _ => .inl⟩

theorem foldl {budget : Nat} {step : Found → CursorId → Found}
    (each : ∀ {found id}, (graph.unfound found).card ≤ budget →
      graph.Explores [id] found (step found id))
    (ids : List CursorId) {found : Found} (enough : (graph.unfound found).card ≤ budget) :
    graph.Explores ids found (ids.foldl step found) := by
  induction ids generalizing found with
  | nil => exact .nil found
  | cons id rest ih =>
    have first : graph.Explores [id] found (step found id) := each enough
    exact first.cons (ih ((card_unfound_anti first.grows).trans enough))

end Explores

/-- Within a budget for each key that is not yet found, discovery leaves nothing out. -/
theorem discover_explores {budget : Nat} {found : Found} {id : CursorId}
    (enough : (graph.unfound found).card ≤ budget) :
    graph.Explores [id] found (graph.discover budget found id) := by
  induction budget generalizing found id with
  | zero => exact .known (keyOf_mem_of_card_le_zero enough id)
  | succ budget ih =>
    by_cases known : graph.keyOf id ∈ found.keys
    · rw [discover_of_mem known]
      exact .known known
    · rw [discover_succ_of_not_mem known]
      have explored := Explores.foldl ih (graph.links (graph.cursor (graph.definitionOf id)))
        (card_unfound_append known enough)
      refine ⟨(List.prefix_append _ _).trans explored.grows, ?_, fun entry isFound => ?_⟩
      · refine List.forall_mem_singleton.mpr (Found.keys_mono explored.grows ?_)
        simp [Found.keys, entryOf]
      · rcases explored.closes entry isFound with before | closed
        · rcases List.mem_append.mp before with before | new
          · exact .inl before
          · rw [List.mem_singleton] at new
            subst new
            exact .inr explored.follows
        · exact .inr closed

variable (graph) (root : CursorId)

theorem root_mem_keys : graph.keyOf root ∈ (graph.reachable root).keys :=
  (discover_explores (card_unfound_le [])).follows root (List.mem_singleton_self root)

variable {graph} {root}

/-- What is reachable is closed. -/
theorem link_mem_keys {entry : Cursor.Key × CursorId} (isFound : entry ∈ graph.reachable root)
    {next : CursorId} (isLink : next ∈ graph.links (graph.cursor entry.2)) :
    graph.keyOf next ∈ (graph.reachable root).keys :=
  ((discover_explores (card_unfound_le [])).closes entry isFound).resolve_left (List.not_mem_nil)
    next isLink

theorem exists_of_mem_reachable {entry : Cursor.Key × CursorId}
    (isFound : entry ∈ graph.reachable root) :
    ∃ id, graph.Reaches root id ∧ entry = graph.entryOf id := by
  have all : ∀ entry ∈ graph.reachable root,
      ∃ id, graph.Reaches root id ∧ entry = graph.entryOf id := by
    refine discover_preserves
      (fun found => ∀ entry ∈ found, ∃ id, graph.Reaches root id ∧ entry = graph.entryOf id)
      (fun found id reached _ holds => ?_) .root (List.forall_mem_nil _)
    rw [List.forall_mem_append, List.forall_mem_singleton]
    exact ⟨holds, id, reached, rfl⟩
  exact all entry isFound

/-- Every declaration is found once. -/
theorem nodup_keys : (graph.reachable root).keys.Nodup := by
  refine discover_preserves (fun found => found.keys.Nodup)
    (fun found id _ unknown holds => ?_) .root List.nodup_nil
  simp only [Found.keys, List.map_append, List.map_cons, List.map_nil]
  refine List.nodup_append'.mpr ⟨holds, List.nodup_singleton _, ?_⟩
  simpa [entryOf, Found.keys] using unknown

variable (graph root) in
/-- Reached cursors with one key are the same cursor, once each stands for its declaration. -/
def KeysIdentify : Prop :=
  ∀ ⦃id other : CursorId⦄, graph.Reaches root id → graph.Reaches root other →
    graph.keyOf id = graph.keyOf other →
      graph.cursor (graph.definitionOf id) = graph.cursor (graph.definitionOf other)

theorem KeysIdentify.of_mem {ids : List CursorId}
    (all : ∀ ⦃id : CursorId⦄, graph.Reaches root id → id ∈ ids)
    (same : ∀ id ∈ ids, ∀ other ∈ ids, graph.keyOf id = graph.keyOf other →
      graph.definitionOf id = graph.definitionOf other) : graph.KeysIdentify root := by
  intro id other reached otherReached sameKey
  rw [same id (all reached) other (all otherReached) sameKey]

/-- Where keys tell declarations apart, every reached cursor is found. -/
theorem KeysIdentify.keyOf_mem (identify : graph.KeysIdentify root) {id : CursorId}
    (reached : graph.Reaches root id) : graph.keyOf id ∈ (graph.reachable root).keys := by
  induction reached with
  | root => exact root_mem_keys graph root
  | link reached isLink ih =>
    obtain ⟨entry, isFound, sameKey⟩ := Found.mem_keys.mp ih
    obtain ⟨other, otherReached, rfl⟩ := exists_of_mem_reachable isFound
    refine link_mem_keys isFound ?_
    rwa [entryOf, identify otherReached reached sameKey]

/-- The keys found are those of the reached cursors. -/
theorem KeysIdentify.mem_keys_iff (identify : graph.KeysIdentify root) {key : Cursor.Key} :
    key ∈ (graph.reachable root).keys ↔ ∃ id, graph.Reaches root id ∧ graph.keyOf id = key := by
  constructor
  · intro isKey
    obtain ⟨entry, isFound, rfl⟩ := Found.mem_keys.mp isKey
    obtain ⟨id, reached, rfl⟩ := exists_of_mem_reachable isFound
    exact ⟨id, reached, rfl⟩
  · rintro ⟨id, reached, rfl⟩
    exact identify.keyOf_mem reached

/-! ## Places -/

theorem placeOf_lt {found : Found} {id : CursorId} (known : graph.keyOf id ∈ found.keys) :
    graph.placeOf found id < found.length := by
  obtain ⟨entry, isFound, sameKey⟩ := Found.mem_keys.mp known
  exact List.findIdx_lt_length_of_exists ⟨entry, isFound, by simpa using sameKey⟩

theorem exists_at_placeOf {found : Found} {id : CursorId} (known : graph.keyOf id ∈ found.keys) :
    ∃ entry ∈ found, found[graph.placeOf found id]? = some entry ∧ entry.1 = graph.keyOf id := by
  have inside := placeOf_lt known
  rw [placeOf] at inside ⊢
  refine ⟨_, List.getElem_mem inside, List.getElem?_eq_getElem inside, ?_⟩
  exact of_decide_eq_true (List.findIdx_getElem (w := inside))

/-- A place stays the same, whatever is found later. -/
theorem placeOf_stable {found found' : Found} (extended : found <+: found') {id : CursorId}
    (known : graph.keyOf id ∈ found.keys) :
    graph.placeOf found' id = graph.placeOf found id := by
  obtain ⟨later, rfl⟩ := extended
  rw [placeOf, List.findIdx_append]
  exact if_pos (placeOf_lt known)

theorem placeOf_append_entryOf {found : Found} {id : CursorId}
    (unknown : graph.keyOf id ∉ found.keys) :
    graph.placeOf (found ++ [graph.entryOf id]) id = found.length := by
  have none : found.findIdx (·.1 = graph.keyOf id) = found.length := by
    refine List.findIdx_eq_length.mpr fun entry isFound => ?_
    simpa using fun sameKey => unknown (Found.mem_keys.mpr ⟨entry, isFound, sameKey⟩)
  rw [placeOf, List.findIdx_append, none, if_neg (Nat.lt_irrefl _)]
  simp [entryOf, List.findIdx_cons]

/-- The declaration at the place of a cursor is that of the cursor found with its key. -/
theorem decl_placeOf {id : CursorId} (known : graph.keyOf id ∈ (graph.reachable root).keys) :
    ∃ entry ∈ graph.reachable root, entry.1 = graph.keyOf id ∧
      (graph.header root).decl (graph.placeOf (graph.reachable root) id) =
        graph.declarationOf (graph.reachable root) (graph.cursor entry.2) := by
  obtain ⟨entry, isFound, atPlace, sameKey⟩ := exists_at_placeOf known
  refine ⟨entry, isFound, sameKey, ?_⟩
  simp [header, Header.decl, Array.getD_eq_getD_getElem?, atPlace]

/-- Where keys tell declarations apart, the declaration at the place of a reached cursor is that of
    the cursor itself. -/
theorem KeysIdentify.decl_placeOf (identify : graph.KeysIdentify root) {id : CursorId}
    (reached : graph.Reaches root id) :
    (graph.header root).decl (graph.placeOf (graph.reachable root) id) =
      graph.declarationOf (graph.reachable root) (graph.cursor (graph.definitionOf id)) := by
  obtain ⟨entry, isFound, sameKey, isDecl⟩ := CursorGraph.decl_placeOf (identify.keyOf_mem reached)
  obtain ⟨other, otherReached, rfl⟩ := exists_of_mem_reachable isFound
  rw [isDecl, entryOf, identify otherReached reached sameKey]

end CursorGraph

end HeaderBindings
