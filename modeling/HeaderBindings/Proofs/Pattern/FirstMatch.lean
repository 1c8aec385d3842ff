import HeaderBindings.Proofs.Pattern.WholeMatch

/-!
# The first match

A search goes through the places of a text from left to right, so what it finds begins at the
leftmost place at which the pattern matches, and it finds nothing just if the pattern matches at no
place.
-/

namespace HeaderBindings.Pattern

variable {pattern : Pattern} {size budget : Nat} {text : List Char}
  {place earlier reached : Place} {found other : Match}

/-! ## Places of a text -/

/-- A place lies in a text: what stands before it and after it make up the text. -/
def Place.In (text : List Char) (place : Place) : Prop :=
  place.before.reverse ++ place.rest = text

theorem Place.in_iff_reaches : place.In text ↔ (Place.atStart text).Reaches place := by
  constructor
  · intro inside
    exact ⟨place.before.reverse, by simp [Place.atStart], inside.symm⟩
  · rintro ⟨taken, isBefore, isText⟩
    rw [Place.In, isBefore]
    simpa [Place.atStart] using isText.symm

theorem Place.eq_of_before_rest (sameBefore : place.before = reached.before)
    (sameRest : place.rest = reached.rest) : place = reached := by
  obtain ⟨before, rest, offset, isLength⟩ := place
  obtain ⟨before', rest', offset', isLength'⟩ := reached
  cases sameBefore
  cases sameRest
  cases isLength
  cases isLength'
  rfl

/-- Of the places of a text there is one at each offset. -/
theorem Place.In.eq_of_offset (inside : place.In text) (insideToo : reached.In text)
    (same : place.offset = reached.offset) : place = reached := by
  rw [place.offset_eq_length, reached.offset_eq_length] at same
  have lengths : place.before.reverse.length = reached.before.reverse.length := by simp [same]
  obtain ⟨sameBefore, sameRest⟩ := List.append_inj (inside.trans insideToo.symm) lengths
  exact eq_of_before_rest (List.reverse_inj.mp sameBefore) sameRest

/-- From a place one reaches it and what is reached from the place after it. -/
theorem Place.reaches_iff : place.Reaches reached ↔
    reached = place ∨ ∃ c after, place.advance? = some (c, after) ∧ after.Reaches reached := by
  constructor
  · rintro ⟨taken, isBefore, isRest⟩
    cases taken with
    | nil => exact .inl (eq_of_before_rest isBefore isRest.symm)
    | cons c taken =>
      obtain ⟨before, rest, offset, isLength⟩ := place
      cases isRest
      exact .inr ⟨c, _, rfl, taken, by simpa using isBefore, rfl⟩
  · rintro (rfl | ⟨c, after, advances, further⟩)
    · exact .refl reached
    · exact (Place.Reaches.advance advances).trans further

/-! ## Searching -/

theorem start_of_matchAt? (isMatch : matchAt? pattern size place = some found) :
    found.span.start = place := by
  obtain ⟨⟨finish, captures⟩, -, rfl⟩ := Option.map_eq_some_iff.mp isMatch
  rfl

theorem Place.Reaches.offset_le (reaches : place.Reaches reached) :
    place.offset ≤ reached.offset := by
  obtain ⟨taken, isBefore, -⟩ := reaches
  rw [place.offset_eq_length, reached.offset_eq_length, isBefore, List.length_append]
  omega

theorem advance?_eq_none (noMore : place.rest = []) : place.advance? = none := by
  obtain ⟨before, rest, offset, isLength⟩ := place
  cases noMore
  rfl

theorem length_of_advance? {c : Char} (advances : place.advance? = some (c, reached)) :
    place.rest.length = reached.rest.length + 1 := by
  obtain ⟨before, rest, offset, isLength⟩ := place
  cases rest with
  | nil => cases advances
  | cons d rest =>
    cases advances
    rfl

/-- What a search from a place comes to: no match at any place that it reaches, or the leftmost
    one. -/
def Searches (pattern : Pattern) (size : Nat) (place : Place) : Option Match → Prop
  | none => ∀ reached, place.Reaches reached → matchAt? pattern size reached = none
  | some found => place.Reaches found.span.start ∧
      matchAt? pattern size found.span.start = some found ∧
      ∀ earlier, place.Reaches earlier → earlier.offset < found.span.start.offset →
        matchAt? pattern size earlier = none

theorem searches_here (isMatch : matchAt? pattern size place = some found) :
    Searches pattern size place (some found) := by
  have isStart := start_of_matchAt? isMatch
  refine ⟨isStart ▸ .refl _, isStart ▸ isMatch, fun earlier reaches before => ?_⟩
  have after := reaches.offset_le
  rw [isStart] at before
  omega

theorem searches_end (noMatch : matchAt? pattern size place = none)
    (noMore : place.advance? = none) : Searches pattern size place none := by
  intro reached reaches
  rcases Place.reaches_iff.mp reaches with rfl | ⟨c, after, advances, -⟩
  · exact noMatch
  · simp [noMore] at advances

theorem searches_on {c : Char} {after : Place} {result : Option Match}
    (noMatch : matchAt? pattern size place = none) (advances : place.advance? = some (c, after))
    (searches : Searches pattern size after result) : Searches pattern size place result := by
  have further : ∀ reached, place.Reaches reached → reached = place ∨ after.Reaches reached := by
    intro reached reaches
    rcases Place.reaches_iff.mp reaches with same | ⟨d, next, advancesToo, fromNext⟩
    · exact .inl same
    · cases advances.symm.trans advancesToo
      exact .inr fromNext
  cases result with
  | none =>
    intro reached reaches
    rcases further reached reaches with rfl | fromNext
    · exact noMatch
    · exact searches reached fromNext
  | some found =>
    obtain ⟨reachesStart, isMatch, first⟩ := searches
    refine ⟨(Place.Reaches.advance advances).trans reachesStart, isMatch, ?_⟩
    intro earlier reaches before
    rcases further earlier reaches with rfl | fromNext
    · exact noMatch
    · exact first earlier fromNext before

theorem searches_searchFrom? (enough : place.rest.length ≤ budget) :
    Searches pattern size place (searchFrom? pattern size budget place) := by
  induction budget generalizing place with
  | zero =>
    have noMore := advance?_eq_none (List.eq_nil_of_length_eq_zero (Nat.le_zero.mp enough))
    rw [searchFrom?]
    cases isMatch : matchAt? pattern size place with
    | none => exact searches_end isMatch noMore
    | some found => exact searches_here isMatch
  | succ budget ih =>
    rw [searchFrom?]
    cases isMatch : matchAt? pattern size place with
    | some found => exact searches_here isMatch
    | none =>
      cases advances : place.advance? with
      | none => exact searches_end isMatch advances
      | some next =>
        have shorter := length_of_advance? advances
        exact searches_on isMatch advances (ih (by omega))

/-! ## The first match of a text -/

/-- A match at a place of a text, with none at a place further left. -/
structure IsFirstMatch (pattern : Pattern) (text : List Char) (found : Match) : Prop where
  inside : found.span.start.In text
  isMatch : matchAt? pattern text.length found.span.start = some found
  first : ∀ place : Place, place.In text → place.offset < found.span.start.offset →
    matchAt? pattern text.length place = none

/-- A text has one first match at most. -/
theorem IsFirstMatch.unique (isFirst : IsFirstMatch pattern text found)
    (isFirstToo : IsFirstMatch pattern text other) : found = other := by
  have notBefore {found other : Match} (isFirst : IsFirstMatch pattern text found)
      (isFirstToo : IsFirstMatch pattern text other) :
      found.span.start.offset ≤ other.span.start.offset := by
    apply Nat.le_of_not_lt
    intro before
    have none := isFirst.first _ isFirstToo.inside before
    simp [isFirstToo.isMatch] at none
  have same := Nat.le_antisymm (notBefore isFirst isFirstToo) (notBefore isFirstToo isFirst)
  have sameStart := isFirst.inside.eq_of_offset isFirstToo.inside same
  have isMatch := isFirst.isMatch
  rw [sameStart, isFirstToo.isMatch] at isMatch
  exact (Option.some.inj isMatch).symm

/-- A search finds the first match of a text, or there is no match at any of its places. -/
theorem search?_cases (pattern : Pattern) (text : List Char) :
    (search? pattern text = none ∧
      ∀ place : Place, place.In text → matchAt? pattern text.length place = none) ∨
    ∃ found, search? pattern text = some found ∧ IsFirstMatch pattern text found := by
  have searches : Searches pattern text.length (.atStart text) (search? pattern text) :=
    searches_searchFrom? (Nat.le_refl _)
  cases result : search? pattern text with
  | none =>
    rw [result] at searches
    exact .inl ⟨rfl, fun place inside => searches place (Place.in_iff_reaches.mp inside)⟩
  | some found =>
    rw [result] at searches
    obtain ⟨reaches, isMatch, first⟩ := searches
    refine .inr ⟨found, rfl, Place.in_iff_reaches.mpr reaches, isMatch, ?_⟩
    exact fun place inside => first place (Place.in_iff_reaches.mp inside)

end HeaderBindings.Pattern
