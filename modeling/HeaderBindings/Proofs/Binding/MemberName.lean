import HeaderBindings.Binding.MemberName
import HeaderBindings.Proofs.Text.LowerCase
import Mathlib.Data.List.TakeWhile

/-!
# Names without their owner

What a short name leaves out. The name of the owner is looked for in the lower-case forms, but it is
cut off by its own length. So exactly the owner and the underscores after it are left out where the
two lengths agree, which they do unless a capital I with a dot above or a capital sigma at the end
of the owner is there.
-/

namespace HeaderBindings.MemberName

open Text

variable {name owner rest : List Char}

/-- What follows the length of the owner and the underscores there. -/
def restAfter (name owner : List Char) : List Char :=
  (name.drop owner.length).dropWhile (· == '_')

/-- The owner is found at the beginning of a name, in whatever case, and what follows can stand as a
    name. -/
def Drops (name owner : List Char) : Prop :=
  owner ≠ [] ∧ lower owner <+: lower name ∧ isUsable (restAfter name owner) = true

instance : Decidable (Drops name owner) :=
  inferInstanceAs (Decidable (_ ∧ _ ∧ _))

theorem shortChars_of_drops (drops : Drops name owner) :
    shortChars name owner = restAfter name owner := by
  obtain ⟨nonempty, begins, usable⟩ := drops
  rw [shortChars, if_pos (by simp [nonempty, begins])]
  exact if_pos usable

theorem shortChars_of_not_drops (keeps : ¬ Drops name owner) : shortChars name owner = name := by
  unfold shortChars
  split
  next found =>
    have parts : owner ≠ [] ∧ lower owner <+: lower name := by simpa using found
    exact if_neg fun usable => keeps ⟨parts.1, parts.2, usable⟩
  next => rfl

/-- What is left is not the whole name. -/
theorem restAfter_ne_self (drops : Drops name owner) : restAfter name owner ≠ name := by
  intro same
  obtain ⟨nonempty, -, usable⟩ := drops
  have shorter : (restAfter name owner).length ≤ name.length - owner.length := by
    rw [← List.length_drop]
    exact (List.dropWhile_suffix _).length_le
  have positive := List.length_pos_iff.mpr nonempty
  rw [same] at shorter usable
  cases name with
  | nil => cases usable
  | cons c name =>
    rw [List.length_cons] at shorter
    omega

/-- A text that can stand as a name and begins with no underscore. -/
def IsShortName (rest : List Char) : Prop :=
  isUsable rest = true ∧ rest.head? ≠ some '_'

/-- A name is its owner's name in some case, underscores and what is left of the name. -/
def Leaves (name owner rest : List Char) : Prop :=
  IsShortName rest ∧ ∃ beginning underscores, name = beginning ++ underscores ++ rest ∧
    lower beginning = lower owner ∧ ∀ c ∈ underscores, c = '_'

theorem isShortName_restAfter (usable : isUsable (restAfter name owner) = true) :
    IsShortName (restAfter name owner) := by
  refine ⟨usable, fun isUnderscore => ?_⟩
  have stops := List.head?_dropWhile_not (· == '_') (name.drop owner.length)
  rw [show (name.drop owner.length).dropWhile (· == '_') = restAfter name owner from rfl,
    isUnderscore] at stops
  simp at stops

/-- Where underscores end is the same for all texts that leave the same. -/
theorem dropWhile_underscores_append {underscores : List Char} (all : ∀ c ∈ underscores, c = '_')
    (stops : rest.head? ≠ some '_') : (underscores ++ rest).dropWhile (· == '_') = rest := by
  rw [List.dropWhile_append_of_pos (by simpa using all)]
  cases rest with
  | nil => rfl
  | cons c rest =>
    apply List.dropWhile_cons_of_neg
    simpa using stops

theorem exists_underscores (text : List Char) :
    ∃ underscores, text = underscores ++ text.dropWhile (· == '_') ∧ ∀ c ∈ underscores, c = '_' :=
  ⟨text.takeWhile (· == '_'), List.takeWhile_append_dropWhile.symm,
    fun _ inside => by simpa using List.mem_takeWhile_imp inside⟩

/-- The owner is cut off where it was found: some beginning of the name has a lower-case form as
    long as that of the owner and ends inside of no word after a capital sigma, and what follows it
    is, after underscores, what follows the length of the owner. -/
def CutsOwner (name owner : List Char) : Prop :=
  ∃ beginning further, name = beginning ++ further ∧
    lowerLength beginning = lowerLength owner ∧ ¬ SplitsWord [] beginning further ∧
    further.dropWhile (· == '_') = restAfter name owner

theorem leaves_restAfter_iff (drops : Drops name owner) :
    Leaves name owner (restAfter name owner) ↔ CutsOwner name owner := by
  have shortName := isShortName_restAfter drops.2.2
  constructor
  · rintro ⟨-, beginning, underscores, isName, sameLower, all⟩
    refine ⟨beginning, underscores ++ restAfter name owner, by rw [← List.append_assoc, ← isName],
      ?_⟩
    rw [← and_assoc, ← lower_eq_iff_of_begins]
    · exact ⟨sameLower, dropWhile_underscores_append all shortName.2⟩
    · rw [← List.append_assoc, ← isName]
      exact drops.2.1
  · rintro ⟨beginning, further, isName, sameLength, whole, isRest⟩
    obtain ⟨underscores, isFurther, all⟩ := exists_underscores further
    refine ⟨shortName, beginning, underscores, ?_, ?_, all⟩
    · rw [List.append_assoc, ← isRest, ← isFurther, isName]
    · exact (lower_eq_iff_of_begins (isName ▸ drops.2.1)).mpr ⟨sameLength, whole⟩

/-- A name is never what is left of itself without an owner that has a name. -/
theorem not_leaves_self (nonempty : owner ≠ []) : ¬ Leaves name owner name := by
  rintro ⟨-, beginning, underscores, isName, sameLower, -⟩
  have nothing : beginning ++ underscores = [] := List.append_left_eq_self.mp isName.symm
  have isEmpty : beginning = [] := (List.append_eq_nil_iff.mp nothing).1
  have noLength := congrArg List.length sameLower
  have positive := List.length_pos_iff.mpr nonempty
  simp only [isEmpty, length_lower, lowerLength, List.length_nil, List.count_nil] at noLength
  omega

/-! ## Names that begin with their owner -/

/-- What follows an owner at the beginning of a name can stand as a name after underscores. -/
def FollowsOwner (name owner after : List Char) : Prop :=
  owner ≠ [] ∧ name = owner ++ after ∧ isUsable (after.dropWhile (· == '_')) = true

theorem FollowsOwner.drops_iff {after : List Char} (follows : FollowsOwner name owner after) :
    Drops name owner ↔ ¬ SplitsWord [] owner after := by
  obtain ⟨nonempty, rfl, usable⟩ := follows
  rw [← lower_prefix_lower_append_iff]
  constructor
  · exact fun drops => drops.2.1
  · intro begins
    refine ⟨nonempty, begins, ?_⟩
    rwa [restAfter, List.drop_left]

/-- The short name is the name, or what is left of it without its owner; and this it is if the name
    begins with the owner as it is written. -/
def RemovesOwner (name owner short : List Char) : Prop :=
  (short = name ∨ Leaves name owner short) ∧
    ∀ after, FollowsOwner name owner after → Leaves name owner short

theorem removesOwner_shortChars_iff :
    RemovesOwner name owner (shortChars name owner) ↔
      (Drops name owner → CutsOwner name owner) ∧
        ∀ after, FollowsOwner name owner after → ¬ SplitsWord [] owner after := by
  constructor
  · rintro ⟨either, ofFollowing⟩
    constructor
    · intro drops
      rw [shortChars_of_drops drops] at either
      have leaves := either.resolve_left (restAfter_ne_self drops)
      exact (leaves_restAfter_iff drops).mp leaves
    · intro after follows
      rw [← follows.drops_iff]
      by_contra keeps
      have leaves := ofFollowing after follows
      rw [shortChars_of_not_drops keeps] at leaves
      exact not_leaves_self follows.1 leaves
  · rintro ⟨cuts, whole⟩
    by_cases drops : Drops name owner
    · have leaves := (leaves_restAfter_iff drops).mpr (cuts drops)
      rw [shortChars_of_drops drops]
      exact ⟨.inr leaves, fun _ _ => leaves⟩
    · rw [shortChars_of_not_drops drops]
      refine ⟨.inl rfl, fun after follows => ?_⟩
      exact absurd (follows.drops_iff.mpr (whole after follows)) drops

/-- Without the two special letters the part of a name that is compared is the part that is cut. -/
theorem cutsOwner_of_plain (noDotted : 'İ' ∉ name ∧ 'İ' ∉ owner) (noSigma : 'Σ' ∉ name)
    (drops : Drops name owner) : CutsOwner name owner := by
  have fits : owner.length ≤ name.length := by
    have shorter := drops.2.1.length_le
    rwa [length_lower, length_lower, lowerLength_of_not_mem noDotted.1,
      lowerLength_of_not_mem noDotted.2] at shorter
  refine ⟨name.take owner.length, name.drop owner.length, (List.take_append_drop _ _).symm, ?_, ?_,
    rfl⟩
  · rw [lowerLength_of_not_mem fun inside => noDotted.1 (List.mem_of_mem_take inside),
      lowerLength_of_not_mem noDotted.2, List.length_take_of_le fits]
  · exact not_splitsWord_of_not_mem fun inside => noSigma (List.mem_of_mem_take inside)

/-! ## Names with one short name -/

/-- Two names become one when the first one loses its owner: what is left of it is left of the other
    one, too, or it is the other one, which keeps its owner. -/
def Meets (owner name other : List Char) : Prop :=
  Drops name owner ∧
    (Drops other owner ∧ restAfter name owner = restAfter other owner ∨
      ¬ Drops other owner ∧ restAfter name owner = other)

instance {other : List Char} : Decidable (Meets owner name other) :=
  inferInstanceAs (Decidable (_ ∧ _))

theorem shortChars_eq_iff {other : List Char} (different : name ≠ other) :
    shortChars name owner = shortChars other owner ↔
      Meets owner name other ∨ Meets owner other name := by
  by_cases drops : Drops name owner
  · rw [shortChars_of_drops drops]
    by_cases dropsOther : Drops other owner
    · rw [shortChars_of_drops dropsOther]
      simp [Meets, drops, dropsOther, eq_comm]
    · rw [shortChars_of_not_drops dropsOther]
      simp [Meets, drops, dropsOther]
  · rw [shortChars_of_not_drops drops]
    by_cases dropsOther : Drops other owner
    · rw [shortChars_of_drops dropsOther]
      simp [Meets, drops, dropsOther, eq_comm]
    · rw [shortChars_of_not_drops dropsOther]
      simp [Meets, drops, dropsOther, different]

/-! ## What short names leave out -/

/-- A short name leaves out the owner and the underscores after it, and nothing else, exactly when
    the part of the name that is cut off has the length of the part that was compared, and the
    owner does not end a word after a capital sigma that goes on in the name. Names and owners
    without a capital I with a dot above are such, if the name has no capital sigma. -/
theorem short_removes_owner (name owner : String) :
    (RemovesOwner name.toList owner.toList (short name owner).toList ↔
      (Drops name.toList owner.toList → CutsOwner name.toList owner.toList) ∧
        ∀ after, FollowsOwner name.toList owner.toList after →
          ¬ SplitsWord [] owner.toList after) ∧
    ('İ' ∉ name.toList ∧ 'İ' ∉ owner.toList ∧ 'Σ' ∉ name.toList →
      RemovesOwner name.toList owner.toList (short name owner).toList) := by
  rw [short, String.toList_ofList, removesOwner_shortChars_iff]
  refine ⟨Iff.rfl, ?_⟩
  rintro ⟨noDottedName, noDottedOwner, noSigma⟩
  refine ⟨cutsOwner_of_plain ⟨noDottedName, noDottedOwner⟩ noSigma, ?_⟩
  rintro after ⟨-, isName, -⟩
  apply not_splitsWord_of_not_mem
  intro inside
  exact noSigma (isName ▸ List.mem_append_left _ inside)

/-- It applies to names with two underscores after an owner in another case. -/
theorem short_removes_owner_color :
    short "COLOR__RED" "Color" = "RED" ∧
      RemovesOwner "COLOR__RED".toList "Color".toList (short "COLOR__RED" "Color").toList :=
  ⟨by decide, (short_removes_owner "COLOR__RED" "Color").2 ⟨by decide, by decide, by decide⟩⟩

/-- A capital I with a dot above is compared with the two letters of its lower-case form, and a
    letter more is cut off. A capital sigma at the end of the owner has the form for ends of words,
    which the name does not have in that place. -/
theorem short_misses_owner :
    ¬ RemovesOwner "İXY".toList "i\u0307".toList (short "İXY" "i\u0307").toList ∧
      ¬ RemovesOwner "ΑΣΒ".toList "ΑΣ".toList (short "ΑΣΒ" "ΑΣ").toList := by
  have cut : (short "İXY" "i\u0307").toList = ['Y'] := by decide
  have kept : (short "ΑΣΒ" "ΑΣ").toList = "ΑΣΒ".toList := by decide
  rw [cut, kept]
  constructor
  · rintro ⟨same | ⟨-, beginning, underscores, isName, sameLower, all⟩, -⟩
    · cases same
    · have front : "İX".toList = beginning ++ underscores := List.append_cancel_right isName
      rcases List.eq_nil_or_concat underscores with rfl | ⟨others, c, rfl⟩
      · rw [List.append_nil] at front
        rw [← front] at sameLower
        exact absurd sameLower (by decide)
      · rw [all c (by simp), List.concat_eq_append, ← List.append_assoc] at front
        have isLast := congrArg List.getLast? front
        rw [List.getLast?_concat] at isLast
        cases isLast
  · rintro ⟨-, ofFollowing⟩
    exact not_leaves_self (by decide) (ofFollowing ['Β'] ⟨by decide, by decide, by decide⟩)

end HeaderBindings.MemberName
