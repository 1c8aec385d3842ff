import HeaderBindings.Text.Blank
import Mathlib.Data.List.DropRight

/-!
# Trimming

What is left of a text when the blank characters at its ends are gone. A text is its trimmed form
between two blank texts, and blanks put at its ends change nothing of that form.
-/

namespace HeaderBindings.Text

variable {c : Char} {before text after : List Char}

@[simp]
theorem isBlankText_iff : isBlankText text = true ↔ ∀ c ∈ text, isBlank c = true :=
  List.all_eq_true

theorem isBlankText_append :
    isBlankText (before ++ text) = (isBlankText before && isBlankText text) :=
  List.all_append

@[simp]
theorem trimStart_nil : trimStart [] = [] := rfl

@[simp]
theorem trimEnd_nil : trimEnd [] = [] := rfl

theorem trimStart_cons_of_blank (blank : isBlank c = true) :
    trimStart (c :: text) = trimStart text :=
  List.dropWhile_cons_of_pos blank

theorem trimStart_cons_of_not_blank (solid : isBlank c = false) :
    trimStart (c :: text) = c :: text :=
  List.dropWhile_cons_of_neg (by simp [solid])

theorem trimStart_append_of_blank (blank : isBlankText before = true) :
    trimStart (before ++ text) = trimStart text :=
  List.dropWhile_append_of_pos (isBlankText_iff.mp blank)

theorem trimStart_eq_nil_iff : trimStart text = [] ↔ isBlankText text = true := by
  rw [isBlankText_iff]
  exact List.dropWhile_eq_nil_iff

/-- What is left of a text begins with a character that is not blank. -/
theorem not_isBlank_of_trimStart (isStart : trimStart text = c :: after) : isBlank c = false := by
  have head := List.head?_dropWhile_not isBlank text
  rw [show text.dropWhile isBlank = c :: after from isStart] at head
  simpa using head

theorem trimEnd_eq_nil_iff : trimEnd text = [] ↔ isBlankText text = true := by
  rw [isBlankText_iff]
  exact List.rdropWhile_eq_nil_iff

theorem trimEnd_append : trimEnd (text ++ after) =
    if isBlankText after = true then trimEnd text else text ++ trimEnd after := by
  have empty : (after.reverse.dropWhile isBlank).isEmpty = true ↔ isBlankText after = true := by
    simp
  unfold trimEnd
  rw [List.reverse_append, List.dropWhile_append]
  by_cases blank : isBlankText after = true
  · rw [if_pos (empty.mpr blank), if_pos blank]
  · rw [if_neg (mt empty.mp blank), if_neg blank]
    simp

theorem trimEnd_append_of_blank (blank : isBlankText after = true) :
    trimEnd (text ++ after) = trimEnd text := by
  rw [trimEnd_append, if_pos blank]

theorem trimEnd_cons : trimEnd (c :: text) =
    if isBlankText (c :: text) = true then [] else c :: trimEnd text := by
  by_cases blank : isBlankText (c :: text) = true
  · rw [if_pos blank, trimEnd_eq_nil_iff.mpr blank]
  · rw [if_neg blank, ← List.singleton_append, trimEnd_append]
    split
    next rest =>
      have solid : isBlank c = false := by
        by_contra head
        exact blank (by simp_all [isBlankText])
      have head : trimEnd [c] = [c] := by simp [trimEnd, solid]
      rw [head, trimEnd_eq_nil_iff.mpr rest]
    next => rfl

theorem trimEnd_cons_of_not_blank (solid : isBlank c = false) :
    trimEnd (c :: text) = c :: trimEnd text := by
  rw [trimEnd_cons, if_neg]
  simp [isBlankText, solid]

theorem trimEnd_isPrefix (text : List Char) : trimEnd text <+: text :=
  List.rdropWhile_prefix isBlank text

theorem trim_isInfix (text : List Char) : trim text <:+: text :=
  (trimEnd_isPrefix _).isInfix.trans (List.dropWhile_suffix isBlank).isInfix

theorem trimEnd_idem (text : List Char) : trimEnd (trimEnd text) = trimEnd text :=
  List.rdropWhile_idempotent _ _

theorem trimStart_idem (text : List Char) : trimStart (trimStart text) = trimStart text :=
  List.dropWhile_idempotent _ _

/-- It does not matter which end is trimmed first. -/
theorem trimStart_trimEnd (text : List Char) :
    trimStart (trimEnd text) = trimEnd (trimStart text) := by
  induction text with
  | nil => rfl
  | cons c text ih =>
    cases head : isBlank c with
    | false =>
      rw [trimStart_cons_of_not_blank head, trimEnd_cons_of_not_blank head,
        trimStart_cons_of_not_blank head]
    | true =>
      rw [trimStart_cons_of_blank head, trimEnd_cons]
      split
      next blank =>
        have rest : isBlankText text = true := by simp_all [isBlankText]
        rw [trimStart_eq_nil_iff.mpr rest]
        rfl
      next => rw [trimStart_cons_of_blank head, ih]

theorem trim_trimEnd (text : List Char) : trim (trimEnd text) = trim text := by
  rw [trim, trimStart_trimEnd, trimEnd_idem, trim]

theorem trim_idem (text : List Char) : trim (trim text) = trim text := by
  rw [trim, trim, trimStart_trimEnd, trimStart_idem, trimEnd_idem]

theorem trimEnd_trim (text : List Char) : trimEnd (trim text) = trim text :=
  trimEnd_idem _

theorem trimStart_trim (text : List Char) : trimStart (trim text) = trim text := by
  rw [trim, trimStart_trimEnd, trimStart_idem]

theorem trim_eq_nil_iff : trim text = [] ↔ isBlankText text = true := by
  rw [trim, ← trimStart_trimEnd, trimStart_eq_nil_iff]
  refine ⟨fun blank => ?_, fun blank => by rw [trimEnd_eq_nil_iff.mpr blank]; rfl⟩
  exact trimEnd_eq_nil_iff.mp (trimEnd_idem text ▸ trimEnd_eq_nil_iff.mpr blank)

theorem trim_append_of_blank (blank : isBlankText before = true) :
    trim (before ++ text) = trim text := by
  rw [trim, trimStart_append_of_blank blank, trim]

theorem trim_surrounded (blankBefore : isBlankText before = true)
    (blankAfter : isBlankText after = true) : trim (before ++ text ++ after) = trim text := by
  rw [List.append_assoc, trim_append_of_blank blankBefore, trim, ← trimStart_trimEnd,
    trimEnd_append_of_blank blankAfter, trimStart_trimEnd, trim]

/-- A text that begins and ends with characters that are not blank is trimmed. -/
theorem trim_eq_self {last : Char} (solid : isBlank c = false) (solidLast : isBlank last = false) :
    trim (c :: text ++ [last]) = c :: text ++ [last] := by
  rw [trim, List.cons_append, trimStart_cons_of_not_blank solid, ← List.cons_append]
  exact List.rdropWhile_concat_neg isBlank (c :: text) last (by simp [solidLast])

theorem isBlankText_trim (text : List Char) : isBlankText (trim text) = isBlankText text := by
  rw [Bool.eq_iff_iff, ← trim_eq_nil_iff, trim_idem, trim_eq_nil_iff]

/-- A text that is not blank is its trimmed form, which begins and ends with characters that are not
    blank, between two blank texts. -/
theorem exists_trim_eq (solid : isBlankText text = false) :
    ∃ before core after, text = before ++ core ++ after ∧ trim text = core ∧
      isBlankText before = true ∧ isBlankText after = true ∧
      (∃ c rest, core = c :: rest ∧ isBlank c = false) ∧
      ∃ rest c, core = rest ++ [c] ∧ isBlank c = false := by
  have start : trimStart text ≠ [] := mt trimStart_eq_nil_iff.mp (by simp [solid])
  obtain ⟨c, rest, isStart⟩ := List.exists_cons_of_ne_nil start
  have head := not_isBlank_of_trimStart isStart
  have nonempty : trim text ≠ [] := mt trim_eq_nil_iff.mp (by simp [solid])
  refine ⟨text.takeWhile isBlank, trim text, (trimStart text).rtakeWhile isBlank, ?_, rfl, ?_, ?_,
    ⟨c, trimEnd rest, ?_, head⟩, (trim text).dropLast, (trim text).getLast nonempty, ?_, ?_⟩
  · rw [List.append_assoc]
    change _ = _ ++ ((trimStart text).rdropWhile isBlank ++ _)
    rw [List.rdropWhile_append_rtakeWhile]
    exact List.takeWhile_append_dropWhile.symm
  · exact List.all_takeWhile
  · exact isBlankText_iff.mpr fun c inside => List.mem_rtakeWhile_imp inside
  · rw [trim, isStart, trimEnd_cons_of_not_blank head]
  · exact (List.dropLast_append_getLast nonempty).symm
  · exact Bool.eq_false_iff.mpr (List.rdropWhile_last_not isBlank (trimStart text) nonempty)

/-- A list is what is left of it without its ends, between two lists of dropped elements. -/
theorem exists_dropEnds_eq {α : Type} (test : α → Bool) (list : List α) :
    ∃ before after,
      list = before ++ ((list.dropWhile test).reverse.dropWhile test).reverse ++ after ∧
        (∀ a ∈ before, test a = true) ∧ ∀ a ∈ after, test a = true := by
  refine ⟨list.takeWhile test, (list.dropWhile test).rtakeWhile test, ?_, ?_, ?_⟩
  · change _ = _ ++ (list.dropWhile test).rdropWhile test ++ _
    rw [List.append_assoc, List.rdropWhile_append_rtakeWhile, List.takeWhile_append_dropWhile]
  · exact List.all_eq_true.mp List.all_takeWhile
  · exact fun a inside => List.mem_rtakeWhile_imp inside

/-! ## Parts without blanks -/

/-- A text that holds no blank character, and at least one other. -/
def IsSolid (part : List Char) : Prop :=
  part ≠ [] ∧ ∀ c ∈ part, isBlank c = false

variable {part : List Char}

theorem not_prefix_of_not_mem (nonempty : part ≠ []) (absent : c ∉ part) :
    ¬ part <+: c :: text := by
  cases part with
  | nil => exact absurd rfl nonempty
  | cons d part =>
    rw [List.cons_prefix_cons]
    rintro ⟨rfl, -⟩
    exact absent List.mem_cons_self

/-- A part without a character stands on one side of it. -/
theorem infix_append_cons_iff (nonempty : part ≠ []) (absent : c ∉ part) :
    part <:+: before ++ c :: text ↔ part <:+: before ∨ part <:+: text := by
  rw [List.infix_append_iff, List.infix_cons_iff,
    or_iff_right (not_prefix_of_not_mem nonempty absent)]
  refine ⟨?_, fun found => found.imp_right .inl⟩
  rintro (left | right | ⟨front, back, rfl, isSuffix, isPrefix⟩)
  · exact .inl left
  · exact .inr right
  · cases back with
    | nil => exact .inl (by simpa using isSuffix.isInfix)
    | cons d back =>
      rw [List.cons_prefix_cons] at isPrefix
      exact absurd (by simp [isPrefix.1]) absent

namespace IsSolid

theorem not_mem (solid : IsSolid part) (blank : isBlank c = true) : c ∉ part :=
  fun inside => by simp [solid.2 c inside] at blank

theorem not_infix_of_blank (solid : IsSolid part) (blank : isBlankText text = true) :
    ¬ part <:+: text := by
  intro isInfix
  obtain ⟨c, rest, rfl⟩ := List.exists_cons_of_ne_nil solid.1
  exact solid.not_mem (isBlankText_iff.mp blank c (isInfix.subset List.mem_cons_self))
    List.mem_cons_self

theorem infix_blank_append_iff (solid : IsSolid part) (blank : isBlankText before = true) :
    part <:+: before ++ text ↔ part <:+: text := by
  induction before with
  | nil => rfl
  | cons c before ih =>
    rw [isBlankText_iff, List.forall_mem_cons] at blank
    rw [List.cons_append, List.infix_cons_iff,
      or_iff_right (not_prefix_of_not_mem solid.1 (solid.not_mem blank.1)),
      ih (isBlankText_iff.mpr blank.2)]

theorem infix_append_blank_iff (solid : IsSolid part) (blank : isBlankText after = true) :
    part <:+: text ++ after ↔ part <:+: text := by
  cases after with
  | nil => rw [List.append_nil]
  | cons c after =>
    rw [isBlankText_iff, List.forall_mem_cons] at blank
    rw [infix_append_cons_iff solid.1 (solid.not_mem blank.1),
      or_iff_left (solid.not_infix_of_blank (isBlankText_iff.mpr blank.2))]

theorem infix_trimStart_iff (solid : IsSolid part) : part <:+: trimStart text ↔ part <:+: text := by
  have parts : text.takeWhile isBlank ++ trimStart text = text := List.takeWhile_append_dropWhile
  conv_rhs => rw [← parts, solid.infix_blank_append_iff List.all_takeWhile]

theorem infix_trimEnd_iff (solid : IsSolid part) : part <:+: trimEnd text ↔ part <:+: text := by
  have parts : trimEnd text ++ text.rtakeWhile isBlank = text :=
    List.rdropWhile_append_rtakeWhile
  have blank : isBlankText (text.rtakeWhile isBlank) = true :=
    isBlankText_iff.mpr fun _ => List.mem_rtakeWhile_imp
  conv_rhs => rw [← parts, solid.infix_append_blank_iff blank]

theorem infix_trim_iff (solid : IsSolid part) : part <:+: trim text ↔ part <:+: text := by
  rw [trim, solid.infix_trimEnd_iff, solid.infix_trimStart_iff]

end IsSolid

end HeaderBindings.Text
