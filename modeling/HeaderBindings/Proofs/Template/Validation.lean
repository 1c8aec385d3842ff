import HeaderBindings.Template.Reference
import Mathlib.Data.List.TakeWhile

/-!
# Validation of templates

The first reference of a template that the pattern does not define decides what comes of compiling
the template. A group is then missing, unless the reference is made of digits that no number can be
read from.
-/

namespace HeaderBindings

namespace Text

/-- The boundaries of whole stretches give a value to just the code points inside. -/
theorem isSome_decimalValueIn (n : Nat) (boundaries : CodePointSet)
    (whole : boundaries.length % 2 = 0) :
    (decimalValueIn n boundaries).isSome = CodePointSet.holdsFrom n false boundaries := by
  fun_induction decimalValueIn n boundaries with
  | case1 start stop rest below => simp [CodePointSet.holdsFrom, below]
  | case2 start stop rest above inside => simp [CodePointSet.holdsFrom, above, inside]
  | case3 start stop rest above outside ih =>
    have shorter : rest.length % 2 = 0 := by
      simp only [List.length_cons] at whole
      omega
    simp [CodePointSet.holdsFrom, above, outside, ih shorter]
  | case4 boundaries short =>
    match boundaries, short with
    | [], _ => rfl
    | [boundary], _ => simp at whole
    | start :: stop :: rest, short => exact (short start stop rest rfl).elim

theorem isSome_decimalValue? (c : Char) : (decimalValue? c).isSome = isDecimal c :=
  isSome_decimalValueIn c.toNat decimalDigits (by decide +kernel)

theorem isSome_decimalNumber? (text : List Char) :
    (decimalNumber? text).isSome = text.all isDecimal := by
  have fromStart : ∀ start : Option Nat, (text.foldl
      (fun sum c => sum.bind fun n => (decimalValue? c).map (n * 10 + ·)) start).isSome =
        (start.isSome && text.all isDecimal) := by
    induction text with
    | nil => simp
    | cons c rest ih =>
      intro start
      rw [List.foldl_cons, ih]
      have head := isSome_decimalValue? c
      cases start <;> simp [← head, Bool.and_comm]
  simpa [decimalNumber?] using fromStart (some 0)

end Text

namespace Template

open Text

/-- Whether a reference is made of digits that no number can be read from: one of them is not a
    decimal digit, or there are too many. -/
def Unreadable (reference : List Char) : Prop :=
  reference ≠ [] ∧ (∀ c ∈ reference, isDigit c) ∧
    ((∃ c ∈ reference, ¬ isDecimal c) ∨ Failure.maxNumeralLength < reference.length)

/-- Whether a pattern defines the group of a reference, as far as that can be told. -/
def isDefined (pattern : Pattern) (reference : List Char) : Bool :=
  match defines pattern reference with
  | .ok defined => defined
  | .error _ => false

/-- The first reference of a template that is not defined. -/
def firstUndefined? (pattern : Pattern) (template : String) : Option (List Char) :=
  (references (convert template).toList).find? fun reference => !isDefined pattern reference

variable (pattern : Pattern)

theorem readNumeral_cases (digits : List Char) :
    (∃ n, readNumeral digits = .ok n ∧ (∀ c ∈ digits, isDecimal c) ∧
        digits.length ≤ Failure.maxNumeralLength) ∨
      ∃ failure, readNumeral digits = .error failure ∧ failure.kind = .unusableText ∧
        ((∃ c ∈ digits, ¬ isDecimal c) ∨ Failure.maxNumeralLength < digits.length) := by
  unfold readNumeral
  by_cases long : (digits.takeWhile isDecimal).length > Failure.maxNumeralLength
  · have shorter := (List.takeWhile_prefix isDecimal (l := digits)).length_le
    exact .inr ⟨_, if_pos long, rfl, .inr (by omega)⟩
  · have decimal := isSome_decimalNumber? digits
    simp only [if_neg long]
    cases read : decimalNumber? digits with
    | none =>
      have some : ∃ c ∈ digits, ¬ isDecimal c := by simpa [read] using decimal.symm
      exact .inr ⟨_, rfl, rfl, .inl some⟩
    | some n =>
      have all : ∀ c ∈ digits, isDecimal c := by simpa [read] using decimal.symm
      have short := List.takeWhile_eq_self_iff.mpr all ▸ long
      exact .inl ⟨n, rfl, all, by omega⟩

theorem defines_cases (reference : List Char) :
    (∃ defined, defines pattern reference = .ok defined ∧ ¬ Unreadable reference) ∨
      ∃ failure, defines pattern reference = .error failure ∧ failure.kind = .unusableText ∧
        Unreadable reference := by
  unfold defines
  by_cases number : (!reference.isEmpty && reference.all isDigit) = true
  · simp only [if_pos number]
    have digits : reference ≠ [] ∧ ∀ c ∈ reference, isDigit c := by simpa using number
    rcases readNumeral_cases reference with ⟨n, read, all, short⟩ | ⟨failure, fails, unusable, why⟩
    · refine .inl ⟨_, by rw [read]; rfl, fun ⟨_, _, why⟩ => ?_⟩
      rcases why with ⟨c, inside, other⟩ | long
      · exact other (all c inside)
      · omega
    · exact .inr ⟨failure, by rw [fails]; rfl, unusable, digits.1, digits.2, why⟩
  · simp only [if_neg number]
    exact .inl ⟨_, rfl, fun ⟨nonempty, all, _⟩ => number (by simpa using ⟨nonempty, all⟩)⟩

theorem checkReferences_eq (template : String) (references : List (List Char)) :
    checkReferences pattern template references =
      match references.find? fun reference => !isDefined pattern reference with
      | none => .ok ()
      | some reference =>
          match defines pattern reference with
          | .ok _ => .error (.undefinedGroup template (String.ofList reference) pattern.source)
          | .error failure => .error failure := by
  induction references with
  | nil => rfl
  | cons reference rest ih =>
    unfold checkReferences
    rw [List.find?_cons, ih]
    cases found : defines pattern reference with
    | error failure => simp [isDefined, found, bind, Except.bind]
    | ok defined => cases defined <;> simp [isDefined, found, bind, Except.bind]

/-- Compiling a template gives it with its dollar references written anew, or fails because of the
    first reference that is not defined. -/
theorem compile_cases (template : String) :
    (compile pattern template = .ok (convert template) ∧ firstUndefined? pattern template = none) ∨
      ∃ reference, firstUndefined? pattern template = some reference ∧
        (¬ Unreadable reference ∧ compile pattern template =
            .error (.undefinedGroup template (String.ofList reference) pattern.source) ∨
          Unreadable reference ∧ ∃ failure, failure.kind = .unusableText ∧
            compile pattern template = .error failure) := by
  have made : compile pattern template =
      (checkReferences pattern template (references (convert template).toList)).map
        fun _ => convert template := by
    simp only [compile]
    cases checkReferences pattern template (references (convert template).toList) <;> rfl
  rw [made, checkReferences_eq]
  cases first : firstUndefined? pattern template with
  | none =>
    rw [firstUndefined?] at first
    exact .inl ⟨by simp [first, Except.map], rfl⟩
  | some reference =>
    rw [firstUndefined?] at first
    refine .inr ⟨reference, rfl, ?_⟩
    rcases defines_cases pattern reference with
      ⟨defined, found, readable⟩ | ⟨failure, fails, unusable, unreadable⟩
    · exact .inl ⟨readable, by simp [first, found, Except.map]⟩
    · exact .inr ⟨unreadable, failure, unusable, by simp [first, fails, Except.map]⟩

end Template

end HeaderBindings
