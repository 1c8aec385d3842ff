import HeaderBindings.Text.LowerCase
import Mathlib.Data.List.Basic

/-!
# Lower-case forms of parts

The lower-case form of a text is made of the lower-case forms of its characters, and these depend on
the rest of the text in one case only: a capital sigma has another form at the end of a word. So the
form of a beginning is a beginning of the form, unless the beginning ends inside of such a word.
-/

namespace HeaderBindings.Text

variable {before text after : List Char} {c : Char}

/-- The lower-case form that a part has between the text before it, read backwards, and the text
    after it. -/
def lowerBetween (before : List Char) : List Char → List Char → List Char
  | [], _ => []
  | c :: rest, after => lowerAt before c (rest ++ after) ++ lowerBetween (c :: before) rest after

theorem lowerFrom_append (before text after : List Char) :
    lowerFrom before (text ++ after) =
      lowerBetween before text after ++ lowerFrom (text.reverse ++ before) after := by
  induction text generalizing before with
  | nil => rfl
  | cons c text ih =>
    rw [List.cons_append, lowerFrom, ih, lowerBetween, List.append_assoc, List.reverse_cons,
      List.append_assoc, List.singleton_append]

theorem lowerFrom_eq_lowerBetween (before text : List Char) :
    lowerFrom before text = lowerBetween before text [] := by
  have whole := lowerFrom_append before text []
  rwa [List.append_nil, lowerFrom, List.append_nil] at whole

theorem lower_append (text after : List Char) :
    lower (text ++ after) = lowerBetween [] text after ++ lowerFrom text.reverse after := by
  rw [lower, lowerFrom_append, List.append_nil]

/-! ## Lengths -/

/-- The length of a lower-case form: only the capital I with a dot above becomes longer. -/
def lowerLength (text : List Char) : Nat :=
  text.length + text.count 'İ'

theorem length_lowerAt (before : List Char) (c : Char) (after : List Char) :
    (lowerAt before c after).length = lowerLength [c] := by
  by_cases isDotted : c = 'İ'
  · rw [lowerAt, if_pos isDotted, isDotted]
    rfl
  · have single : lowerLength [c] = 1 := by simp [lowerLength, isDotted]
    rw [lowerAt, if_neg isDotted, single]
    split
    · split <;> rfl
    · rfl

theorem lowerLength_cons (c : Char) (text : List Char) :
    lowerLength (c :: text) = lowerLength [c] + lowerLength text := by
  simp only [lowerLength, List.count_cons, List.length_cons, List.count_nil, List.length_nil]
  omega

theorem length_lowerBetween (before text after : List Char) :
    (lowerBetween before text after).length = lowerLength text := by
  induction text generalizing before with
  | nil => rfl
  | cons c text ih =>
    rw [lowerBetween, List.length_append, length_lowerAt, ih, ← lowerLength_cons]

theorem length_lower (text : List Char) : (lower text).length = lowerLength text := by
  rw [lower, lowerFrom_eq_lowerBetween, length_lowerBetween]

theorem lowerLength_of_not_mem (plain : 'İ' ∉ text) : lowerLength text = text.length := by
  rw [lowerLength, List.count_eq_zero_of_not_mem plain, Nat.add_zero]

/-! ## Words that a part ends in -/

/-- A capital sigma is the last letter of a word in a part, and stands inside of the word when the
    text after the part is taken into account. The text before the part is read backwards. -/
def SplitsWord (before text after : List Char) : Prop :=
  ∃ front back, text = front ++ 'Σ' :: back ∧ meetsCased (front.reverse ++ before) = true ∧
    meetsCased back = false ∧ meetsCased (back ++ after) = true

theorem not_splitsWord_of_not_mem (plain : 'Σ' ∉ text) : ¬ SplitsWord before text after := by
  rintro ⟨front, back, rfl, -⟩
  simp at plain

theorem splitsWord_cons_iff : SplitsWord before (c :: text) after ↔
    (c = 'Σ' ∧ meetsCased before = true ∧ meetsCased text = false ∧
      meetsCased (text ++ after) = true) ∨ SplitsWord (c :: before) text after := by
  constructor
  · rintro ⟨front, back, isText, meetsFront, endsWord, goesOn⟩
    cases front with
    | nil =>
      obtain ⟨rfl, rfl⟩ := List.cons.inj isText
      exact .inl ⟨rfl, meetsFront, endsWord, goesOn⟩
    | cons d front =>
      obtain ⟨rfl, rfl⟩ := List.cons.inj isText
      rw [List.reverse_cons, List.append_assoc] at meetsFront
      exact .inr ⟨front, back, rfl, meetsFront, endsWord, goesOn⟩
  · rintro (⟨rfl, meetsFront, endsWord, goesOn⟩ | ⟨front, back, rfl, meetsFront, endsWord, goesOn⟩)
    · exact ⟨[], text, rfl, meetsFront, endsWord, goesOn⟩
    · refine ⟨c :: front, back, rfl, ?_, endsWord, goesOn⟩
      rwa [List.reverse_cons, List.append_assoc]

/-- A text in which a cased letter comes first keeps it when more text follows. -/
theorem meetsCased_append (meets : meetsCased text = true) : meetsCased (text ++ after) = true := by
  unfold meetsCased at meets ⊢
  rw [List.find?_append]
  cases found : text.find? fun c => !caseIgnorables.holds c with
  | none => simp [found] at meets
  | some c => simpa [found] using meets

/-- The text after it matters to a character just if it is a sigma whose word goes on there. -/
theorem lowerAt_append_eq_iff : lowerAt before c (text ++ after) = lowerAt before c text ↔
    ¬ (c = 'Σ' ∧ meetsCased before = true ∧ meetsCased text = false ∧
      meetsCased (text ++ after) = true) := by
  by_cases isSigma : c = 'Σ'
  · subst isSigma
    have notDotted : 'Σ' ≠ 'İ' := by decide
    simp only [lowerAt, if_neg notDotted, if_pos, true_and]
    cases meetsCased before with
    | false => simp
    | true =>
      cases endsWord : meetsCased text with
      | true => simp [meetsCased_append endsWord]
      | false =>
        cases meetsCased (text ++ after) with
        | false => simp
        | true => simp
  · simp [lowerAt, isSigma]

theorem lowerBetween_eq_iff : lowerBetween before text after = lowerBetween before text [] ↔
    ¬ SplitsWord before text after := by
  induction text generalizing before with
  | nil => simp [lowerBetween, SplitsWord]
  | cons c text ih =>
    have sameLength : (lowerAt before c (text ++ after)).length =
        (lowerAt before c (text ++ [])).length := by
      rw [length_lowerAt, length_lowerAt]
    rw [splitsWord_cons_iff, not_or, ← ih, ← lowerAt_append_eq_iff, lowerBetween, lowerBetween,
      List.append_nil] at *
    exact ⟨fun same => List.append_inj same sameLength, fun ⟨head, rest⟩ => by rw [head, rest]⟩

/-! ## Beginnings -/

/-- The lower-case form of a beginning is a beginning of the lower-case form, unless the beginning
    splits a word after a capital sigma. -/
theorem lower_prefix_lower_append_iff :
    lower text <+: lower (text ++ after) ↔ ¬ SplitsWord [] text after := by
  have sameLength : (lowerBetween [] text []).length = (lowerBetween [] text after).length := by
    rw [length_lowerBetween, length_lowerBetween]
  rw [← lowerBetween_eq_iff, lower_append, lower, lowerFrom_eq_lowerBetween]
  constructor
  · intro ⟨rest, isRest⟩
    exact (List.append_inj_left isRest sameLength).symm
  · intro same
    rw [same]
    exact List.prefix_append _ _

/-- Which beginnings of a text have a lower-case form that begins the form of the whole text: those
    of the right length that split no word. -/
theorem lower_eq_iff_of_begins {other : List Char}
    (begins : lower other <+: lower (text ++ after)) :
    lower text = lower other ↔
      lowerLength text = lowerLength other ∧ ¬ SplitsWord [] text after := by
  rw [← lower_prefix_lower_append_iff, ← length_lower, ← length_lower]
  constructor
  · intro same
    rw [same]
    exact ⟨rfl, begins⟩
  · rintro ⟨sameLength, isPrefix⟩
    exact (List.prefix_of_prefix_length_le isPrefix begins
      (Nat.le_of_eq sameLength)).eq_of_length sameLength

end HeaderBindings.Text
