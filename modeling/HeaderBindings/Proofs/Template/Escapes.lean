import HeaderBindings.Proofs.Template.DollarTemplates
import HeaderBindings.Proofs.Template.Validation

/-!
# Escapes of a template

A template has an escape at every backslash that is not itself taken by the backslash before it. The
check passes over what a reference takes, and so does the expansion; as long as no reference has a
backslash in it, both come to the same escapes. A reference that the pattern defines never has one.
-/

namespace HeaderBindings.Template

open Text Pattern

/-- What follows the backslash of every escape, up to the end of the text. -/
def escapes : List Char → List (List Char)
  | '\\' :: c :: rest => (c :: rest) :: escapes rest
  | _ :: rest => escapes rest
  | [] => []

/-- Whether a name in brackets, as the expansion takes it, refers to a group of a pattern. -/
def hasGroup (pattern : Pattern) (name : List Char) : Bool :=
  if isIdentifier name then (pattern.groupNamed? (String.ofList name)).isSome
  else (writtenNumber? name).any (· ≤ pattern.groups)

variable {pattern : Pattern} {c d : Char} {chars name rest text : List Char}

theorem escapes_char (plain : c ≠ '\\') : escapes (c :: rest) = escapes rest := by
  rw [escapes]
  rintro d after isBackslash
  exact (plain isBackslash).elim

theorem escapes_literal (noBackslash : '\\' ∉ chars) : escapes (chars ++ rest) = escapes rest := by
  induction chars with
  | nil => rfl
  | cons c chars ih =>
    rw [List.mem_cons, not_or] at noBackslash
    rw [List.cons_append, escapes_char (Ne.symm noBackslash.1), ih noBackslash.2]

/-! ## What the check reads -/

theorem backslashReference_pair (ascii : isAsciiDigit c = true) (notZero : c ≠ '0')
    (decimal : isDecimal d = true) :
    backslashReference (c :: d :: rest) = (some [c, d], rest) := by
  have notName : c ≠ 'g' := by
    rintro rfl
    cases ascii
  have digit := isAsciiDigit_and_ne_zero_iff.mp ⟨ascii, notZero⟩
  simp only [backslashReference, if_neg notName, if_pos digit, if_pos decimal]

theorem backslashReference_digits (ascii : ∀ e ∈ [c, d], isAsciiDigit e = true)
    (notZero : c ≠ '0') : backslashReference (c :: d :: rest) = (some [c, d], rest) :=
  backslashReference_pair (ascii c (by simp)) notZero
    (isDecimal_of_isAsciiDigit (ascii d (by simp)))

theorem backslashReference_single (ascii : isAsciiDigit c = true) (notZero : c ≠ '0')
    (alone : ∀ d ∈ rest.head?, isDecimal d = false) :
    backslashReference (c :: rest) = (some [c], rest) := by
  have notName : c ≠ 'g' := by
    rintro rfl
    cases ascii
  have digit := isAsciiDigit_and_ne_zero_iff.mp ⟨ascii, notZero⟩
  simp only [backslashReference, if_neg notName, if_pos digit]
  cases rest with
  | nil => rfl
  | cons d rest => exact if_neg (by simp [alone d rfl])

/-- A digit is read alone or together with a decimal digit after it. -/
theorem backslashReference_cases (ascii : isAsciiDigit c = true) (notZero : c ≠ '0')
    (rest : List Char) :
    (backslashReference (c :: rest)).1 = some [c] ∨
      ∃ d after, rest = d :: after ∧ isDecimal d = true ∧
        (backslashReference (c :: rest)).1 = some [c, d] := by
  by_cases alone : ∀ d ∈ rest.head?, isDecimal d = false
  · exact .inl (congrArg Prod.fst (backslashReference_single ascii notZero alone))
  · cases rest with
    | nil => exact (alone (by simp)).elim
    | cons d after =>
      have decimal : isDecimal d = true := by simpa using alone
      exact .inr ⟨d, after, rfl, decimal,
        congrArg Prod.fst (backslashReference_pair ascii notZero decimal)⟩

theorem backslashReference_other (notName : c ≠ 'g') (other : isAsciiDigit c = false ∨ c = '0') :
    backslashReference (c :: rest) = (none, rest) := by
  have notDigit : ¬ ('1' ≤ c && c ≤ '9') = true := by
    rw [← isAsciiDigit_and_ne_zero_iff]
    rintro ⟨ascii, notZero⟩
    rcases other with other | isZero
    · rw [other] at ascii
      cases ascii
    · exact notZero isZero
  unfold backslashReference
  simp only [if_neg notName, if_neg notDigit]

/-- A backslash that the check passes over is part of a reference. -/
theorem exists_taken_eq (c : Char) (rest : List Char) :
    ∃ taken, rest = taken ++ (backslashReference (c :: rest)).2 ∧
      ('\\' ∈ taken → ∃ name ∈ (backslashReference (c :: rest)).1, '\\' ∈ name) := by
  unfold backslashReference
  dsimp only
  split
  next =>
    split
    next inner =>
      split
      next stop after left =>
        have isBracket : stop = '>' := by
          have stops := List.head?_dropWhile_not (fun c => decide (c ≠ '>')) inner
          rw [left] at stops
          simpa using stops
        refine ⟨'<' :: inner.takeWhile (· ≠ '>') ++ ['>'], ?_, ?_⟩
        · have whole : inner.takeWhile (· ≠ '>') ++ inner.dropWhile (· ≠ '>') = inner :=
            List.takeWhile_append_dropWhile
          rw [left, isBracket] at whole
          simp only [List.cons_append, List.append_assoc, List.nil_append, List.cons.injEq,
            true_and]
          exact whole.symm
        · intro inside
          refine ⟨_, rfl, ?_⟩
          simpa using inside
      next => exact ⟨[], rfl, by simp⟩
    next => exact ⟨[], rfl, by simp⟩
  next =>
    split
    next =>
      split
      next d after =>
        split
        next decimal =>
          refine ⟨[d], rfl, fun inside => ⟨_, rfl, ?_⟩⟩
          rw [List.mem_singleton.mp inside]
          simp
        next => exact ⟨[], rfl, by simp⟩
      next => exact ⟨[], rfl, by simp⟩
    next => exact ⟨[], rfl, by simp⟩

/-- Without backslashes in the reference, the check goes on right behind the escape. -/
theorem references_escape
    (noBackslash : ∀ name ∈ (backslashReference (c :: rest)).1, '\\' ∉ name) :
    references ('\\' :: c :: rest) =
      (backslashReference (c :: rest)).1.toList ++ references rest := by
  obtain ⟨taken, isRest, ofReference⟩ := exists_taken_eq c rest
  have passed : references (backslashReference (c :: rest)).2 = references rest := by
    conv_rhs => rw [isRest]
    rw [references_literal]
    intro inside
    obtain ⟨name, isName, inside⟩ := ofReference inside
    exact noBackslash name isName inside
  rw [references, if_pos rfl, passed]
  cases (backslashReference (c :: rest)).1 <;> rfl

/-- The check finds the references of all escapes, or else a reference with a backslash in it, which
    is the reference of an escape too. -/
theorem references_cases (text : List Char) :
    references text = (escapes text).filterMap (fun escape => (backslashReference escape).1) ∨
      ∃ name ∈ references text, '\\' ∈ name ∧
        ∃ escape ∈ escapes text, (backslashReference escape).1 = some name := by
  induction text using escapes.induct with
  | case1 c rest ih =>
    rw [escapes]
    by_cases noBackslash : ∀ name ∈ (backslashReference (c :: rest)).1, '\\' ∉ name
    · rw [references_escape noBackslash]
      rcases ih with same | ⟨name, isReference, inside, escape, isEscape, reads⟩
      · left
        rw [same, List.filterMap_cons]
        cases (backslashReference (c :: rest)).1 <;> rfl
      · exact .inr ⟨name, List.mem_append_right _ isReference, inside, escape,
          List.mem_cons_of_mem _ isEscape, reads⟩
    · push Not at noBackslash
      obtain ⟨name, reads, inside⟩ := noBackslash
      refine .inr ⟨name, ?_, inside, c :: rest, List.mem_cons_self, reads⟩
      rw [references, if_pos rfl, reads]
      exact List.mem_cons_self
  | case2 c rest plain ih =>
    by_cases isBackslash : c = '\\'
    · cases rest with
      | nil =>
        rw [isBackslash]
        left
        simp [references, escapes, backslashReference]
      | cons d rest => exact (plain d rest isBackslash rfl).elim
    · rw [references, if_neg isBackslash, escapes_char isBackslash]
      exact ih
  | case3 => exact .inl (by simp [references, escapes])

/-! ## Defined references -/

theorem backslash_not_mem_of_hasGroup (has : hasGroup pattern name = true) : '\\' ∉ name := by
  rw [hasGroup] at has
  split at has
  next isName =>
    intro inside
    cases name with
    | nil => cases inside
    | cons c name =>
      simp only [isIdentifier, Bool.and_eq_true, List.all_eq_true] at isName
      rcases List.mem_cons.mp inside with rfl | inside
      · exact absurd isName.1 (by decide)
      · exact absurd (isName.2 _ inside) (by decide)
  next =>
    obtain ⟨n, isNumber, -⟩ := (Option.any_eq_true _ _).mp has
    exact backslash_not_mem_of_writtenNumber? isNumber

/-- The check reads the number that the expansion reads. -/
theorem toOption_readNumeral (nonempty : name ≠ []) (digits : ∀ c ∈ name, isDigit c = true) :
    (readNumeral name).toOption = writtenNumber? name := by
  rw [writtenNumber?_of_digits nonempty digits]
  have shorter := (List.takeWhile_prefix isDecimal (l := name)).length_le
  unfold readNumeral
  dsimp only
  by_cases long : (name.takeWhile isDecimal).length > Failure.maxNumeralLength
  · rw [if_pos long, if_pos (by omega)]
    rfl
  · rw [if_neg long]
    have decimal := isSome_decimalNumber? name
    cases read : decimalNumber? name with
    | none => simp [Except.toOption]
    | some n =>
      have all : ∀ c ∈ name, isDecimal c = true := by simpa [read] using decimal.symm
      rw [List.takeWhile_eq_self_iff.mpr all] at long
      rw [if_neg long]
      rfl

theorem isDefined_of_not_digits (other : name = [] ∨ name.all isDigit = false) :
    isDefined pattern name = (pattern.groupNamed? (String.ofList name)).isSome := by
  have notNumber : ¬ (!name.isEmpty && name.all isDigit) = true := by
    rcases other with rfl | other
    · decide
    · simp [other]
  rw [isDefined, defines, if_neg notNumber]

theorem isDefined_of_digits (nonempty : name ≠ []) (digits : ∀ c ∈ name, isDigit c = true) :
    isDefined pattern name = (writtenNumber? name).any (· ≤ pattern.groups) := by
  have number : (!name.isEmpty && name.all isDigit) = true := by
    simpa using ⟨nonempty, digits⟩
  rw [isDefined, defines, if_pos number, ← toOption_readNumeral nonempty digits]
  cases readNumeral name <;> rfl

/-- What the check takes for defined: a group that the expansion finds too, by an identifier or by
    digits only. -/
theorem isDefined_eq (identify : NamesIdentify pattern) (name : List Char) :
    isDefined pattern name =
      (hasGroup pattern name && (isIdentifier name || name.all isDigit)) := by
  unfold hasGroup
  by_cases isName : isIdentifier name = true
  · have notDigits : name.all isDigit = false := all_isDigit_of_isIdentifier isName
    rw [if_pos isName, isName, isDefined_of_not_digits (.inr notDigits), Bool.true_or,
      Bool.and_true]
  · have unnamed : (pattern.groupNamed? (String.ofList name)).isSome = false := by
      cases named : pattern.groupNamed? (String.ofList name) with
      | none => rfl
      | some index => exact (isName (by simpa using identify named)).elim
    rw [if_neg isName, Bool.eq_false_iff.mpr isName, Bool.false_or]
    by_cases number : name ≠ [] ∧ ∀ c ∈ name, isDigit c = true
    · rw [isDefined_of_digits number.1 number.2, List.all_eq_true.mpr number.2, Bool.and_true]
    · by_cases empty : name = []
      · rw [isDefined_of_not_digits (.inl empty), unnamed, empty]
        rfl
      · have notDigits : name.all isDigit = false := by
          simpa [empty] using number
        rw [isDefined_of_not_digits (.inr notDigits), unnamed, notDigits, Bool.and_false]

/-- One or two ASCII digits are defined when the pattern has as many groups. -/
theorem isDefined_of_ascii (nonempty : name ≠ []) (ascii : ∀ c ∈ name, isAsciiDigit c = true)
    (short : name.length ≤ 2) :
    isDefined pattern name = decide (numberIn 10 name ≤ pattern.groups) := by
  have readable : 2 ≤ Failure.maxNumeralLength := by decide
  rw [isDefined_of_digits nonempty fun c inside => isDigit_of_isAsciiDigit (ascii c inside),
    writtenNumber?_of_ascii nonempty ascii (short.trans readable)]
  rfl

theorem decimalNumber?_pair (ascii : isAsciiDigit c = true) (decimal : isDecimal d = true) :
    ∃ units, decimalNumber? [c, d] = some (numberIn 10 [c] * 10 + units) := by
  obtain ⟨units, isUnits⟩ := Option.isSome_iff_exists.mp ((isSome_decimalValue? d).trans decimal)
  refine ⟨units, ?_⟩
  simp [decimalNumber?, decimalValue?_of_isAsciiDigit ascii, isUnits, numberIn]

theorem isDefined_pair (ascii : isAsciiDigit c = true) (decimal : isDecimal d = true) :
    isDefined pattern [c, d] = (decimalNumber? [c, d]).any (· ≤ pattern.groups) := by
  have digits : ∀ e ∈ [c, d], isDigit e = true := by
    simpa using ⟨isDigit_of_isAsciiDigit ascii, isDigit_of_isDecimal decimal⟩
  have short : ¬ [c, d].length > Failure.maxNumeralLength := by
    simp [Failure.maxNumeralLength]
  rw [isDefined_of_digits (List.cons_ne_nil _ _) digits,
    writtenNumber?_of_digits (List.cons_ne_nil _ _) digits, if_neg short]

end HeaderBindings.Template
