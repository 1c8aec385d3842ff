import HeaderBindings.Pattern.Escape
import HeaderBindings.Proofs.Template.Validation
import HeaderBindings.Text.Blank
import HeaderBindings.Text.Identifier

/-!
# Kinds of characters

How the tables of character properties stand to each other: no digit begins an identifier, and the
ASCII digits are digits, decimal digits and word characters. That two tables have nothing in common
is checked in one walk through both of them.
-/

namespace HeaderBindings.Text

namespace CodePointSet

variable {n : Nat} {inside : Bool} {other boundaries : CodePointSet}

/-- The boundaries of a set above a code point, and whether the code point is inside. -/
def skipTo (n : Nat) : Bool → CodePointSet → Bool × CodePointSet
  | inside, [] => (inside, [])
  | inside, boundary :: rest =>
      if n < boundary then (inside, boundary :: rest) else skipTo n (!inside) rest

/-- Whether a set has nothing in common with whole stretches, given what it is below its first
    boundary. -/
def isApart (inside : Bool) (other : CodePointSet) : CodePointSet → Bool
  | [] => true
  | [_] => false
  | start :: stop :: rest =>
      !(skipTo start inside other).1 && (skipTo start inside other).2.head?.all (stop ≤ ·) &&
        isApart (skipTo start inside other).1 (skipTo start inside other).2 rest

/-- Boundaries at or below a code point count only by their number. -/
theorem holdsFrom_skipTo {start : Nat} (above : start ≤ n) :
    holdsFrom n (skipTo start inside other).1 (skipTo start inside other).2 =
      holdsFrom n inside other := by
  induction other generalizing inside with
  | nil => rfl
  | cons boundary rest ih =>
    rw [skipTo]
    split
    next => rfl
    next notBelow =>
      rw [ih, holdsFrom, if_neg (by omega)]

theorem holdsFrom_of_head {stop : Nat} (below : n < stop)
    (first : other.head?.all (stop ≤ ·) = true) : holdsFrom n inside other = inside := by
  cases other with
  | nil => rfl
  | cons boundary rest =>
    have later : stop ≤ boundary := by simpa using first
    rw [holdsFrom, if_pos (by omega)]

/-- Nothing lies in two sets that are apart. -/
theorem holdsFrom_eq_false_of_isApart (apart : isApart inside other boundaries = true)
    (holds : holdsFrom n false boundaries = true) : holdsFrom n inside other = false := by
  fun_induction isApart inside other boundaries with
  | case1 => cases holds
  | case2 => cases apart
  | case3 inside other start stop rest ih =>
    simp only [Bool.and_eq_true, Bool.not_eq_true'] at apart
    obtain ⟨⟨outside, first⟩, further⟩ := apart
    have above : start ≤ n := by
      by_contra below
      rw [holdsFrom, if_pos (by omega)] at holds
      cases holds
    rw [← holdsFrom_skipTo above]
    by_cases within : n < stop
    · rw [holdsFrom_of_head within first, outside]
    · apply ih further
      rwa [holdsFrom, if_neg (by omega), holdsFrom, if_neg within] at holds

/-- What a set holds depends on its boundaries and on the state below the first one. -/
theorem holdsFrom_not (n : Nat) (inside : Bool) (boundaries : CodePointSet) :
    holdsFrom n (!inside) boundaries = !holdsFrom n inside boundaries := by
  induction boundaries generalizing inside with
  | nil => rfl
  | cons boundary rest ih =>
    rw [holdsFrom, holdsFrom]
    split
    next => rfl
    next => exact ih (!inside)

end CodePointSet

variable {c : Char}

/-! ## Digits and identifiers -/

theorem not_isLetter_of_isDigit (isDigit : isDigit c = true) : isLetter c = false := by
  have apart : CodePointSet.isApart false letters digits = true := by decide +kernel
  exact CodePointSet.holdsFrom_eq_false_of_isApart apart isDigit

theorem not_isDigit_of_isIdentifierStart (start : isIdentifierStart c = true) :
    isDigit c = false := by
  have apart : CodePointSet.isApart false identifierStartExceptions digits = true := by
    decide +kernel
  by_contra digit
  rw [Bool.not_eq_false] at digit
  have exception : identifierStartExceptions.holds c = false :=
    CodePointSet.holdsFrom_eq_false_of_isApart apart digit
  simp [isIdentifierStart, exception, not_isLetter_of_isDigit digit] at start

theorem all_isDigit_of_isIdentifier {name : List Char} (isName : isIdentifier name = true) :
    name.all isDigit = false := by
  cases name with
  | nil => cases isName
  | cons c rest =>
    rw [isIdentifier, Bool.and_eq_true] at isName
    simp [not_isDigit_of_isIdentifierStart isName.1]

theorem not_isIdentifier_of_isDigit {name : List Char} (digits : ∀ c ∈ name, isDigit c = true) :
    isIdentifier name = false := by
  by_contra isName
  have other := all_isDigit_of_isIdentifier (by simpa using isName)
  rw [List.all_eq_true.mpr digits] at other
  cases other

theorem isDigit_of_isDecimal (decimal : isDecimal c = true) : isDigit c = true := by
  have apart : CodePointSet.isApart true digits decimalDigits = true := by decide +kernel
  have noOther : CodePointSet.holdsFrom c.toNat true digits = false :=
    CodePointSet.holdsFrom_eq_false_of_isApart apart decimal
  rw [← Bool.not_false, CodePointSet.holdsFrom_not, Bool.not_eq_false'] at noOther
  exact noOther

theorem not_isBlank_of_isDigit (digit : isDigit c = true) : isBlank c = false := by
  have noDigits : ∀ n ∈ [9, 10, 11, 12, 13, 28, 29, 30, 31, 32, 0x85, 0xA0, 0x1680, 0x2000, 0x2001,
      0x2002, 0x2003, 0x2004, 0x2005, 0x2006, 0x2007, 0x2008, 0x2009, 0x200A, 0x2028, 0x2029,
      0x202F, 0x205F, 0x3000], CodePointSet.holdsFrom n false digits = false := by
    decide +kernel
  by_contra blank
  have other : isDigit c = false := by
    apply noDigits
    simp only [isBlank, Bool.not_eq_false, Bool.or_eq_true, Bool.and_eq_true, decide_eq_true_eq,
      beq_iff_eq] at blank
    simp only [List.mem_cons, List.not_mem_nil, or_false]
    omega
  rw [other] at digit
  cases digit

/-! ## ASCII digits -/

open Pattern (isAsciiDigit isOctalDigit hexValue? numberIn)

theorem mem_of_isAsciiDigit (ascii : isAsciiDigit c = true) : c ∈ "0123456789".toList := by
  have all : ∀ k < 10, Char.ofNat (48 + k) ∈ "0123456789".toList := by decide
  obtain ⟨least, most⟩ : '0' ≤ c ∧ c ≤ '9' := by simpa [isAsciiDigit] using ascii
  have above : 48 ≤ c.toNat := least
  have below : c.toNat ≤ 57 := most
  have member := all (c.toNat - 48) (by omega)
  rwa [Nat.add_sub_cancel' above, Char.ofNat_toNat] at member

/-- What holds of the ten digits holds of every ASCII digit. -/
theorem of_isAsciiDigit {test : Char → Bool} (all : "0123456789".toList.all test = true)
    (ascii : isAsciiDigit c = true) : test c = true :=
  List.all_eq_true.mp all c (mem_of_isAsciiDigit ascii)

/-- The digits that can begin the number of a group. -/
theorem isAsciiDigit_and_ne_zero_iff :
    isAsciiDigit c = true ∧ c ≠ '0' ↔ ('1' ≤ c && c ≤ '9') = true := by
  constructor
  · rintro ⟨ascii, notZero⟩
    have all : ("0123456789".toList.all fun c => c == '0' || ('1' ≤ c && c ≤ '9')) = true := by
      decide
    simpa [notZero] using of_isAsciiDigit all ascii
  · intro digit
    obtain ⟨least, most⟩ : '1' ≤ c ∧ c ≤ '9' := by simpa using digit
    have above : '0' ≤ c := Char.le_trans (by decide) least
    refine ⟨by simp [isAsciiDigit, above, most], ?_⟩
    rintro rfl
    exact absurd least (by decide)

theorem isAsciiDigit_of_isOctalDigit (octal : isOctalDigit c = true) : isAsciiDigit c = true := by
  obtain ⟨least, most⟩ : '0' ≤ c ∧ c ≤ '7' := by simpa [isOctalDigit] using octal
  have below : c ≤ '9' := Char.le_trans most (by decide)
  simp [isAsciiDigit, least, below]

theorem isWord_of_isAsciiDigit (ascii : isAsciiDigit c = true) : isWord c = true :=
  of_isAsciiDigit (by decide) ascii

theorem isDigit_of_isAsciiDigit (ascii : isAsciiDigit c = true) : isDigit c = true :=
  of_isAsciiDigit (by decide) ascii

theorem isDecimal_of_isAsciiDigit (ascii : isAsciiDigit c = true) : isDecimal c = true :=
  of_isAsciiDigit (by decide) ascii

/-- An ASCII digit has the same value as a decimal digit and as a hexadecimal one. -/
theorem decimalValue?_of_isAsciiDigit (ascii : isAsciiDigit c = true) :
    decimalValue? c = some ((hexValue? c).getD 0) := by
  have all : ("0123456789".toList.all fun c => decimalValue? c == some ((hexValue? c).getD 0)) =
      true := by decide
  exact beq_iff_eq.mp (of_isAsciiDigit all ascii)

/-- ASCII digits are read as the number that they write. -/
theorem decimalNumber?_of_ascii {digits : List Char} (ascii : ∀ c ∈ digits, isAsciiDigit c = true) :
    decimalNumber? digits = some (numberIn 10 digits) := by
  have fromStart : ∀ start : Nat, (digits.foldl
      (fun sum c => sum.bind fun n => (decimalValue? c).map (n * 10 + ·)) (some start)) =
        some (digits.foldl (fun sum c => sum * 10 + (hexValue? c).getD 0) start) := by
    induction digits with
    | nil => exact fun start => rfl
    | cons c rest ih =>
      intro start
      obtain ⟨isDigit, restAscii⟩ := List.forall_mem_cons.mp ascii
      rw [List.foldl_cons, List.foldl_cons, ← ih restAscii, decimalValue?_of_isAsciiDigit isDigit]
      rfl
  exact fromStart 0

end HeaderBindings.Text
