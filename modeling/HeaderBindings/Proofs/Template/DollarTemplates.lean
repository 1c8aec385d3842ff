import HeaderBindings.Pattern.Parser
import HeaderBindings.Proofs.Template.GroupNumber
import HeaderBindings.Template.Expansion

/-!
# Dollar templates

A template is a sequence of literal texts, dollars and references to groups of a pattern, written
with dollar signs. Writing it anew turns every reference into one with a backslash and every pair of
dollars into one, and the check for groups that are not defined finds just these references.
-/

namespace HeaderBindings.Template

open Text Pattern

variable {pattern : Pattern} {chars name rest : List Char} {index size budget : Nat}

/-! ## Templates -/

/-- What a reference in a template refers to: the group of a name made of word characters, or the
    group of an ASCII decimal number. -/
inductive RefersTo (pattern : Pattern) : List Char → Nat → Prop
  | name {chars : List Char} {index : Nat} (words : ∀ c ∈ chars, isWord c = true)
      (named : pattern.groupNamed? (String.ofList chars) = some index) :
      RefersTo pattern chars index
  | number {digits : List Char} (nonempty : digits ≠ [])
      (ascii : ∀ c ∈ digits, isAsciiDigit c = true)
      (short : digits.length ≤ Failure.maxNumeralLength)
      (defined : numberIn 10 digits ≤ pattern.groups) :
      RefersTo pattern digits (numberIn 10 digits)

/-- A reference to a group that a pattern defines. -/
structure Reference (pattern : Pattern) where
  chars : List Char
  index : Nat
  refersTo : RefersTo pattern chars index

inductive Part (pattern : Pattern) where
  | literal (chars : List Char) (noDollar : '$' ∉ chars) (noBackslash : '\\' ∉ chars)
  | dollar
  | braced (reference : Reference pattern)
  | bare (reference : Reference pattern)

namespace Part

/-- How a part is written in a template. -/
def print : Part pattern → List Char
  | .literal chars _ _ => chars
  | .dollar => ['$', '$']
  | .braced reference => '$' :: '\x7b' :: reference.chars ++ ['\x7d']
  | .bare reference => '$' :: reference.chars

/-- What a part stands for in the replacement of a match. -/
def meaning (found : Match) : Part pattern → List Char
  | .literal chars _ _ => chars
  | .dollar => ['$']
  | .braced reference | .bare reference => found.groupText reference.index

/-- How a part is written with backslashes. -/
def written : Part pattern → List Char
  | .literal chars _ _ => chars
  | .dollar => ['$']
  | .braced reference | .bare reference => groupReference reference.chars

def pieces : Part pattern → List Piece
  | .literal chars _ _ => chars.map .char
  | .dollar => [.char '$']
  | .braced reference | .bare reference => [.group reference.index]

def reference? : Part pattern → Option (Reference pattern)
  | .literal _ _ _ | .dollar => none
  | .braced reference | .bare reference => some reference

end Part

/-- No word character follows a reference without braces. -/
def Spaced : List (Part pattern) → Prop
  | [] => True
  | .bare _ :: parts => (∀ c ∈ (parts.flatMap Part.print).head?, isWord c = false) ∧ Spaced parts
  | _ :: parts => Spaced parts

/-- A template with dollar references. -/
structure DollarTemplate (pattern : Pattern) where
  parts : List (Part pattern)
  spaced : Spaced parts

namespace DollarTemplate

def text (template : DollarTemplate pattern) : String :=
  String.ofList (template.parts.flatMap Part.print)

def meaning (template : DollarTemplate pattern) (found : Match) : List Char :=
  template.parts.flatMap (Part.meaning found)

end DollarTemplate

/-! ## References -/

/-- Whether the names of all groups are identifiers. -/
def NamesIdentify (pattern : Pattern) : Prop :=
  ∀ {name : String} {index : Nat}, pattern.groupNamed? name = some index →
    isIdentifier name.toList = true

theorem namesIdentify_of_ofString {source : String} {characters : List (String × Char)}
    (isPattern : ofString source characters = .ok pattern) : NamesIdentify pattern :=
  isIdentifier_of_groupNamed? isPattern

theorem RefersTo.isWord (refersTo : RefersTo pattern chars index) :
    ∀ c ∈ chars, isWord c = true := by
  cases refersTo with
  | name words => exact words
  | number _ ascii => exact fun c inside => isWord_of_isAsciiDigit (ascii c inside)

theorem RefersTo.nonempty (identify : NamesIdentify pattern)
    (refersTo : RefersTo pattern chars index) : chars ≠ [] := by
  cases refersTo with
  | name _ named =>
    rintro rfl
    cases identify named
  | number nonempty => exact nonempty

theorem readNumeral_of_ascii (ascii : ∀ c ∈ chars, isAsciiDigit c = true)
    (short : chars.length ≤ Failure.maxNumeralLength) :
    readNumeral chars = .ok (numberIn 10 chars) := by
  have decimal : chars.takeWhile isDecimal = chars :=
    List.takeWhile_eq_self_iff.mpr fun c inside => isDecimal_of_isAsciiDigit (ascii c inside)
  simp only [readNumeral, decimal, decimalNumber?_of_ascii ascii]
  exact if_neg (by omega)

/-- Checking a template accepts its references. -/
theorem RefersTo.defines (identify : NamesIdentify pattern)
    (refersTo : RefersTo pattern chars index) : defines pattern chars = .ok true := by
  unfold Template.defines
  cases refersTo with
  | name _ named =>
    have isName : isIdentifier chars = true := by simpa using identify named
    rw [all_isDigit_of_isIdentifier isName, Bool.and_false, if_neg Bool.false_ne_true, named]
    rfl
  | number nonempty ascii short defined =>
    have digits : (!chars.isEmpty && chars.all isDigit) = true := by
      simpa using ⟨nonempty, fun c inside => isDigit_of_isAsciiDigit (ascii c inside)⟩
    rw [if_pos digits, readNumeral_of_ascii ascii short]
    simp [defined]

/-- Expanding a template takes its references for the groups that they refer to. -/
theorem RefersTo.groupNumber (identify : NamesIdentify pattern)
    (refersTo : RefersTo pattern chars index) (start : Nat) :
    groupNumber pattern start chars = .ok index := by
  unfold Template.groupNumber
  cases refersTo with
  | name _ named =>
    have isName : isIdentifier chars = true := by simpa using identify named
    rw [if_pos isName, named]
  | number nonempty ascii short defined =>
    have notName : isIdentifier chars = false :=
      not_isIdentifier_of_isDigit fun c inside => isDigit_of_isAsciiDigit (ascii c inside)
    rw [notName, if_neg Bool.false_ne_true, writtenNumber?_of_ascii nonempty ascii short]
    exact if_pos defined

/-! ## Writing dollar references anew -/

theorem takeWhile_append_of_stop {test : Char → Bool} (all : ∀ c ∈ name, test c = true)
    (stops : ∀ c ∈ rest.head?, test c = false) : (name ++ rest).takeWhile test = name := by
  rw [List.takeWhile_append_of_pos all]
  cases rest with
  | nil => simp
  | cons c rest => rw [List.takeWhile_cons_of_neg (by simp [stops c rfl]), List.append_nil]

theorem dropWhile_append_of_stop {test : Char → Bool} (all : ∀ c ∈ name, test c = true)
    (stops : ∀ c ∈ rest.head?, test c = false) : (name ++ rest).dropWhile test = rest := by
  rw [List.dropWhile_append_of_pos all]
  cases rest with
  | nil => simp
  | cons c rest => rw [List.dropWhile_cons_of_neg (by simp [stops c rfl])]

theorem dollarReference?_braced (words : ∀ c ∈ name, isWord c = true) (nonempty : name ≠ []) :
    dollarReference? ('\x7b' :: name ++ '\x7d' :: rest) = some (groupReference name, rest) := by
  have stops : ∀ c ∈ ('\x7d' :: rest).head?, isWord c = false := by
    rintro c ⟨⟩
    decide
  simp [dollarReference?, takeWhile_append_of_stop words stops,
    dropWhile_append_of_stop words stops, nonempty]

theorem dollarReference?_bare (words : ∀ c ∈ name, isWord c = true) (nonempty : name ≠ [])
    (spaced : ∀ c ∈ rest.head?, isWord c = false) :
    dollarReference? (name ++ rest) = some (groupReference name, rest) := by
  have taken := takeWhile_append_of_stop words spaced
  have left := dropWhile_append_of_stop words spaced
  obtain ⟨c, letters, rfl⟩ := List.exists_cons_of_ne_nil nonempty
  have word := words c List.mem_cons_self
  rw [List.cons_append] at taken left ⊢
  rw [dollarReference?]
  · simp [taken, left]
  · rintro inner ⟨⟩
    cases word
  · rintro inner ⟨⟩
    cases word

theorem convertChars_of_some {written after : List Char}
    (reads : dollarReference? rest = some (written, after)) :
    convertChars ('$' :: rest) = written ++ convertChars after := by
  rw [convertChars, if_pos rfl]
  split
  case h_1 isReference =>
    cases reads.symm.trans isReference
    rfl
  case h_2 isNone => cases reads.symm.trans isNone

theorem convertChars_of_none (unread : dollarReference? rest = none) :
    convertChars ('$' :: rest) = '$' :: convertChars rest := by
  rw [convertChars, if_pos rfl]
  split
  case h_1 isReference => cases unread.symm.trans isReference
  case h_2 => rfl

theorem convertChars_literal (noDollar : '$' ∉ chars) :
    convertChars (chars ++ rest) = chars ++ convertChars rest := by
  induction chars with
  | nil => rfl
  | cons c chars ih =>
    rw [List.mem_cons, not_or] at noDollar
    rw [List.cons_append, convertChars, if_neg (Ne.symm noDollar.1), ih noDollar.2]
    rfl

theorem convertChars_of_not_mem (noDollar : '$' ∉ chars) : convertChars chars = chars := by
  have written : convertChars (chars ++ []) = chars ++ convertChars [] :=
    convertChars_literal noDollar
  simpa [convertChars] using written

theorem convert_of_not_mem {template : String} (noDollar : '$' ∉ template.toList) :
    convert template = template := by
  rw [convert, convertChars_of_not_mem noDollar, String.ofList_toList]

/-- Writing a template anew writes its references with backslashes. -/
theorem convertChars_print (identify : NamesIdentify pattern) {parts : List (Part pattern)}
    (spaced : Spaced parts) :
    convertChars (parts.flatMap Part.print) = parts.flatMap Part.written := by
  induction parts with
  | nil => simp [convertChars]
  | cons part parts ih =>
    rw [List.flatMap_cons, List.flatMap_cons]
    cases part with
    | literal chars noDollar _ =>
      rw [Part.print, convertChars_literal noDollar, ih spaced, Part.written]
    | dollar =>
      have reads : dollarReference? ('$' :: parts.flatMap Part.print) =
          some (['$'], parts.flatMap Part.print) := rfl
      rw [Part.print, List.cons_append, List.cons_append, List.nil_append,
        convertChars_of_some reads, ih spaced, Part.written]
    | braced reference =>
      obtain ⟨chars, index, refersTo⟩ := reference
      have reads : dollarReference? ('\x7b' :: chars ++ '\x7d' :: parts.flatMap Part.print) =
          some (groupReference chars, parts.flatMap Part.print) :=
        dollarReference?_braced refersTo.isWord (refersTo.nonempty identify)
      have printed : (Part.braced ⟨chars, index, refersTo⟩).print ++ parts.flatMap Part.print =
          '$' :: ('\x7b' :: chars ++ '\x7d' :: parts.flatMap Part.print) := by
        simp [Part.print]
      rw [printed, convertChars_of_some reads, ih spaced, Part.written]
    | bare reference =>
      obtain ⟨chars, index, refersTo⟩ := reference
      have reads :=
        dollarReference?_bare refersTo.isWord (refersTo.nonempty identify) spaced.1
      rw [Part.print, List.cons_append, convertChars_of_some reads, ih spaced.2, Part.written]

/-! ## Checking references -/

theorem references_literal (noBackslash : '\\' ∉ chars) :
    references (chars ++ rest) = references rest := by
  induction chars with
  | nil => rfl
  | cons c chars ih =>
    rw [List.mem_cons, not_or] at noBackslash
    rw [List.cons_append, references, if_neg (Ne.symm noBackslash.1), ih noBackslash.2]

theorem references_of_not_mem (noBackslash : '\\' ∉ chars) : references chars = [] := by
  have none : references (chars ++ []) = references [] := references_literal noBackslash
  simpa [references] using none

theorem backslashReference_bracket (noBracket : '>' ∉ name) :
    backslashReference ('g' :: '<' :: (name ++ '>' :: rest)) = (some name, rest) := by
  have free : ∀ c ∈ name, decide (c ≠ '>') = true := by
    intro c inside
    rw [decide_eq_true_eq]
    rintro rfl
    exact noBracket inside
  have stops : ∀ c ∈ ('>' :: rest).head?, decide (c ≠ '>') = false := by
    rintro c ⟨⟩
    decide
  have taken := takeWhile_append_of_stop free stops
  have left := dropWhile_append_of_stop free stops
  simp only [backslashReference, left, taken, if_true]

theorem references_groupReference (words : ∀ c ∈ name, isWord c = true) :
    references (groupReference name ++ rest) = name :: references rest := by
  have noBracket : '>' ∉ name := by
    intro inside
    cases words '>' inside
  have isText : groupReference name ++ rest = '\\' :: 'g' :: '<' :: (name ++ '>' :: rest) := by
    simp [groupReference]
  rw [isText, references, if_pos rfl, backslashReference_bracket noBracket]

theorem references_written (parts : List (Part pattern)) :
    references (parts.flatMap Part.written) =
      (parts.filterMap Part.reference?).map Reference.chars := by
  induction parts with
  | nil => simp [references]
  | cons part parts ih =>
    rw [List.flatMap_cons]
    cases part with
    | literal chars _ noBackslash =>
      rw [Part.written, references_literal noBackslash, ih]
      rfl
    | dollar =>
      rw [Part.written, references_literal (by decide), ih]
      rfl
    | braced reference | bare reference =>
      rw [Part.written, references_groupReference reference.refersTo.isWord, ih]
      rfl

/-- Every reference passes the check. -/
theorem checkReferences_map (identify : NamesIdentify pattern) (template : String)
    (references : List (Reference pattern)) :
    checkReferences pattern template (references.map Reference.chars) = .ok () := by
  induction references with
  | nil => rfl
  | cons reference references ih =>
    rw [List.map_cons, checkReferences, reference.refersTo.defines identify]
    exact ih

/-! ## Texts as templates -/

/-- A text with a second dollar behind each of its dollars. -/
def doubled (text : List Char) : List Char :=
  text.flatMap fun c => if c = '$' then ['$', '$'] else [c]

/-- A text without backslashes is the template that stands for it, when its dollars are doubled. -/
theorem exists_template_doubled (pattern : Pattern) {text : List Char} (noBackslash : '\\' ∉ text) :
    ∃ template : DollarTemplate pattern, template.text = String.ofList (doubled text) ∧
      ∀ found, template.meaning found = text := by
  induction text with
  | nil => exact ⟨⟨[], trivial⟩, rfl, fun found => rfl⟩
  | cons c text ih =>
    rw [List.mem_cons, not_or] at noBackslash
    obtain ⟨⟨parts, spaced⟩, isText, isMeaning⟩ := ih noBackslash.2
    have printed : parts.flatMap Part.print = doubled text := String.ofList_inj.mp isText
    by_cases isDollar : c = '$'
    · refine ⟨⟨.dollar :: parts, spaced⟩, ?_, fun found => ?_⟩
      · simp [DollarTemplate.text, doubled, Part.print, printed, isDollar]
      · simpa [DollarTemplate.meaning, Part.meaning, isDollar] using isMeaning found
    · refine ⟨⟨.literal [c] ?_ ?_ :: parts, spaced⟩, ?_, fun found => ?_⟩
      · simpa [eq_comm] using isDollar
      · simpa using noBackslash.1
      · simp [DollarTemplate.text, doubled, Part.print, printed, isDollar]
      · simpa [DollarTemplate.meaning, Part.meaning] using isMeaning found

end HeaderBindings.Template
