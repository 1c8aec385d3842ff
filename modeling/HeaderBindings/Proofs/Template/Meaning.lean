import HeaderBindings.Proofs.Pattern.FirstMatch
import HeaderBindings.Proofs.Template.DollarTemplates

/-!
# What dollar templates mean

A template that has been written anew is read as the pieces of its parts, in order. So it replaces
the first match in a name by what its parts mean, and the template that refers to the whole match
gives every name back.
-/

namespace HeaderBindings

namespace Template

open Text Pattern

variable {pattern : Pattern} {chars name rest : List Char} {index size : Nat}

/-! ## Reading pieces -/

/-- A text is read as pieces, whatever the budget, and it is no lone backslash, which would end a
    template. -/
structure ReadsAs (pattern : Pattern) (size : Nat) (text : List Char) (pieces : List Piece) :
    Prop where
  notLone : text ≠ ['\\']
  reads : ∀ budget, text.length ≤ budget → piecesFrom pattern size budget text = .ok pieces

variable {more : List Piece}

theorem ReadsAs.checkEnd_eq (readsAs : ReadsAs pattern size rest more) (size : Nat) :
    checkEnd size rest = .ok () :=
  if_neg readsAs.notLone

theorem ReadsAs.nil : ReadsAs pattern size [] [] where
  notLone := by simp
  reads budget _ := by cases budget <;> rfl

theorem ReadsAs.char {c : Char} (plain : c ≠ '\\') (readsAs : ReadsAs pattern size rest more) :
    ReadsAs pattern size (c :: rest) (.char c :: more) where
  notLone := by simp [plain]
  reads budget enough := by
    cases budget with
    | zero => simp at enough
    | succ budget =>
      have reads := readsAs.reads budget (by simpa using enough)
      rw [piecesFrom]
      · rw [readsAs.checkEnd_eq, reads]
        rfl
      · rintro d after isBackslash
        exact (plain isBackslash).elim

theorem ReadsAs.literal (noBackslash : '\\' ∉ chars) (readsAs : ReadsAs pattern size rest more) :
    ReadsAs pattern size (chars ++ rest) (chars.map .char ++ more) := by
  induction chars with
  | nil => exact readsAs
  | cons c chars ih =>
    rw [List.mem_cons, not_or] at noBackslash
    exact (ih noBackslash.2).char (Ne.symm noBackslash.1)

theorem untilBracket_name (words : ∀ c ∈ name, isWord c = true) :
    untilBracket (name ++ '>' :: rest) = .ok (name, rest) := by
  induction name with
  | nil => simp [untilBracket]
  | cons c name ih =>
    obtain ⟨word, words⟩ := List.forall_mem_cons.mp words
    have notBracket : c ≠ '>' := by
      rintro rfl
      cases word
    have notBackslash : c ≠ '\\' := by
      rintro rfl
      cases word
    rw [List.cons_append, untilBracket]
    · rw [if_neg notBracket, ih words]
      rfl
    · simp [notBackslash]
    · simp [notBackslash]

theorem bracketReference_name (identify : NamesIdentify pattern)
    (refersTo : RefersTo pattern name index) (readsAs : ReadsAs pattern size rest more) :
    bracketReference pattern size ('<' :: (name ++ '>' :: rest)) = .ok (.group index, rest) := by
  have nonempty := refersTo.nonempty identify
  have inner : checkEnd size (name ++ '>' :: rest) = .ok () := by
    apply if_neg
    intro lone
    have lengths := congrArg List.length lone
    have long := List.length_pos_iff.mpr nonempty
    simp at lengths
    omega
  simp [bracketReference, inner, untilBracket_name refersTo.isWord, readsAs.checkEnd_eq, nonempty,
    refersTo.groupNumber identify, bind, Except.bind, pure, Except.pure]

theorem ReadsAs.reference (identify : NamesIdentify pattern)
    (refersTo : RefersTo pattern name index) (readsAs : ReadsAs pattern size rest more) :
    ReadsAs pattern size (groupReference name ++ rest) (.group index :: more) := by
  have isText : groupReference name ++ rest = '\\' :: 'g' :: '<' :: (name ++ '>' :: rest) := by
    simp [groupReference]
  rw [isText]
  constructor
  case notLone => simp
  case reads =>
    intro budget enough
    cases budget with
    | zero => simp at enough
    | succ budget =>
      have reads := readsAs.reads budget (by simp at enough; omega)
      have notLone : checkEnd size ('<' :: (name ++ '>' :: rest)) = .ok () := if_neg (by simp)
      rw [piecesFrom, notLone, escapePieces, if_pos rfl,
        bracketReference_name identify refersTo readsAs]
      simp [reads, bind, Except.bind, pure, Except.pure]

/-- What is written anew is read as the pieces of its parts. -/
theorem readsAs_written (identify : NamesIdentify pattern) (size : Nat)
    (parts : List (Part pattern)) :
    ReadsAs pattern size (parts.flatMap Part.written) (parts.flatMap Part.pieces) := by
  induction parts with
  | nil => exact .nil
  | cons part parts ih =>
    rw [List.flatMap_cons, List.flatMap_cons]
    cases part with
    | literal chars _ noBackslash => exact ih.literal noBackslash
    | dollar => exact ih.char (by decide)
    | braced reference | bare reference => exact ih.reference identify reference.refersTo

theorem ReadsAs.pieces_eq {text : List Char} {read : List Piece}
    (readsAs : ReadsAs pattern text.length text read) : pieces pattern text = .ok read := by
  rw [pieces, readsAs.checkEnd_eq]
  exact readsAs.reads _ (Nat.le_refl _)

theorem pieces_written (identify : NamesIdentify pattern) (parts : List (Part pattern)) :
    pieces pattern (parts.flatMap Part.written) = .ok (parts.flatMap Part.pieces) :=
  (readsAs_written identify _ parts).pieces_eq

theorem pieces_of_not_mem (pattern : Pattern) (noBackslash : '\\' ∉ chars) :
    pieces pattern chars = .ok (chars.map .char) := by
  have readsAs : ReadsAs pattern chars.length (chars ++ []) (chars.map .char ++ []) :=
    .literal noBackslash .nil
  rw [List.append_nil, List.append_nil] at readsAs
  exact readsAs.pieces_eq

theorem expand_pieces (found : Match) (parts : List (Part pattern)) :
    expand found (parts.flatMap Part.pieces) = parts.flatMap (Part.meaning found) := by
  rw [expand, List.flatMap_assoc]
  congr 1
  funext part
  cases part with
  | literal chars => simp [Part.pieces, Part.meaning, Piece.text, List.flatMap_map]
  | dollar | braced | bare => simp [Part.pieces, Part.meaning, Piece.text]

end Template

namespace Renaming

open Template Pattern

variable {pattern : Pattern}

/-! ## Other templates -/

theorem ofTemplate_unchanged {template : String}
    (unchanged : convertChars template.toList = template.toList)
    (noBackslash : '\\' ∉ template.toList) :
    ofTemplate pattern template = .ok ⟨pattern, template⟩ := by
  have converted : convert template = template := by
    rw [convert, unchanged, String.ofList_toList]
  rw [ofTemplate, compile, converted, references_of_not_mem noBackslash]
  rfl

/-- A number with too many digits is refused, though a pattern may define the group of that
    number. -/
theorem ofTemplate_of_long {template : String} {digits : List Char}
    (isText : template.toList = '$' :: digits) (ascii : ∀ c ∈ digits, isAsciiDigit c = true)
    (long : Failure.maxNumeralLength < digits.length) :
    ofTemplate pattern template = .error (.numeralLength digits.length) := by
  have words : ∀ c ∈ digits, Text.isWord c = true :=
    fun c inside => Text.isWord_of_isAsciiDigit (ascii c inside)
  have nonempty : digits ≠ [] := List.ne_nil_of_length_pos (by omega)
  have reads : dollarReference? (digits ++ []) = some (groupReference digits, []) :=
    dollarReference?_bare words nonempty (by simp)
  have converted : (convert template).toList = groupReference digits ++ [] := by
    rw [convert, String.toList_ofList, isText, ← List.append_nil digits,
      convertChars_of_some reads, List.append_nil digits, convertChars]
  have decimal : digits.takeWhile Text.isDecimal = digits :=
    List.takeWhile_eq_self_iff.mpr fun c inside => Text.isDecimal_of_isAsciiDigit (ascii c inside)
  have refused : defines pattern digits = .error (.numeralLength digits.length) := by
    have isNumber : (!digits.isEmpty && digits.all Text.isDigit) = true := by
      simpa using ⟨nonempty, fun c inside => Text.isDigit_of_isAsciiDigit (ascii c inside)⟩
    rw [defines, if_pos isNumber]
    simp [readNumeral, decimal, long, bind, Except.bind]
  have checked : checkReferences pattern template (references (convert template).toList) =
      .error (.numeralLength digits.length) := by
    rw [converted, references_groupReference words, checkReferences, refused]
    rfl
  simp only [ofTemplate, compile, checked]
  rfl

theorem apply_of_not_mem {template : String} (noBackslash : '\\' ∉ template.toList)
    (name : String) :
    (⟨pattern, template⟩ : Renaming).apply name = .ok (String.ofList
      (replaceFirst pattern (template.toList.map .char) name.toList)) := by
  simp only [apply, pieces_of_not_mem pattern noBackslash]

/-! ## Names rewritten by a template -/

/-- What a template makes of a name: the name itself if the pattern matches at no place of it, and
    otherwise the name with its first match replaced by what the template means there. -/
inductive Replaces (template : DollarTemplate pattern) (name : List Char) : List Char → Prop
  | unmatched
      (nowhere : ∀ place : Place, place.In name → matchAt? pattern name.length place = none) :
      Replaces template name name
  | matched {found : Match} (first : IsFirstMatch pattern name found) (within : found.Within name) :
      Replaces template name (found.before ++ template.meaning found ++ found.after)

/-- A template makes one thing of a name, which a search tells. -/
theorem replaces_iff (template : DollarTemplate pattern) (name result : List Char) :
    Replaces template name result ↔
      result = match search? pattern name with
        | none => name
        | some found => found.before ++ template.meaning found ++ found.after := by
  rcases search?_cases pattern name with ⟨isNone, nowhere⟩ | ⟨found, isFound, isFirst⟩
  · rw [isNone]
    constructor
    · rintro (- | ⟨first, -⟩)
      · rfl
      · have isMatch := first.isMatch
        simp [nowhere _ first.inside] at isMatch
    · rintro rfl
      exact .unmatched nowhere
  · rw [isFound]
    constructor
    · rintro (nowhere | ⟨first, -⟩)
      · have isMatch := isFirst.isMatch
        simp [nowhere _ isFirst.inside] at isMatch
      · rw [first.unique isFirst]
    · rintro rfl
      exact .matched isFirst (within_search? isFound)

theorem ofTemplate_text (identify : NamesIdentify pattern) (template : DollarTemplate pattern) :
    ofTemplate pattern template.text =
      .ok ⟨pattern, String.ofList (template.parts.flatMap Part.written)⟩ := by
  have converted : convert template.text =
      String.ofList (template.parts.flatMap Part.written) := by
    rw [convert, DollarTemplate.text, String.toList_ofList,
      convertChars_print identify template.spaced]
  have checked : checkReferences pattern template.text
      (references (template.parts.flatMap Part.written)) = .ok () := by
    rw [references_written]
    exact checkReferences_map identify _ _
  rw [ofTemplate, compile, converted]
  simp [checked, bind, Except.bind, pure, Except.pure]

theorem apply_written (identify : NamesIdentify pattern) (template : DollarTemplate pattern)
    (name : String) :
    ∃ result, (⟨pattern, String.ofList (template.parts.flatMap Part.written)⟩ : Renaming).apply
      name = .ok (String.ofList result) ∧ Replaces template name.toList result := by
  refine ⟨_, ?_, (replaces_iff template name.toList _).mpr rfl⟩
  simp only [apply, String.toList_ofList, pieces_written identify, replaceFirst, expand_pieces]
  rfl

/-- A template of literal texts, dollars and references to groups of a pattern is accepted, and it
    makes of every name what its parts mean. The template `$0` leaves every name as it is, and every
    text without backslashes is what a template stands for. -/
theorem dollarTemplates_mean {source : String} {characters : List (String × Char)}
    (isPattern : ofString source characters = .ok pattern) :
    (∀ template : DollarTemplate pattern,
      ∃ policy, ofTemplate pattern template.text = .ok policy ∧
        ∀ name : String, ∃ result, policy.apply name = .ok (String.ofList result) ∧
          Replaces template name.toList result) ∧
    (∃ policy, ofTemplate pattern "$0" = .ok policy ∧ ∀ name, policy.apply name = .ok name) ∧
    ∀ text, '\\' ∉ text →
      ∃ template : DollarTemplate pattern, template.text = String.ofList (doubled text) ∧
        ∀ found, template.meaning found = text := by
  have identify : NamesIdentify pattern := namesIdentify_of_ofString isPattern
  refine ⟨fun template => ?_, ?_, fun text => exists_template_doubled pattern⟩
  · exact ⟨_, ofTemplate_text identify template, apply_written identify template⟩
  · exact ⟨whole pattern, ofTemplate_whole pattern, apply_whole pattern⟩

/-- The pattern `(?P<tail>b+)`. -/
def tailPattern : Pattern :=
  ⟨"(?P<tail>b+)", .group 1 (.repeated 1 none .greedy (.one (.exactly 98))), 1,
    [("tail", 1)], {}⟩

theorem isPattern_tail : ofString "(?P<tail>b+)" = .ok tailPattern := by
  have isSome : (ofString "(?P<tail>b+)").toOption = some tailPattern := by decide +kernel
  cases read : ofString "(?P<tail>b+)" with
  | error => simp [read, Except.toOption] at isSome
  | ok found => simpa [read, Except.toOption] using isSome

def wholeReference : Reference tailPattern where
  chars := ['0']
  index := 0
  refersTo := .number (by decide) (List.all_eq_true.mp (by decide)) (by decide) (by decide)

def tailReference : Reference tailPattern where
  chars := "tail".toList
  index := 1
  refersTo := .name (List.all_eq_true.mp (by decide)) (by decide)

/-- The template `<$0-${tail}$$>`. -/
def tailTemplate : DollarTemplate tailPattern where
  parts := [.literal ['<'] (by decide) (by decide), .bare wholeReference,
    .literal ['-'] (by decide) (by decide), .braced tailReference, .dollar,
    .literal ['>'] (by decide) (by decide)]
  spaced := by
    simp [Spaced, Part.print]
    decide

theorem apply_tailTemplate :
    (tailTemplate.text = "<$0-$\x7btail\x7d$$>" ∧
      ∃ policy, ofTemplate tailPattern tailTemplate.text = .ok policy ∧
        policy.apply "abbab" = .ok "a<bb-bb$>ab") ∧
    ∃ template : DollarTemplate tailPattern, template.text = "a$$" ∧
      ∀ found, template.meaning found = "a$".toList := by
  obtain ⟨ofEvery, -, ofText⟩ := dollarTemplates_mean isPattern_tail
  obtain ⟨policy, made, rewrites⟩ := ofEvery tailTemplate
  obtain ⟨result, applied, replaces⟩ := rewrites "abbab"
  refine ⟨⟨by decide, policy, made, ?_⟩, ofText "a$".toList (by decide)⟩
  rw [applied, (replaces_iff tailTemplate _ _).mp replaces]
  decide

/-- The pattern `(?P<á>x)`, where the name of the group ends in a combining accent. -/
def accentPattern : Pattern :=
  ⟨"(?P<a\u0301>x)", .group 1 (.one (.exactly 120)), 1, [("a\u0301", 1)], {}⟩

/-- A reference by a name that is not made of word characters is no reference: it is accepted, and
    stands in the new name. A number with too many digits is refused, though it is zero. -/
theorem apply_accent :
    (ofString "(?P<a\u0301>x)").toOption = some accentPattern ∧
    accentPattern.groupNamed? "a\u0301" = some 1 ∧
    (∃ found, IsFirstMatch accentPattern "x".toList found ∧ found.before = [] ∧
      found.groupText 1 = "x".toList ∧ found.after = []) ∧
    (∃ policy, ofTemplate accentPattern "$\x7ba\u0301\x7d" = .ok policy ∧
      policy.apply "x" = .ok "$\x7ba\u0301\x7d") ∧
    ofTemplate accentPattern (String.ofList ('$' :: List.replicate 4301 '0')) =
      .error (.numeralLength 4301) := by
  have isText : "$\x7ba\u0301\x7d".toList = '$' :: "\x7ba\u0301\x7d".toList := rfl
  have unread : dollarReference? "\x7ba\u0301\x7d".toList = none := by decide
  have unchanged : convertChars "$\x7ba\u0301\x7d".toList = "$\x7ba\u0301\x7d".toList := by
    rw [isText, convertChars_of_none unread, convertChars_of_not_mem (by decide)]
  have noBackslash : '\\' ∉ "$\x7ba\u0301\x7d".toList := by decide
  have search : (search? accentPattern "x".toList).any (fun found => found.before == [] &&
      found.groupText 1 == "x".toList && found.after == []) = true := by decide
  refine ⟨by decide +kernel, by decide, ?_, ⟨_, ofTemplate_unchanged unchanged noBackslash, ?_⟩,
    ?_⟩
  · rcases search?_cases accentPattern "x".toList with ⟨isNone, -⟩ | ⟨found, isFound, isFirst⟩
    · rw [isNone] at search
      cases search
    · rw [isFound] at search
      simp only [Option.any_some, Bool.and_eq_true, beq_iff_eq] at search
      exact ⟨found, isFirst, search.1.1, search.1.2, search.2⟩
  · rw [apply_of_not_mem noBackslash]
    decide
  · have ascii : ∀ c ∈ List.replicate 4301 '0', isAsciiDigit c = true := by
      intro c inside
      rw [List.eq_of_mem_replicate inside]
      rfl
    have length : (List.replicate 4301 '0').length = 4301 := List.length_replicate
    have refused : ofTemplate accentPattern (String.ofList ('$' :: List.replicate 4301 '0')) =
        .error (.numeralLength (List.replicate 4301 '0').length) :=
      ofTemplate_of_long String.toList_ofList ascii (by rw [length]; decide)
    rwa [length] at refused

end Renaming

end HeaderBindings
