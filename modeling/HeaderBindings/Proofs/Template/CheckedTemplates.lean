import HeaderBindings.Proofs.Template.Grammar
import HeaderBindings.Proofs.Template.Meaning

/-!
# Templates that pass the check

When a template passes the check, reading it never stops at a reference to a group that the pattern
lacks. What can be wrong with it is an escape that is malformed, and then it fails for every name.
The other way round, the check refuses some templates that have a meaning: it misreads octal
escapes, digits of other scripts behind a group number, and group numbers in brackets that are not
made of digits only.
-/

namespace HeaderBindings

namespace Template

open Text Pattern

variable {pattern : Pattern} {escape name : List Char} {template converted : String}

/-! ## Soundness -/

theorem backslash_not_mem_of_isDefined (identify : NamesIdentify pattern)
    (defined : isDefined pattern name = true) : '\\' ∉ name := by
  intro inside
  rw [isDefined_eq_false_of_backslash identify inside] at defined
  cases defined

/-- When all references of a text are defined, then so are those of its escapes. -/
theorem isDefined_of_mem_escapes (identify : NamesIdentify pattern) {text : List Char}
    (defined : ∀ name ∈ references text, isDefined pattern name = true)
    (isEscape : escape ∈ escapes text) (reads : (backslashReference escape).1 = some name) :
    isDefined pattern name = true := by
  rcases references_cases text with same | ⟨other, isReference, inside, -⟩
  · apply defined
    rw [same]
    exact List.mem_filterMap.mpr ⟨escape, isEscape, reads⟩
  · exact (backslash_not_mem_of_isDefined identify (defined other isReference) inside).elim

theorem firstUndefined?_eq_none :
    firstUndefined? pattern template = none ↔
      ∀ name ∈ references (convert template).toList, isDefined pattern name = true := by
  simp [firstUndefined?, List.find?_eq_none]

theorem compile_eq_ok_iff :
    compile pattern template = .ok converted ↔
      converted = convert template ∧ firstUndefined? pattern template = none := by
  rcases compile_cases pattern template with
    ⟨isOk, none⟩ | ⟨reference, isFirst, ⟨-, isError⟩ | ⟨-, failure, -, isError⟩⟩
  · rw [isOk, none]
    simp [eq_comm]
  · simp [isError, isFirst]
  · simp [isError, isFirst]

/-- Reading a template that passes the check stops at a malformed escape only. -/
theorem pieces_of_compile (identify : NamesIdentify pattern)
    (compiled : compile pattern template = .ok converted) :
    (∃ read, pieces pattern converted.toList = .ok read) ∨
      ∃ error, pieces pattern converted.toList = .error error ∧
        error.cause.IsMalformedEscape := by
  obtain ⟨rfl, none⟩ := compile_eq_ok_iff.mp compiled
  have judges := judges_pieces identify (convert template).toList
  revert judges
  generalize pieces pattern (convert template).toList = result
  rintro (legal | malformed | ⟨isEscape, reads, undefined⟩)
  case legal => exact .inl ⟨_, rfl⟩
  case malformed => exact .inr ⟨_, rfl, malformed⟩
  case undefined =>
    have defined :=
      isDefined_of_mem_escapes identify (firstUndefined?_eq_none.mp none) isEscape reads
    rw [undefined] at defined
    cases defined

end Template

namespace Renaming

open Template Pattern

variable {pattern : Pattern} {template : String} {policy : Renaming}

theorem compile_of_ofTemplate (made : ofTemplate pattern template = .ok policy) :
    policy.pattern = pattern ∧ compile pattern template = .ok policy.template := by
  cases compiled : compile pattern template with
  | error failure => simp [ofTemplate, compiled, bind, Except.bind] at made
  | ok converted =>
    simp only [ofTemplate, compiled, bind, Except.bind, pure, Except.pure, Except.ok.injEq] at made
    exact ⟨by rw [← made], by rw [← made]⟩

theorem apply_of_pieces {read : List Piece}
    (isRead : pieces policy.pattern policy.template.toList = .ok read) (name : String) :
    ∃ result, policy.apply name = .ok result := by
  rw [apply, isRead]
  exact ⟨_, rfl⟩

theorem apply_of_error {error : Pattern.Error}
    (isError : pieces policy.pattern policy.template.toList = .error error) (name : String) :
    policy.apply name = .error (.badTemplate name policy.template error) := by
  rw [apply, isError]

/-- A template that consists of a defined reference and of text in which the check finds none. -/
theorem ofTemplate_bare {name rest : List Char} (words : ∀ c ∈ name, Text.isWord c = true)
    (nonempty : name ≠ []) (defined : isDefined pattern name = true) (noDollar : '$' ∉ rest)
    (spaced : ∀ c ∈ rest.head?, Text.isWord c = false) (noReference : references rest = []) :
    ofTemplate pattern (String.ofList ('$' :: (name ++ rest))) =
      .ok ⟨pattern, String.ofList (groupReference name ++ rest)⟩ := by
  have converted : convert (String.ofList ('$' :: (name ++ rest))) =
      String.ofList (groupReference name ++ rest) := by
    rw [convert, String.toList_ofList,
      convertChars_of_some (dollarReference?_bare words nonempty spaced),
      convertChars_of_not_mem noDollar]
  have compiled : compile pattern (String.ofList ('$' :: (name ++ rest))) =
      .ok (String.ofList (groupReference name ++ rest)) := by
    rw [compile_eq_ok_iff, firstUndefined?_eq_none, converted, String.toList_ofList,
      references_groupReference words, noReference]
    exact ⟨rfl, List.forall_mem_singleton.mpr defined⟩
  rw [ofTemplate, compiled]
  rfl

/-- A template that passes the check is never refused because of a group that the pattern does not
    define. It makes something of every name, or else it has a malformed escape and fails for every
    name alike; without a backslash it never fails. -/
theorem ofTemplate_sound (identify : NamesIdentify pattern)
    (made : ofTemplate pattern template = .ok policy) :
    (∀ name failure, policy.apply name = .error failure →
      failure.kind = .generation ∧
      ∃ error, failure = .badTemplate name policy.template error ∧
        error.cause.IsMalformedEscape ∧ ¬ error.cause.MissesGroup) ∧
    ((∀ name, ∃ result, policy.apply name = .ok result) ∨
      ∃ error : Pattern.Error, error.cause.IsMalformedEscape ∧
        ∀ name, policy.apply name = .error (.badTemplate name policy.template error)) ∧
    ('\\' ∉ policy.template.toList → ∀ name, ∃ result, policy.apply name = .ok result) := by
  obtain ⟨rfl, compiled⟩ := compile_of_ofTemplate made
  refine ⟨?_, ?_, fun noBackslash => apply_of_pieces (pieces_of_not_mem _ noBackslash)⟩
  · intro name failure fails
    rcases pieces_of_compile identify compiled with ⟨read, isRead⟩ | ⟨error, isError, malformed⟩
    · obtain ⟨result, isResult⟩ := apply_of_pieces isRead name
      rw [isResult] at fails
      cases fails
    · rw [apply_of_error isError] at fails
      cases fails
      exact ⟨rfl, error, rfl, malformed, malformed.not_missesGroup⟩
  · rcases pieces_of_compile identify compiled with ⟨read, isRead⟩ | ⟨error, isError, malformed⟩
    · exact .inl (apply_of_pieces isRead)
    · exact .inr ⟨error, malformed, apply_of_error isError⟩

theorem namesIdentify_tail : NamesIdentify tailPattern :=
  namesIdentify_of_ofString isPattern_tail

/-- The template `$tail` renames every name, and `$tail\q` none, be it in scope or not. -/
theorem apply_badEscape :
    (∃ policy, ofTemplate tailPattern "$tail" = .ok policy ∧
      ∀ name, ∃ result, policy.apply name = .ok result) ∧
    ∃ policy, ofTemplate tailPattern "$tail\\q" = .ok policy ∧
      ∃ error : Pattern.Error, error.cause.IsMalformedEscape ∧
        ∀ name, policy.apply name = .error (.badTemplate name policy.template error) := by
  have words : ∀ c ∈ "tail".toList, Text.isWord c = true := List.all_eq_true.mp (by decide)
  constructor
  · have made : ofTemplate tailPattern "$tail" = .ok ⟨tailPattern, "\\g<tail>"⟩ :=
      ofTemplate_bare words (by decide) rfl (List.not_mem_nil) (by simp)
        (references_of_not_mem List.not_mem_nil)
    refine ⟨_, made, ?_⟩
    rcases (ofTemplate_sound namesIdentify_tail made).2.1 with renames | ⟨error, -, fails⟩
    · exact renames
    · have succeeds : pieces tailPattern "\\g<tail>".toList = .ok [.group 1] := rfl
      have renamed : ∃ result, (⟨tailPattern, "\\g<tail>"⟩ : Renaming).apply "" = .ok result :=
        apply_of_pieces succeeds ""
      rw [fails] at renamed
      simp at renamed
  · have noReference : references "\\q".toList = [] := by
      simp [references, backslashReference]
    have spaced : ∀ c ∈ "\\q".toList.head?, Text.isWord c = false := by
      rintro c ⟨⟩
      decide
    have made : ofTemplate tailPattern "$tail\\q" = .ok ⟨tailPattern, "\\g<tail>\\q"⟩ :=
      ofTemplate_bare words (by decide) rfl (by decide) spaced noReference
    refine ⟨_, made, ?_⟩
    rcases (ofTemplate_sound namesIdentify_tail made).2.1 with renames | fails
    · have stops : pieces tailPattern "\\g<tail>\\q".toList =
          .error ⟨.badEscape "\\q", some 8⟩ := rfl
      have failed : (⟨tailPattern, "\\g<tail>\\q"⟩ : Renaming).apply "" = .error _ :=
        apply_of_error stops ""
      obtain ⟨result, isResult⟩ := renames ""
      rw [failed] at isResult
      cases isResult
    · exact fails

end Renaming

namespace Template

open Text Pattern

variable {pattern : Pattern} {escape name : List Char} {template : String}

/-! ## Misreadings -/

/-- An escape that may have a meaning, but that the check takes for a reference to a group that the
    pattern does not have. -/
inductive Misread (pattern : Pattern) : List Char → Prop
  /-- The first two digits of an octal escape are taken for the number of a group. -/
  | octal {a b c : Char} {rest : List Char} (digits : ∀ d ∈ [a, b, c], isOctalDigit d = true)
      (notZero : a ≠ '0') (missing : pattern.groups < numberIn 10 [a, b]) :
      Misread pattern (a :: b :: c :: rest)
  /-- A digit of another script is taken for the second digit of the number. -/
  | otherDigit {a d : Char} {rest : List Char} {n : Nat} (ascii : isAsciiDigit a = true)
      (notZero : a ≠ '0') (other : isAsciiDigit d = false)
      (isNumber : decimalNumber? [a, d] = some n) (missing : pattern.groups < n) :
      Misread pattern (a :: d :: rest)
  /-- A number in brackets with a sign, blanks or underscores is taken for a name. -/
  | bracket {name rest : List Char} (noBracket : '>' ∉ name)
      (notName : isIdentifier name = false) (notDigits : name.all isDigit = false) :
      Misread pattern ('g' :: '<' :: (name ++ '>' :: rest))

theorem Misread.exists_undefined (identify : NamesIdentify pattern)
    (misread : Misread pattern escape) :
    ∃ name, (backslashReference escape).1 = some name ∧ isDefined pattern name = false := by
  cases misread with
  | @octal a b c rest digits notZero missing =>
    have ascii : ∀ d ∈ [a, b], isAsciiDigit d = true := by
      intro d inside
      exact isAsciiDigit_of_isOctalDigit (digits d (List.mem_append_left [c] inside))
    refine ⟨[a, b], congrArg Prod.fst (backslashReference_digits ascii notZero), ?_⟩
    rw [isDefined_of_ascii (List.cons_ne_nil _ _) ascii (by simp)]
    exact decide_eq_false (by omega)
  | @otherDigit a d rest n ascii notZero other isNumber missing =>
    have decimal : isDecimal d = true := by
      have all := isSome_decimalNumber? [a, d]
      rw [isNumber] at all
      simp at all
      exact all.2
    refine ⟨[a, d], congrArg Prod.fst (backslashReference_pair ascii notZero decimal), ?_⟩
    rw [isDefined_pair ascii decimal, isNumber]
    exact decide_eq_false (by omega)
  | @bracket name rest noBracket notName notDigits =>
    refine ⟨name, congrArg Prod.fst (backslashReference_bracket noBracket), ?_⟩
    rw [isDefined_eq identify, notName, notDigits, Bool.false_or, Bool.and_false]

/-- The check takes a legal escape for an undefined reference only where it misreads it. -/
theorem Legal.misread (identify : NamesIdentify pattern) (legal : Legal pattern escape)
    (reads : (backslashReference escape).1 = some name)
    (undefined : isDefined pattern name = false) : Misread pattern escape := by
  cases legal with
  | @bracket written rest noBracket has =>
    rw [backslashReference_bracket noBracket] at reads
    cases reads
    rw [isDefined_eq identify, has, Bool.true_and, Bool.or_eq_false_iff] at undefined
    exact .bracket noBracket undefined.1 undefined.2
  | zero =>
    rw [backslashReference_other (by decide) (.inr rfl)] at reads
    cases reads
  | @octal a b c rest digits notZero small =>
    have ascii : ∀ d ∈ [a, b], isAsciiDigit d = true := by
      intro d inside
      exact isAsciiDigit_of_isOctalDigit (digits d (List.mem_append_left [c] inside))
    rw [backslashReference_digits ascii notZero] at reads
    cases reads
    rw [isDefined_of_ascii (List.cons_ne_nil _ _) ascii (by simp),
      decide_eq_false_iff_not, Nat.not_le] at undefined
    exact .octal digits notZero undefined
  | @pair a b rest ascii notZero notOctal defined =>
    rw [backslashReference_digits ascii notZero] at reads
    cases reads
    rw [isDefined_of_ascii (List.cons_ne_nil _ _) ascii (by simp),
      decide_eq_false_iff_not] at undefined
    exact (undefined defined).elim
  | @single a rest ascii notZero alone defined =>
    rcases backslashReference_cases ascii notZero rest with
      isSingle | ⟨d, after, rfl, decimal, isPair⟩
    · rw [isSingle] at reads
      cases reads
      rw [isDefined_of_ascii (List.cons_ne_nil _ _) (by simpa using ascii) (by simp),
        decide_eq_false_iff_not] at undefined
      exact (undefined defined).elim
    · rw [isPair] at reads
      cases reads
      obtain ⟨units, isNumber⟩ := decimalNumber?_pair ascii decimal
      rw [isDefined_pair ascii decimal, isNumber, Option.any_some, decide_eq_false_iff_not,
        Nat.not_le] at undefined
      exact .otherDigit ascii notZero (alone d rfl) isNumber undefined
  | other notName notDigit =>
    rw [backslashReference_other notName (.inl notDigit)] at reads
    cases reads

/-- What the check reads of a legal escape is the group of a name, or one or two decimal digits. -/
theorem Legal.reads_cases (legal : Legal pattern escape)
    (reads : (backslashReference escape).1 = some name) :
    hasGroup pattern name = true ∨ (∀ c ∈ name, isDecimal c = true) ∧ name.length ≤ 2 := by
  have ofDigit {c : Char} {rest : List Char} (ascii : isAsciiDigit c = true) (notZero : c ≠ '0')
      (reads : (backslashReference (c :: rest)).1 = some name) :
      (∀ c ∈ name, isDecimal c = true) ∧ name.length ≤ 2 := by
    have first := isDecimal_of_isAsciiDigit ascii
    rcases backslashReference_cases ascii notZero rest with
      isSingle | ⟨d, after, -, decimal, isPair⟩
    · rw [isSingle] at reads
      cases reads
      exact ⟨by simpa using first, by simp⟩
    · rw [isPair] at reads
      cases reads
      exact ⟨by simpa using ⟨first, decimal⟩, by simp⟩
  cases legal with
  | bracket noBracket has =>
    rw [backslashReference_bracket noBracket] at reads
    cases reads
    exact .inl has
  | zero =>
    rw [backslashReference_other (by decide) (.inr rfl)] at reads
    cases reads
  | octal digits notZero =>
    exact .inr (ofDigit (isAsciiDigit_of_isOctalDigit (digits _ (by simp))) notZero reads)
  | pair ascii notZero => exact .inr (ofDigit (ascii _ (by simp)) notZero reads)
  | single ascii notZero => exact .inr (ofDigit ascii notZero reads)
  | other notName notDigit =>
    rw [backslashReference_other notName (.inl notDigit)] at reads
    cases reads

theorem Legal.backslash_not_mem (legal : Legal pattern escape)
    (reads : (backslashReference escape).1 = some name) : '\\' ∉ name := by
  rcases legal.reads_cases reads with has | ⟨decimal, -⟩
  · exact backslash_not_mem_of_hasGroup has
  · intro inside
    cases decimal _ inside

/-- A number is read from what the check takes a legal escape for. -/
theorem Legal.not_unreadable (legal : Legal pattern escape)
    (reads : (backslashReference escape).1 = some name) : ¬ Unreadable name := by
  rintro ⟨nonempty, digits, why⟩
  have readable : (∀ c ∈ name, isDecimal c = true) ∧ name.length ≤ Failure.maxNumeralLength := by
    rcases legal.reads_cases reads with has | ⟨decimal, short⟩
    · have isNumber : (writtenNumber? name).isSome = true := by
        rw [hasGroup, not_isIdentifier_of_isDigit digits, if_neg Bool.false_ne_true] at has
        exact Option.isSome_of_any has
      rw [writtenNumber?_of_digits nonempty digits] at isNumber
      split at isNumber
      next => cases isNumber
      next short =>
        rw [isSome_decimalNumber?, List.all_eq_true] at isNumber
        exact ⟨isNumber, Nat.not_lt.mp short⟩
    · have enough : 2 ≤ Failure.maxNumeralLength := by decide
      exact ⟨decimal, short.trans enough⟩
  rcases why with ⟨c, inside, other⟩ | long
  · exact other (readable.1 c inside)
  · omega

theorem legal_of_pieces (identify : NamesIdentify pattern) {text : List Char} {read : List Piece}
    (accepted : pieces pattern text = .ok read) :
    ∀ escape ∈ escapes text, Legal pattern escape := by
  have judges := judges_pieces identify text
  rw [accepted] at judges
  cases judges with
  | legal legal => exact legal

/-- The check finds just the references of the escapes of a text, if they are legal. -/
theorem mem_references_iff {text : List Char}
    (legal : ∀ escape ∈ escapes text, Legal pattern escape) :
    name ∈ references text ↔
      ∃ escape ∈ escapes text, (backslashReference escape).1 = some name := by
  rcases references_cases text with same | ⟨other, -, inside, escape, isEscape, reads⟩
  · rw [same, List.mem_filterMap]
  · exact ((legal escape isEscape).backslash_not_mem reads inside).elim

/-- A template that has a meaning passes the check exactly when none of its escapes is misread.
    Otherwise a group is said to be missing. -/
theorem compile_accepted_iff {read : List Piece} (identify : NamesIdentify pattern)
    (accepted : pieces pattern (convert template).toList = .ok read) :
    (compile pattern template = .ok (convert template) ↔
      ∀ escape ∈ escapes (convert template).toList, ¬ Misread pattern escape) ∧
    (compile pattern template ≠ .ok (convert template) →
      ∃ reference, compile pattern template =
        .error (.undefinedGroup template reference pattern.source)) := by
  have legal := legal_of_pieces identify accepted
  constructor
  · rw [compile_eq_ok_iff, firstUndefined?_eq_none]
    constructor
    · rintro ⟨-, defined⟩ escape isEscape misread
      obtain ⟨name, reads, undefined⟩ := misread.exists_undefined identify
      rw [defined name ((mem_references_iff legal).mpr ⟨escape, isEscape, reads⟩)] at undefined
      cases undefined
    · refine fun noMisread => ⟨rfl, fun name isReference => ?_⟩
      obtain ⟨escape, isEscape, reads⟩ := (mem_references_iff legal).mp isReference
      by_contra undefined
      rw [Bool.not_eq_true] at undefined
      exact noMisread escape isEscape ((legal escape isEscape).misread identify reads undefined)
  · intro refused
    rcases compile_cases pattern template with
      ⟨isOk, -⟩ | ⟨reference, isFirst, ⟨-, isError⟩ | ⟨unreadable, -⟩⟩
    · exact (refused isOk).elim
    · exact ⟨_, isError⟩
    · have isReference := List.mem_of_find?_eq_some isFirst
      obtain ⟨escape, isEscape, reads⟩ := (mem_references_iff legal).mp isReference
      exact ((legal escape isEscape).not_unreadable reads unreadable).elim

open Renaming (tailPattern isPattern_tail namesIdentify_tail)

/-- The first group is accepted, and an octal escape is not. -/
theorem compile_octal :
    compile tailPattern "\\1" = .ok "\\1" ∧
    ∃ reference, compile tailPattern "\\101" =
      .error (.undefinedGroup "\\101" reference "(?P<tail>b+)") := by
  constructor
  · have unchanged : convert "\\1" = "\\1" := convert_of_not_mem (by decide)
    have accepted : pieces tailPattern (convert "\\1").toList = .ok [.group 1] := by
      rw [unchanged]
      rfl
    have isEscapes : escapes (convert "\\1").toList = [['1']] := by
      rw [unchanged]
      rfl
    have noMisread : ∀ escape ∈ escapes (convert "\\1").toList, ¬ Misread tailPattern escape := by
      rw [isEscapes, List.forall_mem_singleton]
      nofun
    rw [(compile_accepted_iff namesIdentify_tail accepted).1.mpr noMisread, unchanged]
  · have unchanged : convert "\\101" = "\\101" := convert_of_not_mem (by decide)
    have accepted : pieces tailPattern (convert "\\101").toList = .ok [.char 'A'] := by
      rw [unchanged]
      rfl
    have misread : Misread tailPattern "101".toList :=
      .octal (List.all_eq_true.mp (by decide)) (by decide) (by decide)
    have isEscape : "101".toList ∈ escapes (convert "\\101").toList := by
      rw [unchanged]
      exact List.mem_cons_self
    have exactly := compile_accepted_iff namesIdentify_tail accepted
    exact exactly.2 fun isOk => exactly.1.mp isOk _ isEscape misread

/-- The check of a template that consists of one escape and plain text. -/
theorem compile_of_escape {c : Char} {rest : List Char}
    (isText : template.toList = '\\' :: c :: rest) (noDollar : '$' ∉ template.toList)
    (noBackslash : '\\' ∉ rest) (reads : (backslashReference (c :: rest)).1 = some name)
    (noMore : '\\' ∉ name) (undefined : defines pattern name = .ok false) :
    compile pattern template =
      .error (.undefinedGroup template (String.ofList name) pattern.source) := by
  have once : references template.toList = [name] := by
    rw [isText, references_escape (by simpa [reads] using noMore), reads,
      references_of_not_mem noBackslash]
    rfl
  rw [compile, convert_of_not_mem noDollar, once, checkReferences, undefined]
  rfl

/-- The octal escape of `A`, the first group with an Arabic digit behind it, and the first group
    written with a sign have a meaning, and are refused. -/
theorem refuses_octal :
    ofString "(?P<tail>b+)" = .ok tailPattern ∧
    (pieces tailPattern (convert "\\101").toList = .ok [.char 'A'] ∧
      compile tailPattern "\\101" = .error (.undefinedGroup "\\101" "10" "(?P<tail>b+)")) ∧
    (pieces tailPattern (convert "\\1\u0663").toList = .ok [.group 1, .char '\u0663'] ∧
      compile tailPattern "\\1\u0663" =
        .error (.undefinedGroup "\\1\u0663" "1\u0663" "(?P<tail>b+)")) ∧
    pieces tailPattern (convert "\\g<+1>").toList = .ok [.group 1] ∧
      compile tailPattern "\\g<+1>" = .error (.undefinedGroup "\\g<+1>" "+1" "(?P<tail>b+)") := by
  have octal : (backslashReference "101".toList).1 = some "10".toList := by decide
  have otherDigit : (backslashReference "1\u0663".toList).1 = some "1\u0663".toList := by decide
  have bracket : (backslashReference "g<+1>".toList).1 = some "+1".toList := by decide
  refine ⟨isPattern_tail, ⟨?_, ?_⟩, ⟨?_, ?_⟩, ?_, ?_⟩
  · rw [convert_of_not_mem (by decide)]
    rfl
  · exact compile_of_escape rfl (by decide) (by decide) octal (by decide) rfl
  · rw [convert_of_not_mem (by decide)]
    rfl
  · exact compile_of_escape rfl (by decide) (by decide) otherDigit (by decide) (by cbv)
  · rw [convert_of_not_mem (by decide)]
    rfl
  · exact compile_of_escape rfl (by decide) (by decide) bracket (by decide) rfl

end Template

end HeaderBindings
