import HeaderBindings.Proofs.Template.Escapes

/-!
# The grammar of templates

Which escapes have a meaning in a template for a pattern. Reading a template takes only such
escapes, and it stops at an escape that is malformed, or at one whose reference the check, too,
finds undefined.
-/

namespace HeaderBindings

namespace Pattern.Cause

/-- Whether an escape of a template is malformed, whatever groups the pattern has. -/
def IsMalformedEscape : Cause → Prop
  | .danglingEscape | .badEscape _ | .octalTooLarge _ | .missingBracket | .missingName
  | .unterminatedName _ => True
  | _ => False

/-- Whether a reference of a template refers to no group of the pattern. -/
def MissesGroup : Cause → Prop
  | .unknownGroup _ | .invalidReference _ | .badGroupName _ => True
  | _ => False

theorem IsMalformedEscape.not_missesGroup {cause : Cause} (malformed : cause.IsMalformedEscape) :
    ¬ cause.MissesGroup := by
  cases cause <;> simp_all [IsMalformedEscape, MissesGroup]

end Pattern.Cause

namespace Template

open Text Pattern

/-- An escape that has a meaning in a template for a pattern, by what follows its backslash. -/
inductive Legal (pattern : Pattern) : List Char → Prop
  | bracket {name rest : List Char} (noBracket : '>' ∉ name)
      (has : hasGroup pattern name = true) :
      Legal pattern ('g' :: '<' :: (name ++ '>' :: rest))
  | zero {rest : List Char} : Legal pattern ('0' :: rest)
  | octal {a b c : Char} {rest : List Char}
      (digits : ∀ d ∈ [a, b, c], isOctalDigit d = true) (notZero : a ≠ '0')
      (small : numberIn 8 [a, b, c] ≤ 0o377) :
      Legal pattern (a :: b :: c :: rest)
  | pair {a b : Char} {rest : List Char} (ascii : ∀ d ∈ [a, b], isAsciiDigit d = true)
      (notZero : a ≠ '0')
      (notOctal : ∀ c ∈ rest.head?, ∃ d ∈ [a, b, c], isOctalDigit d = false)
      (defined : numberIn 10 [a, b] ≤ pattern.groups) :
      Legal pattern (a :: b :: rest)
  | single {a : Char} {rest : List Char} (ascii : isAsciiDigit a = true) (notZero : a ≠ '0')
      (alone : ∀ b ∈ rest.head?, isAsciiDigit b = false)
      (defined : numberIn 10 [a] ≤ pattern.groups) :
      Legal pattern (a :: rest)
  | other {c : Char} {rest : List Char} (notName : c ≠ 'g') (notDigit : isAsciiDigit c = false)
      (known : isAsciiLetter c = true → (controlEscape? c).isSome = true) :
      Legal pattern (c :: rest)

/-- What comes of reading an escape: a legal one is taken together with characters behind it that
    begin no further escape; otherwise it is malformed, or its reference is found undefined by the
    check. -/
inductive Settles {α : Type} (pattern : Pattern) (c : Char) (rest : List Char) :
    Except Error (α × List Char) → Prop
  | legal {read : α} (taken : List Char) {after : List Char} (legal : Legal pattern (c :: rest))
      (isRest : rest = taken ++ after) (noBackslash : '\\' ∉ taken) :
      Settles pattern c rest (.ok (read, after))
  | malformed {error : Error} (malformed : error.cause.IsMalformedEscape) :
      Settles pattern c rest (.error error)
  | undefined {error : Error} {name : List Char}
      (reads : (backslashReference (c :: rest)).1 = some name)
      (undefined : isDefined pattern name = false) :
      Settles pattern c rest (.error error)

variable {pattern : Pattern} {c first second : Char} {name rest : List Char}

theorem Settles.single {α : Type} {result : Except Error (α × List Char)}
    (settles : Settles pattern c rest result) :
    Settles pattern c rest (do
      let (piece, after) ← result
      return ([piece], after)) := by
  cases settles with
  | legal taken isLegal isRest noBackslash => exact .legal taken isLegal isRest noBackslash
  | malformed isMalformed => exact .malformed isMalformed
  | undefined reads isUndefined => exact .undefined reads isUndefined

/-- A backslash that ends a template is malformed, whatever is read before it. -/
theorem of_checkEnd {α : Type} {size : Nat} {text : List Char} {result : Except Error α}
    {outcome : Except Error α → Prop}
    (malformed : ∀ error : Error, error.cause.IsMalformedEscape → outcome (.error error))
    (further : outcome result) :
    outcome (do
      checkEnd size text
      result) := by
  unfold checkEnd
  split
  next => exact malformed _ trivial
  next => exact further

theorem Settles.checkEnd {α : Type} {size : Nat} {text : List Char}
    {result : Except Error (α × List Char)} (settles : Settles pattern c rest result) :
    Settles pattern c rest (do
      checkEnd size text
      result) :=
  of_checkEnd (fun _ => .malformed) settles

/-! ## References in brackets -/

/-- A name is read up to the first closing bracket. With a backslash in the name this may be a later
    bracket than the first one, but then what comes before the first one has a backslash too. -/
theorem untilBracket_cases (inner : List Char) :
    (∃ name after, untilBracket inner = .ok (name, after) ∧
      (inner = name ++ '>' :: after ∧ '>' ∉ name ∧ '\\' ∉ name ∨
        '\\' ∈ name ∧
          ∃ read further, inner = read ++ '>' :: further ∧ '>' ∉ read ∧ '\\' ∈ read)) ∨
    untilBracket inner = .error .danglingEscape ∨
      untilBracket inner = .error (.unterminatedName ">") := by
  induction inner using untilBracket.induct with
  | case1 => exact .inr (.inr rfl)
  | case2 => exact .inr (.inl rfl)
  | case3 c rest ih =>
    rcases ih with ⟨name, after, isOk, isText⟩ | isError | isError
    · have bracketed : '>' ∈ c :: rest := by
        rcases isText with ⟨isText, -⟩ | ⟨-, read, further, isText, -⟩ <;> simp [isText]
      obtain ⟨read, further, isRead, noBracket⟩ := List.eq_append_cons_of_mem bracketed
      refine .inl ⟨_, _, by rw [untilBracket, isOk]; rfl,
        .inr ⟨List.mem_cons_self, '\\' :: read, further, ?_, ?_, ?_⟩⟩
      · rw [isRead]
        rfl
      · simpa using noBracket
      · exact List.mem_cons_self
    · exact .inr (.inl (by rw [untilBracket, isError]; rfl))
    · exact .inr (.inr (by rw [untilBracket, isError]; rfl))
  | case4 rest notEscape notLone =>
    refine .inl ⟨[], rest, ?_, .inl ⟨rfl, List.not_mem_nil, List.not_mem_nil⟩⟩
    rw [untilBracket, if_pos rfl]
    · simp
    · simp
  | case5 c rest notLone notEscape notBracket ih =>
    have plain : c ≠ '\\' := by
      rintro rfl
      cases rest with
      | nil => exact notLone rfl rfl
      | cons d rest => exact notEscape d rest rfl rfl
    have step : untilBracket (c :: rest) =
        (untilBracket rest).map fun found => (c :: found.1, found.2) := by
      rw [untilBracket, if_neg notBracket]
      · cases untilBracket rest <;> rfl
      · simpa using notLone
      · simpa using notEscape
    rw [step]
    rcases ih with ⟨name, after, isOk, isText⟩ | isError | isError
    · refine .inl ⟨c :: name, after, by rw [isOk]; rfl, ?_⟩
      rcases isText with
        ⟨rfl, noBracket, noBackslash⟩ | ⟨inName, read, further, rfl, noBracket, inside⟩
      · left
        exact ⟨rfl, by simpa [Ne.symm notBracket] using noBracket,
          by simpa [Ne.symm plain] using noBackslash⟩
      · right
        exact ⟨List.mem_cons_of_mem _ inName, c :: read, further, rfl,
          by simpa [Ne.symm notBracket] using noBracket, List.mem_cons_of_mem _ inside⟩
    · exact .inr (.inl (by rw [isError]; rfl))
    · exact .inr (.inr (by rw [isError]; rfl))

theorem groupNumber_cases (pattern : Pattern) (start : Nat) (name : List Char) :
    (∃ index, groupNumber pattern start name = .ok index ∧ hasGroup pattern name = true) ∨
      ∃ error, groupNumber pattern start name = .error error ∧ hasGroup pattern name = false := by
  unfold groupNumber hasGroup
  split
  next =>
    cases pattern.groupNamed? (String.ofList name) with
    | none => exact .inr ⟨_, rfl, rfl⟩
    | some index => exact .inl ⟨_, rfl, rfl⟩
  next =>
    cases writtenNumber? name with
    | none => exact .inr ⟨_, rfl, rfl⟩
    | some index =>
      by_cases inRange : index ≤ pattern.groups
      · exact .inl ⟨index, by simp [inRange], by simp [inRange]⟩
      · exact .inr ⟨_, if_neg inRange, by simp [inRange]⟩

theorem isDefined_eq_false_of_hasGroup (identify : NamesIdentify pattern)
    (missing : hasGroup pattern name = false) : isDefined pattern name = false := by
  rw [isDefined_eq identify, missing, Bool.false_and]

theorem isDefined_eq_false_of_backslash (identify : NamesIdentify pattern)
    (inside : '\\' ∈ name) : isDefined pattern name = false := by
  apply isDefined_eq_false_of_hasGroup identify
  by_contra has
  exact backslash_not_mem_of_hasGroup (by simpa using has) inside

theorem settles_bracketReference (identify : NamesIdentify pattern) (size : Nat)
    (rest : List Char) : Settles pattern 'g' rest (bracketReference pattern size rest) := by
  unfold bracketReference
  split
  case h_2 => exact .malformed trivial
  case h_1 inner =>
    apply Settles.checkEnd
    dsimp only
    rcases untilBracket_cases inner with ⟨name, after, isOk, isText⟩ | isError | isError
    · rw [isOk]
      apply Settles.checkEnd
      split
      next => exact .malformed trivial
      rcases groupNumber_cases pattern (size - inner.length) name with
        ⟨index, isGroup, has⟩ | ⟨error, isError, missing⟩
      · rw [isGroup]
        rcases isText with ⟨rfl, noBracket, noBackslash⟩ | ⟨inName, -⟩
        · refine .legal ('<' :: name ++ ['>']) (.bracket noBracket has) (by simp) ?_
          simpa using noBackslash
        · exact (backslash_not_mem_of_hasGroup has inName).elim
      · rw [isError]
        rcases isText with ⟨rfl, noBracket, -⟩ | ⟨-, read, further, rfl, noBracket, inside⟩
        · exact .undefined (congrArg Prod.fst (backslashReference_bracket noBracket))
            (isDefined_eq_false_of_hasGroup identify missing)
        · exact .undefined (congrArg Prod.fst (backslashReference_bracket noBracket))
            (isDefined_eq_false_of_backslash identify inside)
    · rw [isError]
      exact .malformed trivial
    · rw [isError]
      apply Settles.malformed
      split <;> trivial

/-! ## References by digits -/

/-- The check reads at least the digit, and finds no group when there are too few for it. -/
theorem exists_undefined_of_digit (ascii : isAsciiDigit c = true) (notZero : c ≠ '0')
    (missing : ¬ numberIn 10 [c] ≤ pattern.groups) (rest : List Char) :
    ∃ name, (backslashReference (c :: rest)).1 = some name ∧ isDefined pattern name = false := by
  rcases backslashReference_cases ascii notZero rest with
    reads | ⟨d, after, -, decimal, reads⟩
  · refine ⟨[c], reads, ?_⟩
    rw [isDefined_of_ascii (List.cons_ne_nil _ _) (by simpa using ascii) (by simp)]
    exact decide_eq_false missing
  · refine ⟨[c, d], reads, ?_⟩
    obtain ⟨units, isNumber⟩ := decimalNumber?_pair ascii decimal
    rw [isDefined_pair ascii decimal, isNumber]
    exact decide_eq_false (by omega)

theorem settles_single (ascii : isAsciiDigit first = true) (notZero : first ≠ '0')
    (alone : ∀ d ∈ rest.head?, isAsciiDigit d = false) (position : Nat) :
    Settles pattern first rest
      (if numberIn 10 [first] ≤ pattern.groups then
        .ok (Piece.group (numberIn 10 [first]), rest)
      else .error ⟨.invalidReference (numberIn 10 [first]), position⟩) := by
  split
  next defined =>
    exact .legal [] (.single ascii notZero alone defined) rfl List.not_mem_nil
  next missing =>
    obtain ⟨name, reads, undefined⟩ := exists_undefined_of_digit ascii notZero missing rest
    exact .undefined reads undefined

theorem settles_pair (ascii : ∀ d ∈ [first, second], isAsciiDigit d = true)
    (notZero : first ≠ '0')
    (notOctal : ∀ c ∈ rest.head?, ∃ d ∈ [first, second, c], isOctalDigit d = false)
    (position : Nat) :
    Settles pattern first (second :: rest)
      (if numberIn 10 [first, second] ≤ pattern.groups then
        .ok (Piece.group (numberIn 10 [first, second]), rest)
      else .error ⟨.invalidReference (numberIn 10 [first, second]), position⟩) := by
  split
  next defined =>
    refine .legal [second] (.pair ascii notZero notOctal defined) rfl ?_
    intro inside
    cases ascii _ (List.mem_cons_of_mem first inside)
  next missing =>
    refine .undefined (congrArg Prod.fst (backslashReference_digits ascii notZero)) ?_
    rw [isDefined_of_ascii (List.cons_ne_nil _ _) ascii (by simp)]
    exact decide_eq_false missing

theorem settles_digitReference (ascii : isAsciiDigit first = true) (notZero : first ≠ '0')
    (size : Nat) (rest : List Char) :
    Settles pattern first rest (digitReference pattern size first rest) := by
  unfold digitReference
  dsimp only
  split
  case h_2 => exact settles_single ascii notZero (by simp) _
  case h_1 second after =>
    split
    case isFalse other => exact settles_single ascii notZero (by simpa using other) _
    case isTrue digit =>
      have both : ∀ d ∈ [first, second], isAsciiDigit d = true := by simpa using ⟨ascii, digit⟩
      apply Settles.checkEnd
      split
      case h_2 => exact settles_pair both notZero (by simp) _
      case h_1 third last =>
        split
        case isFalse other =>
          refine settles_pair both notZero ?_ _
          rintro c ⟨⟩
          by_contra all
          apply other
          have octal : ∀ d ∈ [first, second, third], isOctalDigit d = true := by simpa using all
          simp [octal]
        case isTrue octal =>
          apply Settles.checkEnd
          split
          next => exact .malformed trivial
          next small =>
            have digits : ∀ d ∈ [first, second, third], isOctalDigit d = true := by
              simpa [and_assoc] using octal
            refine .legal [second, third] (.octal digits notZero (by simpa using small)) rfl ?_
            intro inside
            cases digits _ (List.mem_cons_of_mem _ inside)

theorem settles_escapePieces (identify : NamesIdentify pattern) (size : Nat) (c : Char)
    (rest : List Char) : Settles pattern c rest (escapePieces pattern size c rest) := by
  unfold escapePieces
  split
  next isName =>
    rw [isName]
    exact (settles_bracketReference identify size rest).single
  next notName =>
    split
    next isZero =>
      apply Settles.checkEnd
      refine .legal ((rest.take 2).takeWhile isOctalDigit) ?_ ?_ ?_
      · rw [isZero]
        exact .zero
      · have taken := (List.takeWhile_prefix isOctalDigit).trans (List.take_prefix 2 rest)
        exact (List.prefix_iff_eq_append.mp taken).symm
      · intro inside
        cases List.mem_takeWhile_imp inside
    next notZero =>
      split
      next ascii => exact (settles_digitReference ascii notZero size rest).single
      next other =>
        have notDigit : isAsciiDigit c = false := by simpa using other
        split
        next control isControl =>
          refine .legal [] (.other notName notDigit fun _ => ?_) rfl List.not_mem_nil
          rw [isControl]
          rfl
        next noControl =>
          split
          next => exact .malformed trivial
          next notLetter =>
            exact .legal [] (.other notName notDigit fun letter => (notLetter letter).elim) rfl
              List.not_mem_nil

/-! ## Templates -/

/-- What comes of reading a text: pieces when all its escapes are legal; otherwise one of them is
    malformed, or its reference is found undefined by the check. -/
inductive Judges (pattern : Pattern) (text : List Char) : Except Error (List Piece) → Prop
  | legal {read : List Piece} (legal : ∀ escape ∈ escapes text, Legal pattern escape) :
      Judges pattern text (.ok read)
  | malformed {error : Error} (malformed : error.cause.IsMalformedEscape) :
      Judges pattern text (.error error)
  | undefined {error : Error} {escape name : List Char} (isEscape : escape ∈ escapes text)
      (reads : (backslashReference escape).1 = some name)
      (undefined : isDefined pattern name = false) :
      Judges pattern text (.error error)

variable {text : List Char} {result : Except Error (List Piece)}

theorem Judges.checkEnd {size : Nat} (judges : Judges pattern text result) :
    Judges pattern text (do
      checkEnd size rest
      result) :=
  of_checkEnd (fun _ => .malformed) judges

/-- More pieces in front leave the judgement as it is, when the text in front of `rest` has legal
    escapes only. -/
theorem Judges.prepend (pieces : List Piece)
    (more : ∀ escape ∈ escapes text, escape ∈ escapes rest ∨ Legal pattern escape)
    (kept : ∀ escape ∈ escapes rest, escape ∈ escapes text)
    (judges : Judges pattern rest result) :
    Judges pattern text (do return pieces ++ (← result)) := by
  cases judges with
  | legal isLegal =>
    exact .legal fun escape inside => (more escape inside).elim (isLegal escape) id
  | malformed isMalformed => exact .malformed isMalformed
  | undefined isEscape reads isUndefined => exact .undefined (kept _ isEscape) reads isUndefined

theorem Judges.char (noEscape : escapes (c :: rest) = escapes rest)
    (judges : Judges pattern rest result) :
    Judges pattern (c :: rest) (do return .char c :: (← result)) := by
  apply Judges.prepend [.char c] _ _ judges
  · rw [noEscape]
    exact fun escape inside => .inl inside
  · rw [noEscape]
    exact fun escape inside => inside

theorem Judges.escape {read : Except Error (List Piece × List Char)}
    {next : List Char → Except Error (List Piece)} (settles : Settles pattern c rest read)
    (further : ∀ after, after.length ≤ rest.length → Judges pattern after (next after)) :
    Judges pattern ('\\' :: c :: rest) (do
      let (pieces, after) ← read
      return pieces ++ (← next after)) := by
  cases settles with
  | @legal pieces taken after isLegal isRest noBackslash =>
    have shorter : after.length ≤ rest.length := by simp [isRest]
    have isEscapes : escapes ('\\' :: c :: rest) = (c :: rest) :: escapes after := by
      rw [escapes, isRest, escapes_literal noBackslash]
    apply Judges.prepend pieces _ _ (further after shorter)
    · rw [isEscapes, List.forall_mem_cons]
      exact ⟨.inr isLegal, fun escape inside => .inl inside⟩
    · rw [isEscapes]
      exact fun escape inside => List.mem_cons_of_mem _ inside
  | malformed isMalformed => exact .malformed isMalformed
  | undefined reads isUndefined => exact .undefined List.mem_cons_self reads isUndefined

theorem judges_piecesFrom (identify : NamesIdentify pattern) (size : Nat) {budget : Nat}
    {text : List Char} (enough : text.length ≤ budget) :
    Judges pattern text (piecesFrom pattern size budget text) := by
  induction budget generalizing text with
  | zero =>
    rw [List.length_eq_zero_iff.mp (Nat.le_zero.mp enough)]
    exact .legal (by simp [escapes])
  | succ budget ih =>
    rcases text with - | ⟨c, - | ⟨d, rest⟩⟩
    case nil => exact .legal (by simp [escapes])
    case cons.nil =>
      rw [piecesFrom]
      · exact (Judges.char (by simp [escapes]) (ih (Nat.zero_le _))).checkEnd
      · simp
    case cons.cons =>
      simp only [List.length_cons, Nat.add_le_add_iff_right] at enough
      by_cases isEscape : c = '\\'
      · rw [isEscape, piecesFrom]
        apply Judges.checkEnd
        exact .escape (settles_escapePieces identify size d rest) fun after shorter =>
          ih (by omega)
      · rw [piecesFrom]
        · exact (Judges.char (escapes_char isEscape) (ih (by simpa using enough))).checkEnd
        · simp [isEscape]

theorem judges_pieces (identify : NamesIdentify pattern) (text : List Char) :
    Judges pattern text (pieces pattern text) :=
  (judges_piecesFrom identify text.length (Nat.le_refl _)).checkEnd

end Template

end HeaderBindings
