import HeaderBindings.Renaming

/-!
# The whole match

Matching only moves forward in a text, so the text of a match is what stands in the text between the
place where the match begins and the place where it ends. A template that refers to the whole match
and to nothing else therefore gives every name back, whatever the pattern is.
-/

namespace HeaderBindings

namespace Pattern

/-- A place is reached from another one of its text by going forward. -/
def Place.Reaches (start finish : Place) : Prop :=
  ∃ taken, finish.before = taken.reverse ++ start.before ∧ start.rest = taken ++ finish.rest

namespace Place.Reaches

variable {start middle finish place after : Place}

theorem refl (place : Place) : place.Reaches place :=
  ⟨[], rfl, rfl⟩

theorem trans (first : start.Reaches middle) (second : middle.Reaches finish) :
    start.Reaches finish := by
  obtain ⟨taken, before, rest⟩ := first
  obtain ⟨further, beforeNext, restNext⟩ := second
  refine ⟨taken ++ further, ?_, ?_⟩
  · rw [beforeNext, before, List.reverse_append, List.append_assoc]
  · rw [rest, restNext, List.append_assoc]

theorem advance {c : Char} (advances : place.advance? = some (c, after)) : place.Reaches after := by
  obtain ⟨before, rest, offset, same⟩ := place
  cases rest with
  | nil => cases advances
  | cons d rest =>
    cases advances
    exact ⟨[c], rfl, rfl⟩

/-- What stands between two places is what was taken on the way from one to the other. -/
theorem since_append (reaches : start.Reaches finish) :
    start.since finish ++ finish.rest = start.rest := by
  obtain ⟨taken, before, rest⟩ := reaches
  have offsets : finish.offset - start.offset = taken.reverse.length := by
    rw [finish.offset_eq_length, start.offset_eq_length, before, List.length_append]
    omega
  rw [Place.since, offsets, before, List.take_left, List.reverse_reverse, rest]

theorem stride {test : Char → Bool} {count : Nat} (strides : place.stride? test count = some after) :
    place.Reaches after := by
  induction count generalizing place with
  | zero =>
    cases strides
    exact .refl _
  | succ count ih =>
    rw [Place.stride?] at strides
    split at strides
    case h_1 advances =>
      split at strides
      · exact (advance advances).trans (ih strides)
      · cases strides
    case h_2 => cases strides

theorem skip {same : Char → Char → Bool} {text : List Char}
    (skips : place.skip? same text = some after) : place.Reaches after := by
  induction text generalizing place with
  | nil =>
    cases skips
    exact .refl _
  | cons c text ih =>
    rw [Place.skip?] at skips
    split at skips
    case h_1 advances =>
      split at skips
      · exact (advance advances).trans (ih skips)
      · cases skips
    case h_2 => cases skips

theorem strides {test : Char → Bool} {limit : Nat} {reached : List Place}
    (inside : after ∈ place.strides test limit reached) :
    after ∈ reached ∨ place.Reaches after := by
  induction limit generalizing place reached with
  | zero =>
    rcases List.mem_cons.mp inside with rfl | before
    · exact .inr (.refl after)
    · exact .inl before
  | succ limit ih =>
    have ofStop : after ∈ place :: reached → after ∈ reached ∨ place.Reaches after := by
      intro inside
      rcases List.mem_cons.mp inside with rfl | before
      · exact .inr (.refl after)
      · exact .inl before
    rw [Place.strides] at inside
    split at inside
    case h_1 advances =>
      split at inside
      · rcases ih inside with stop | further
        · exact ofStop stop
        · exact .inr ((advance advances).trans further)
      · exact ofStop inside
    case h_2 => exact ofStop inside

end Place.Reaches

/-- A rest of a match ends at a place that is reached from where it begins. -/
def Continuation.Advances (next : Continuation) : Prop :=
  ∀ {place : Place} {captures : Captures} {finish : Place} {inner : Captures},
    next place captures = some (finish, inner) → place.Reaches finish

/-- A part of a pattern advances when the rest after it does. -/
def PartAdvances (part : Continuation → Continuation) : Prop :=
  ∀ {next : Continuation}, next.Advances → (part next).Advances

theorem advances_oneChar (test : Char → Bool) : PartAdvances (oneChar test) := by
  intro next advances place captures finish inner runs
  unfold oneChar at runs
  split at runs
  case h_1 advance =>
    split at runs
    · exact (Place.Reaches.advance advance).trans (advances runs)
    · cases runs
  case h_2 => cases runs

theorem advances_repeatChar (test : Char → Bool) (least most : Nat) (greed : Greed) :
    PartAdvances (repeatChar test least most greed) := by
  intro next advances place captures finish inner runs
  unfold repeatChar at runs
  split at runs
  case h_1 => cases runs
  case h_2 start strides =>
    have ofReached : ∀ reached ∈ start.strides test (most - least) [],
        next reached captures = some (finish, inner) → place.Reaches finish := by
      intro reached inside ends
      have further : start.Reaches reached :=
        (Place.Reaches.strides inside).resolve_left List.not_mem_nil
      exact ((Place.Reaches.stride strides).trans further).trans (advances ends)
    cases greed with
    | greedy =>
      obtain ⟨reached, inside, ends⟩ := List.exists_of_findSome?_eq_some runs
      exact ofReached reached inside ends
    | lazy =>
      obtain ⟨reached, inside, ends⟩ := List.exists_of_findSome?_eq_some runs
      exact ofReached reached (List.mem_reverse.mp inside) ends
    | possessive =>
      obtain ⟨reached, isHead, ends⟩ := Option.bind_eq_some_iff.mp runs
      exact ofReached reached (List.mem_of_mem_head? isHead) ends

/-- Of two ways to go on, the one that is taken advances. -/
theorem reaches_of_orElse {first : Option (Place × Captures)}
    {second : Unit → Option (Place × Captures)} {place finish : Place} {inner : Captures}
    (ofFirst : first = some (finish, inner) → place.Reaches finish)
    (ofSecond : second () = some (finish, inner) → place.Reaches finish)
    (runs : first.orElse second = some (finish, inner)) : place.Reaches finish := by
  cases first with
  | none => exact ofSecond runs
  | some found => exact ofFirst runs

theorem advances_repeatFrom {body : Continuation → Continuation} (part : PartAdvances body)
    {least : Nat} {most : Option Nat} {lazily : Bool} {budget count : Nat} {tried : Option Nat} :
    PartAdvances fun next => repeatFrom body least most lazily next budget count tried := by
  intro next advances
  induction budget generalizing count tried with
  | zero => exact advances
  | succ budget ih =>
    intro place captures finish inner runs
    unfold repeatFrom at runs
    split at runs
    · exact part ih runs
    · have again : (if mayRepeat most count && tried != some place.offset then
            body (repeatFrom body least most lazily next budget (count + 1) (some place.offset))
              place captures
          else none) = some (finish, inner) → place.Reaches finish := by
        intro runs
        split at runs
        · exact part ih runs
        · cases runs
      dsimp only at runs
      split at runs
      · exact reaches_of_orElse advances again runs
      · exact reaches_of_orElse again advances runs

theorem reaches_of_afterLook {negated : Bool} {seen : Option (Place × Captures)}
    {next : Continuation} {place finish : Place} {captures inner : Captures}
    (advances : next.Advances)
    (runs : afterLook negated seen next place captures = some (finish, inner)) :
    place.Reaches finish := by
  unfold afterLook at runs
  split at runs
  case h_1 =>
    split at runs
    · cases runs
    · exact advances runs
  case h_2 =>
    split at runs
    · exact advances runs
    · cases runs

theorem advances_firstMatch {part : Continuation → Continuation} (advances : PartAdvances part) :
    (firstMatch part).Advances := by
  refine advances ?_
  intro place captures finish inner runs
  cases runs
  exact .refl _

/-- The repetition of a part of a pattern, other than of one character, advances. -/
theorem advances_repeated {body : Continuation → Continuation} (part : PartAdvances body)
    {least : Nat} {most : Option Nat} {greed : Greed} {budget : Nat} :
    PartAdvances fun next place captures =>
      let repeating (lazily : Bool) (last : Continuation) : Continuation :=
        repeatFrom body least most lazily last budget 0 none
      match greed with
      | .greedy => repeating false next place captures
      | .lazy => repeating true next place captures
      | .possessive =>
          match firstMatch (repeating false) place captures with
          | some (after, inner) => next after inner
          | none => none := by
  intro next advances place captures finish inner runs
  dsimp only at runs
  cases greed with
  | greedy | lazy => exact advances_repeatFrom part advances runs
  | possessive =>
    dsimp only at runs
    split at runs
    case h_1 first =>
      exact (advances_firstMatch (advances_repeatFrom part) first).trans (advances runs)
    case h_2 => cases runs

/-- Every part of a pattern advances. -/
theorem Node.advances (node : Node) (flags : Flags) (size : Nat) :
    PartAdvances (node.run flags size) := by
  induction node generalizing flags with
  | empty => exact fun advances => advances
  | one test => exact advances_oneChar _
  | anchor spot =>
    intro next advances place captures finish inner runs
    simp only [run] at runs
    split at runs
    · exact advances runs
    · cases runs
  | seq first second ihFirst ihSecond =>
    exact fun advances => ihFirst flags (ihSecond flags advances)
  | alt first second ihFirst ihSecond =>
    intro next advances place captures finish inner runs
    exact reaches_of_orElse (ihFirst flags advances) (ihSecond flags advances) runs
  | group index body ih =>
    intro next advances place captures finish inner runs
    exact ih flags (fun ends => advances ends) runs
  | repeated least most greed body ih =>
    cases body with
    | one test => exact advances_repeatChar _ _ _ _
    | _ => exact advances_repeated (ih flags)
  | backreference index =>
    intro next advances place captures finish inner runs
    simp only [run] at runs
    split at runs
    case h_1 => cases runs
    case h_2 span isSpan =>
      split at runs
      case h_1 skips => exact (Place.Reaches.skip skips).trans (advances runs)
      case h_2 => cases runs
  | lookahead negated body ih | lookbehind negated width body ih =>
    intro next advances place captures finish inner runs
    simp only [run] at runs
    exact reaches_of_afterLook advances runs
  | atomic body ih =>
    intro next advances place captures finish inner runs
    simp only [run] at runs
    split at runs
    case h_1 first => exact (advances_firstMatch (ih flags) first).trans (advances runs)
    case h_2 => cases runs
  | conditional index yes no ihYes ihNo =>
    intro next advances place captures finish inner runs
    simp only [run] at runs
    split at runs
    · exact ihYes flags advances runs
    · exact ihNo flags advances runs
  | flagged on off body ih => exact ih (flags.change on off)

/-- A match lies in a text: what stands before it, its own text and what stands after it make up the
    text. -/
def Match.Within (text : List Char) (found : Match) : Prop :=
  found.before ++ found.span.text ++ found.after = text

theorem within_matchAt? {pattern : Pattern} {size : Nat} {place : Place} {found : Match}
    (isMatch : matchAt? pattern size place = some found) :
    found.Within (place.before.reverse ++ place.rest) := by
  obtain ⟨⟨finish, captures⟩, runs, rfl⟩ := Option.map_eq_some_iff.mp isMatch
  have reaches := advances_firstMatch (pattern.root.advances pattern.flags size) runs
  change place.before.reverse ++ place.since finish ++ finish.rest = _
  rw [List.append_assoc, reaches.since_append]

theorem within_searchFrom? {pattern : Pattern} {size budget : Nat} {place : Place} {found : Match}
    (isFound : searchFrom? pattern size budget place = some found) :
    found.Within (place.before.reverse ++ place.rest) := by
  induction budget generalizing place with
  | zero => exact within_matchAt? isFound
  | succ budget ih =>
    rw [searchFrom?] at isFound
    cases isMatch : matchAt? pattern size place with
    | some here =>
      rw [isMatch] at isFound
      cases isFound
      exact within_matchAt? isMatch
    | none =>
      rw [isMatch] at isFound
      obtain ⟨⟨c, after⟩, advances, isFound⟩ := Option.bind_eq_some_iff.mp isFound
      obtain ⟨taken, before, rest⟩ := Place.Reaches.advance advances
      have within := ih isFound
      rw [before, List.reverse_append, List.reverse_reverse, List.append_assoc, ← rest] at within
      exact within

theorem within_search? {pattern : Pattern} {text : List Char} {found : Match}
    (isFound : search? pattern text = some found) : found.Within text :=
  within_searchFrom? isFound

end Pattern

namespace Template

open Pattern Text

/-- Replacing a match by itself changes nothing. -/
theorem replaceFirst_whole (pattern : Pattern) (text : List Char) :
    replaceFirst pattern [.group 0] text = text := by
  unfold replaceFirst
  split
  case h_1 => rfl
  case h_2 found isFound =>
    have expanded : expand found [.group 0] = found.span.text := by
      simp [expand, Piece.text, Match.groupText]
    rw [expanded]
    exact within_search? isFound

theorem convert_whole : convert "$0" = "\\g<0>" := by
  have reference : dollarReference? ['0'] = some (groupReference ['0'], []) := rfl
  have chars : convertChars ['$', '0'] = ['\\', 'g', '<', '0', '>'] := by
    rw [convertChars, if_pos rfl]
    split
    case h_1 isReference =>
      cases reference.symm.trans isReference
      rw [convertChars]
      rfl
    case h_2 isNone => cases reference.symm.trans isNone
  exact congrArg String.ofList chars

theorem compile_whole (pattern : Pattern) : compile pattern "$0" = .ok "\\g<0>" := by
  have named : references ['\\', 'g', '<', '0', '>'] = [['0']] := by
    simp [references, backslashReference]
  have numeral : readNumeral ['0'] = .ok 0 := rfl
  have digits : (! ['0'].isEmpty && ['0'].all isDigit) = true := rfl
  rw [compile, convert_whole]
  change (do checkReferences pattern "$0" (references ['\\', 'g', '<', '0', '>'])
             return "\\g<0>") = Except.ok "\\g<0>"
  simp only [named, checkReferences, defines, digits, numeral, if_true]
  simp [bind, Except.bind, pure, Except.pure]

theorem pieces_whole (pattern : Pattern) :
    pieces pattern "\\g<0>".toList = .ok [.group 0] := by
  have group : groupNumber pattern 3 ['0'] = .ok 0 := by
    have plain : isIdentifier ['0'] = false := rfl
    have number : writtenNumber? ['0'] = some 0 := by decide
    simp [groupNumber, plain, number]
  have reference : bracketReference pattern 5 ['<', '0', '>'] = .ok (.group 0, []) := by
    simp [bracketReference, checkEnd, untilBracket, group, bind, Except.bind, pure, Except.pure]
  change pieces pattern ['\\', 'g', '<', '0', '>'] = _
  simp [pieces, piecesFrom, checkEnd, escapePieces, reference, bind, Except.bind, pure, Except.pure]

end Template

namespace Renaming

/-- The renaming by the template `$0`, which refers to the whole match. -/
def whole (pattern : Pattern) : Renaming :=
  ⟨pattern, "\\g<0>"⟩

theorem ofTemplate_whole (pattern : Pattern) : ofTemplate pattern "$0" = .ok (whole pattern) := by
  rw [ofTemplate, Template.compile_whole]
  rfl

/-- The renaming by the template `$0` gives every name back. -/
theorem apply_whole (pattern : Pattern) (name : String) :
    (whole pattern).apply name = .ok name := by
  rw [apply, whole, Template.pieces_whole]
  simp [Template.replaceFirst_whole]

end Renaming

end HeaderBindings
