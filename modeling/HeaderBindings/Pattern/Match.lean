import HeaderBindings.Pattern.Basic

/-!
# Matching

How a pattern is searched for in a text. Matching tries alternatives from left to right and, within
a repetition, larger or smaller counts first as the pattern says; the first way to reach the end
of the pattern is the match. A search takes the leftmost place at which there is a match.

A part of a pattern is run with a continuation that stands for the rest of the pattern, so that it
can go on to its next possibility when the rest fails. Repeating one character needs no such
possibilities within the repetition: the places it can end at are known beforehand.
-/

namespace HeaderBindings.Pattern

open Text

/-- A place in a text: what stands before it, read backwards, and what stands after it. -/
structure Place where
  before : List Char
  rest : List Char
  offset : Nat
  offset_eq_length : offset = before.length
  deriving Repr, DecidableEq

def Place.atStart (text : List Char) : Place :=
  ⟨[], text, 0, rfl⟩

def Place.since (start finish : Place) : List Char :=
  (finish.before.take (finish.offset - start.offset)).reverse

@[inline]
def Place.advance? : Place → Option (Char × Place)
  | ⟨_, [], _, _⟩ => none
  | ⟨before, c :: rest, offset, same⟩ =>
      some (c, ⟨c :: before, rest, offset + 1, congrArg (· + 1) same⟩)

/-- The place a number of characters in front of a place. -/
def Place.retreat? : (count : Nat) → Place → Option Place
  | 0, place => some place
  | _ + 1, ⟨[], _, _, _⟩ => none
  | count + 1, ⟨c :: before, rest, offset, same⟩ =>
      retreat? count ⟨before, c :: rest, offset - 1, congrArg (· - 1) same⟩

structure Span where
  start : Place
  finish : Place
  deriving Repr, DecidableEq

def Span.text (span : Span) : List Char :=
  span.start.since span.finish

/-- What groups have matched, the latest first. -/
abbrev Captures := List (Nat × Span)

/-- The rest of a match: what is to be done at a place, with the groups matched so far. -/
abbrev Continuation := Place → Captures → Option (Place × Captures)

def isWordEdge (ascii : Bool) (place : Place) : Bool :=
  let isWord := CharClass.word.holds ascii
  (place.before.head?.any isWord) != (place.rest.head?.any isWord)

def Anchor.holds (flags : Flags) (place : Place) : Anchor → Bool
  | .textStart => place.before.isEmpty
  | .textEnd => place.rest.isEmpty
  | .start => place.before.isEmpty || flags.multiline && place.before.head? == some '\n'
  | .finish =>
      place.rest.isEmpty || place.rest == ['\n'] ||
        flags.multiline && place.rest.head? == some '\n'
  | .wordEdge => isWordEdge flags.ascii place
  | .noWordEdge =>
      !(place.before.isEmpty && place.rest.isEmpty) && !isWordEdge flags.ascii place

/-- Runs the continuation after the next character, if there is one that passes the test. -/
def oneChar (test : Char → Bool) (next : Continuation) : Continuation := fun place captures =>
  match place.advance? with
  | some (c, after) => if test c then next after captures else none
  | none => none

/-- The place after a number of characters, if all of them pass the test. -/
def Place.stride? (test : Char → Bool) : (count : Nat) → Place → Option Place
  | 0, place => some place
  | count + 1, place =>
      match place.advance? with
      | some (c, after) => if test c then after.stride? test count else none
      | none => none

/-- The place itself and the places that are reached from it by taking at most `limit` characters
    that pass the test, the farthest first, before those that were reached already. -/
def Place.strides (test : Char → Bool) : (limit : Nat) → (reached : List Place) → Place → List Place
  | 0, reached, place => place :: reached
  | limit + 1, reached, place =>
      match place.advance? with
      | some (c, after) =>
          if test c then after.strides test limit (place :: reached) else place :: reached
      | none => place :: reached

/-- Takes `least` to `most` characters that pass the test. Of the places that are reached, the
    farthest or the nearest is tried first. -/
def repeatChar (test : Char → Bool) (least most : Nat) (greed : Greed) (next : Continuation) :
    Continuation := fun place captures =>
  match place.stride? test least with
  | none => none
  | some start =>
      let places := start.strides test (most - least) []
      match greed with
      | .greedy => places.findSome? fun reached => next reached captures
      | .lazy => places.reverse.findSome? fun reached => next reached captures
      | .possessive => places.head?.bind fun reached => next reached captures

def Place.skip? (same : Char → Char → Bool) : List Char → Place → Option Place
  | [], place => some place
  | c :: rest, place =>
      match place.advance? with
      | some (d, after) => if same c d then after.skip? same rest else none
      | none => none

def mayRepeat (most : Option Nat) (count : Nat) : Bool :=
  match most with
  | some most => count < most
  | none => true

/-- Repeats a body, of which `count` repetitions have been matched. Repetitions beyond the least
    number are tried only from a place other than the one where the latest such try began, whose
    offset is `tried`, so a body that matches the empty text does not repeat for ever. The budget
    bounds the number of repetitions. -/
def repeatFrom (body : Continuation → Continuation) (least : Nat) (most : Option Nat)
    (lazily : Bool) (next : Continuation) : Nat → Nat → Option Nat → Continuation
  | 0, _, _ => next
  | budget + 1, count, tried => fun place captures =>
      if count < least then
        body (repeatFrom body least most lazily next budget (count + 1) tried) place captures
      else
        let again := fun (_ : Unit) =>
          if mayRepeat most count && tried != some place.offset then
            body (repeatFrom body least most lazily next budget (count + 1) (some place.offset))
              place captures
          else none
        if lazily then (next place captures).orElse again
        else (again ()).orElse fun _ => next place captures

/-- The first match of a part of a pattern at a place, whatever follows it. -/
def firstMatch (part : Continuation → Continuation) : Continuation :=
  part fun place captures => some (place, captures)

/-- Goes on from where a look around began, with the groups that it has matched, or else with those
    matched before if it must see nothing. -/
def afterLook (negated : Bool) (seen : Option (Place × Captures)) (next : Continuation) :
    Continuation := fun place captures =>
  match seen with
  | some (_, inner) => if negated then none else next place inner
  | none => if negated then next place captures else none

/-- Whether a character of a text is the one that a group has matched. -/
def sameAgain (flags : Flags) (a b : Char) : Bool :=
  if flags.ignoreCase then
    if flags.ascii then a.toLower == b.toLower else sameLowerForm a b
  else a == b

/-- Runs a part of a pattern, and then the rest of it, in a text of the given size. -/
def Node.run (flags : Flags) (size : Nat) : Node → Continuation → Continuation
  | .empty, next => next
  | .one test, next => oneChar (test.holds flags) next
  | .anchor spot, next => fun place captures =>
      if spot.holds flags place then next place captures else none
  | .seq first second, next => first.run flags size (second.run flags size next)
  | .alt first second, next => fun place captures =>
      (first.run flags size next place captures).orElse fun _ =>
        second.run flags size next place captures
  | .group index body, next => fun place captures =>
      body.run flags size
        (fun after inner => next after ((index, ⟨place, after⟩) :: inner)) place captures
  | .repeated least most greed (.one test), next =>
      repeatChar (test.holds flags) least (most.getD (least + size)) greed next
  | .repeated least most greed body, next => fun place captures =>
      let repeating (lazily : Bool) (last : Continuation) : Continuation :=
        repeatFrom (body.run flags size) least most lazily last (least + size + 2) 0 none
      match greed with
      | .greedy => repeating false next place captures
      | .lazy => repeating true next place captures
      | .possessive =>
          match firstMatch (repeating false) place captures with
          | some (after, inner) => next after inner
          | none => none
  | .backreference index, next => fun place captures =>
      match captures.lookup index with
      | none => none
      | some span =>
          match place.skip? (sameAgain flags) span.text with
          | some after => next after captures
          | none => none
  | .lookahead negated body, next => fun place captures =>
      let seen := firstMatch (body.run flags size) place captures
      afterLook negated seen next place captures
  | .lookbehind negated width body, next => fun place captures =>
      let seen := (place.retreat? width.least).bind fun start =>
        firstMatch (body.run flags size) start captures
      afterLook negated seen next place captures
  | .atomic body, next => fun place captures =>
      match firstMatch (body.run flags size) place captures with
      | some (after, inner) => next after inner
      | none => none
  | .conditional index yes no, next => fun place captures =>
      if (captures.lookup index).isSome then yes.run flags size next place captures
      else no.run flags size next place captures
  | .flagged on off body, next => body.run (flags.change on off) size next

structure Match where
  span : Span
  captures : Captures
  deriving Repr, DecidableEq

def Match.before (found : Match) : List Char :=
  found.span.start.before.reverse

def Match.after (found : Match) : List Char :=
  found.span.finish.rest

/-- The text of a group; the empty text for a group that took no part in the match, and the whole
    match for number zero. -/
def Match.groupText (found : Match) (index : Nat) : List Char :=
  if index = 0 then found.span.text else ((found.captures.lookup index).map Span.text).getD []

/-- The match of a pattern that begins at a place of a text of the given size. -/
def matchAt? (pattern : Pattern) (size : Nat) (place : Place) : Option Match :=
  (firstMatch (pattern.root.run pattern.flags size) place []).map fun (finish, captures) =>
    ⟨⟨place, finish⟩, captures⟩

/-- The leftmost match of a pattern at or after a place of a text of the given size, of which at
    most `budget` characters follow the place. -/
def searchFrom? (pattern : Pattern) (size : Nat) : (budget : Nat) → Place → Option Match
  | 0, place => matchAt? pattern size place
  | budget + 1, place =>
      (matchAt? pattern size place).orElse fun _ =>
        place.advance?.bind fun (_, after) => searchFrom? pattern size budget after

def search? (pattern : Pattern) (text : List Char) : Option Match :=
  searchFrom? pattern text.length text.length (.atStart text)

end HeaderBindings.Pattern
