import HeaderBindings.SearchList
import HeaderBindings.Proofs.Text.Lines

/-!
# Reports of the compiler

A report in which the list of places stands between its marker lines is read back exactly, whatever
the lines before the list and the text after it say. Reading fails just when one of the marker lines
is missing.
-/

namespace HeaderBindings.Text

variable {content text : List Char}

/-! ## Lines as they are written -/

/-- The characters that end a line: a break, or a carriage return and a line feed together. -/
inductive IsEnding : List Char → Prop
  | single {c : Char} (isBreak : isLineBreak c = true) : IsEnding [c]
  | both : IsEnding ['\r', '\n']

theorem IsEnding.lineFeed : IsEnding ['\n'] :=
  .single rfl

/-- A line together with the characters that end it. -/
structure WrittenLine where
  content : List Char
  ending : List Char
  unbroken : IsUnbroken content
  isEnding : IsEnding ending

def WrittenLine.written (line : WrittenLine) : List Char :=
  line.content ++ line.ending

/-- A text with no line feed at its start, which could complete a carriage return before it. -/
def StandsApart (text : List Char) : Prop :=
  ∀ rest, text ≠ '\n' :: rest

theorem standsApart_append (unbroken : IsUnbroken content) (nonempty : content ≠ []) :
    StandsApart (content ++ text) := by
  obtain ⟨c, rest, rfl⟩ := List.exists_cons_of_ne_nil nonempty
  intro more same
  obtain ⟨rfl, -⟩ := List.cons.inj same
  cases unbroken '\n' List.mem_cons_self

theorem lines_append_of_break {more : List (List Char)} (unbroken : IsUnbroken content)
    (ends : lines text = [] :: more) : lines (content ++ text) = content :: more := by
  by_cases empty : content = []
  · rw [empty, List.nil_append, ends]
  · rw [lines_unbroken_append unbroken empty, ends, List.headD_cons, List.append_nil,
      List.tail_cons]

/-- A text that is empty or begins with a break adds nothing to the line before it. -/
theorem headD_lines_of_break (ends : ∀ c rest, text = c :: rest → isLineBreak c = true) :
    (lines text).headD [] = [] := by
  fun_cases lines text with
  | case1 | case2 | case3 => rfl
  | case4 c rest _ letter | case5 c rest _ letter => exact absurd (ends c rest rfl) letter

namespace WrittenLine

/-- A written line is the first line of a text, unless the text completes its carriage return. -/
theorem lines_written_append (line : WrittenLine)
    (separate : ∀ rest, line.ending = ['\r'] → text ≠ '\n' :: rest) :
    lines (line.written ++ text) = line.content :: lines text := by
  obtain ⟨content, ending, unbroken, isEnding⟩ := line
  rw [written, List.append_assoc]
  apply lines_append_of_break unbroken
  cases isEnding with
  | single isBreak =>
    apply lines_cons_of_break isBreak
    intro rest isReturn
    exact separate rest (congrArg (fun c => [c]) isReturn)
  | both => exact lines_carriageReturn_lineFeed text

theorem lines_written_append_lineFeed (line : WrittenLine) (isReturn : line.ending = ['\r']) :
    lines (line.written ++ '\n' :: text) = line.content :: lines text := by
  rw [written, List.append_assoc, isReturn]
  exact lines_append_of_break line.unbroken (lines_carriageReturn_lineFeed text)

end WrittenLine

end HeaderBindings.Text

namespace HeaderBindings.SearchList

open Text

variable {text : List Char}

/-! ## The marker lines -/

/-- The lines of a text without the blanks around them. -/
def strippedLines (text : List Char) : List (List Char) :=
  (lines text).map trim

/-- What is read of a text: its lines from the first marker line on. -/
def fromStart (text : List Char) : List (List Char) :=
  (strippedLines text).dropWhile (· ≠ startMarker.toList)

theorem parse_of_fromStart {report : String} {line : List Char} {after : List (List Char)}
    (isList : fromStart report.toList = line :: after) : parse report = placesUntilEnd after := by
  rw [fromStart, strippedLines] at isList
  rw [parse, isList]

theorem parse_of_fromStart_eq_nil {report : String} (isEmpty : fromStart report.toList = []) :
    parse report = .error .searchListMissing := by
  rw [fromStart, strippedLines] at isEmpty
  rw [parse, isEmpty]

theorem fromStart_eq_nil_iff : fromStart text = [] ↔ startMarker.toList ∉ strippedLines text := by
  rw [fromStart, List.dropWhile_eq_nil_iff]
  constructor
  · intro others inside
    simpa using others _ inside
  · intro absent line inside
    simpa using fun same : line = startMarker.toList => absent (same ▸ inside)

theorem fromStart_eq_cons_iff {after : List (List Char)} :
    fromStart text = startMarker.toList :: after ↔
      ∃ before, strippedLines text = before ++ startMarker.toList :: after ∧
        startMarker.toList ∉ before := by
  constructor
  · intro isList
    refine ⟨(strippedLines text).takeWhile (· ≠ startMarker.toList), ?_, ?_⟩
    · rw [← isList]
      exact List.takeWhile_append_dropWhile.symm
    · intro inside
      simpa using List.mem_takeWhile_imp inside
  · rintro ⟨before, isStripped, first⟩
    rw [fromStart, isStripped, List.dropWhile_append_of_pos, List.dropWhile_cons_of_neg]
    · simp
    · intro line inside
      simpa using fun same : line = startMarker.toList => first (same ▸ inside)

/-- What is read begins with the marker line. -/
theorem fromStart_cases (text : List Char) :
    fromStart text = [] ∨ ∃ after, fromStart text = startMarker.toList :: after := by
  cases isList : fromStart text with
  | nil => exact .inl rfl
  | cons first after =>
    have head := List.head?_dropWhile_not (· ≠ startMarker.toList) (strippedLines text)
    rw [show (strippedLines text).dropWhile (· ≠ startMarker.toList) = first :: after from isList]
      at head
    have isMarker : first = startMarker.toList := by simpa using head
    exact .inr ⟨after, by rw [isMarker]⟩

theorem placesUntilEnd_of_absent {lines : List (List Char)} (absent : endMarker.toList ∉ lines) :
    placesUntilEnd lines = .error .searchListOpen := by
  induction lines with
  | nil => rfl
  | cons line rest ih =>
    obtain ⟨other, others⟩ := List.ne_and_not_mem_of_not_mem_cons absent
    rw [placesUntilEnd, if_neg other.symm, ih others]
    rfl

theorem placesUntilEnd_append {inner after : List (List Char)} (isOpen : endMarker.toList ∉ inner) :
    placesUntilEnd (inner ++ endMarker.toList :: after) =
      .ok (inner.map fun line => String.ofList (place line)) := by
  induction inner with
  | nil => rw [List.nil_append, placesUntilEnd, if_pos rfl, List.map_nil]
  | cons line inner ih =>
    obtain ⟨other, others⟩ := List.ne_and_not_mem_of_not_mem_cons isOpen
    rw [List.cons_append, placesUntilEnd, if_neg other.symm, ih others]
    rfl

/-! ## Texts before the list -/

/-- A line that is no marker line does not matter in front of the list, also where its carriage
    return takes the line feed of an empty line along. -/
theorem fromStart_written_append {line : WrittenLine}
    (other : trim line.content ≠ startMarker.toList) (text : List Char) :
    fromStart (line.written ++ text) = fromStart text := by
  have skips {first : List Char} (more : List (List Char))
      (isSkipped : trim first ≠ startMarker.toList) :
    ((first :: more).map trim).dropWhile (· ≠ startMarker.toList) =
      (more.map trim).dropWhile (· ≠ startMarker.toList) := by
    rw [List.map_cons, List.dropWhile_cons_of_pos (by simpa using isSkipped)]
  by_cases completes : line.ending = ['\r'] ∧ ∃ rest, text = '\n' :: rest
  · obtain ⟨isReturn, rest, rfl⟩ := completes
    have feed : lines ('\n' :: rest) = [] :: lines rest :=
      lines_cons_of_break rfl fun _ isReturn => by cases isReturn
    rw [fromStart, strippedLines, line.lines_written_append_lineFeed isReturn, skips _ other,
      fromStart, strippedLines, feed, skips _ (by decide)]
  · rw [fromStart, strippedLines, line.lines_written_append, skips _ other, fromStart,
      strippedLines]
    intro rest isReturn isText
    exact completes ⟨isReturn, rest, isText⟩

/-- A line that stands before a list. -/
abbrev PreludeLine :=
  { line : WrittenLine // trim line.content ≠ startMarker.toList }

theorem fromStart_prelude_append (prelude : List PreludeLine) (text : List Char) :
    fromStart (prelude.flatMap (·.val.written) ++ text) = fromStart text := by
  induction prelude with
  | nil => rfl
  | cons line prelude ih =>
    rw [List.flatMap_cons, List.append_assoc, fromStart_written_append line.property, ih]

/-! ## Places -/

/-- A text that a line of a list can give as a place. -/
structure IsPlace (path : List Char) : Prop where
  nonempty : path ≠ []
  unbroken : IsUnbroken path
  trimmed : trim path = path
  notEnd : path ≠ endMarker.toList
  unmarked : ¬ frameworkMark.toList <:+ path

/-- Blanks beside the text of a line. -/
structure IsMargin (margin : List Char) : Prop where
  blank : isBlankText margin = true
  unbroken : IsUnbroken margin

theorem IsMargin.nil : IsMargin [] :=
  ⟨rfl, isUnbroken_nil⟩

theorem IsMargin.space : IsMargin [' '] :=
  ⟨rfl, by decide⟩

/-- A place as a line of a list gives it: with blanks around it, and if it is a directory of
    frameworks, with the mark for these after it. -/
structure Entry where
  path : String
  before : List Char
  gap : List Char
  isFramework : Bool
  after : List Char
  ending : List Char
  isPlace : IsPlace path.toList
  isBefore : IsMargin before
  isGap : IsMargin gap
  isAfter : IsMargin after
  isEnding : IsEnding ending

namespace Entry

/-- What follows a place and its gap. -/
def mark (entry : Entry) : List Char :=
  if entry.isFramework then frameworkMark.toList else []

def content (entry : Entry) : List Char :=
  entry.before ++ (entry.path.toList ++ entry.gap ++ entry.mark) ++ entry.after

theorem isUnbroken_content (entry : Entry) : IsUnbroken entry.content := by
  have mark : IsUnbroken entry.mark := by
    unfold Entry.mark
    split
    · show IsUnbroken frameworkMark.toList
      decide
    · exact isUnbroken_nil
  simp only [content, isUnbroken_append]
  exact ⟨⟨entry.isBefore.unbroken, ⟨entry.isPlace.unbroken, entry.isGap.unbroken⟩, mark⟩,
    entry.isAfter.unbroken⟩

def writtenLine (entry : Entry) : WrittenLine :=
  ⟨entry.content, entry.ending, entry.isUnbroken_content, entry.isEnding⟩

theorem content_ne_nil (entry : Entry) : entry.content ≠ [] := by
  simp [content, entry.isPlace.nonempty]

end Entry

theorem IsPlace.exists_cons {path : List Char} (isPlace : IsPlace path) :
    ∃ c rest, path = c :: rest ∧ isBlank c = false := by
  have solid : isBlankText path = false := by
    rw [Bool.eq_false_iff]
    intro blank
    exact isPlace.nonempty (isPlace.trimmed ▸ trim_eq_nil_iff.mpr blank)
  obtain ⟨_, core, _, _, isCore, _, _, first, _⟩ := exists_trim_eq solid
  rwa [← isCore, isPlace.trimmed] at first

theorem Entry.trim_path_append_gap (entry : Entry) :
    trim (entry.path.toList ++ entry.gap) = entry.path.toList :=
  (trim_surrounded IsMargin.nil.blank entry.isGap.blank).trans entry.isPlace.trimmed

/-- Without the blanks around it, a line gives the place alone, or the place, its gap and the mark
    in full. -/
theorem Entry.trim_content (entry : Entry) :
    trim entry.content =
      if entry.isFramework then entry.path.toList ++ entry.gap ++ frameworkMark.toList
      else entry.path.toList := by
  rw [content, trim_surrounded entry.isBefore.blank entry.isAfter.blank, mark]
  split
  · obtain ⟨c, rest, isPath, solid⟩ := entry.isPlace.exists_cons
    have isMark : frameworkMark.toList = frameworkMark.toList.dropLast ++ [')'] := by decide
    rw [isPath, isMark, ← List.append_assoc, List.cons_append, List.cons_append]
    exact trim_eq_self solid rfl
  · rw [List.append_nil]
    exact entry.trim_path_append_gap

theorem Entry.trim_content_ne_endMarker (entry : Entry) :
    trim entry.content ≠ endMarker.toList := by
  rw [entry.trim_content]
  split
  · intro same
    have isSuffix : frameworkMark.toList <:+ endMarker.toList := same ▸ List.suffix_append _ _
    exact absurd isSuffix (by decide)
  · exact entry.isPlace.notEnd

theorem Entry.place_trim_content (entry : Entry) :
    place (trim entry.content) = entry.path.toList := by
  rw [entry.trim_content, place]
  split
  · rw [if_pos (List.isSuffixOf_iff_suffix.mpr (List.suffix_append _ _)), ← String.length_toList,
      List.length_append, Nat.add_sub_cancel, List.take_left]
    exact entry.trim_path_append_gap
  · rw [if_neg (mt List.isSuffixOf_iff_suffix.mp entry.isPlace.unmarked)]

theorem standsApart_entries_append (entries : List Entry) (apart : StandsApart text) :
    StandsApart (entries.flatMap (·.writtenLine.written) ++ text) := by
  cases entries with
  | nil => exact apart
  | cons entry entries =>
    rw [List.flatMap_cons, WrittenLine.written, List.append_assoc, List.append_assoc]
    exact standsApart_append entry.isUnbroken_content entry.content_ne_nil

theorem strippedLines_entries_append (entries : List Entry) (apart : StandsApart text) :
    strippedLines (entries.flatMap (·.writtenLine.written) ++ text) =
      entries.map (fun entry => trim entry.content) ++ strippedLines text := by
  induction entries with
  | nil => rfl
  | cons entry entries ih =>
    rw [List.flatMap_cons, List.append_assoc, strippedLines,
      entry.writtenLine.lines_written_append fun rest _ =>
        standsApart_entries_append entries apart rest, List.map_cons,
      List.map_cons, List.cons_append]
    exact congrArg (trim entry.content :: ·) ih

/-! ## Whole reports -/

/-- A report with a list of places between the marker lines. What follows the last marker line
    begins in a new line, or there is nothing more. -/
structure Report where
  prelude : List PreludeLine
  start : WrittenLine
  entries : List Entry
  finish : List Char
  tail : List Char
  isStart : trim start.content = startMarker.toList
  unbroken : IsUnbroken finish
  isFinish : trim finish = endMarker.toList
  isTail : ∀ c rest, tail = c :: rest → isLineBreak c = true

namespace Report

/-- A report as the compiler prints it. -/
def printed (report : Report) : List Char :=
  report.prelude.flatMap (·.val.written) ++ (report.start.written ++
    (report.entries.flatMap (·.writtenLine.written) ++ (report.finish ++ report.tail)))

theorem finish_ne_nil (report : Report) : report.finish ≠ [] := by
  intro empty
  have isFinish := report.isFinish
  rw [empty] at isFinish
  cases isFinish

theorem exists_strippedLines_finish (report : Report) :
    ∃ after, strippedLines (report.finish ++ report.tail) = endMarker.toList :: after := by
  refine ⟨((lines report.tail).tail).map trim, ?_⟩
  rw [strippedLines, lines_unbroken_append report.unbroken report.finish_ne_nil,
    headD_lines_of_break report.isTail, List.append_nil, List.map_cons, report.isFinish]

theorem exists_fromStart_printed (report : Report) :
    ∃ after, fromStart report.printed = startMarker.toList ::
      (report.entries.map (fun entry => trim entry.content) ++ endMarker.toList :: after) := by
  obtain ⟨after, isFinish⟩ := report.exists_strippedLines_finish
  have apart : StandsApart (report.finish ++ report.tail) :=
    standsApart_append report.unbroken report.finish_ne_nil
  refine ⟨after, ?_⟩
  rw [printed, fromStart_prelude_append, fromStart_eq_cons_iff]
  refine ⟨[], ?_, List.not_mem_nil⟩
  rw [strippedLines, report.start.lines_written_append fun rest _ =>
    standsApart_entries_append report.entries apart rest, List.map_cons, report.isStart]
  change _ :: strippedLines _ = _
  rw [strippedLines_entries_append report.entries apart, isFinish, List.nil_append]

/-- A report is read back: the places are found, and found in their order. -/
theorem parse_printed (report : Report) :
    parse (String.ofList report.printed) = .ok (report.entries.map Entry.path) := by
  obtain ⟨after, isList⟩ := report.exists_fromStart_printed
  rw [← String.toList_ofList (l := report.printed)] at isList
  rw [parse_of_fromStart isList, placesUntilEnd_append, List.map_map]
  · congr 1
    apply List.map_congr_left
    intro entry _
    rw [Function.comp_apply, entry.place_trim_content, String.ofList_toList]
  · intro inside
    obtain ⟨entry, _, isEnd⟩ := List.mem_map.mp inside
    exact entry.trim_content_ne_endMarker isEnd

end Report

/-! ## Reading any text -/

/-- No line of a text, without the blanks around it, is the line before a list. -/
def LacksStart (text : List Char) : Prop :=
  ∀ line ∈ lines text, trim line ≠ startMarker.toList

/-- A list begins in a text, and no line after its beginning ends it. -/
def LeavesOpen (text : List Char) : Prop :=
  ∃ before marker after, lines text = before ++ marker :: after ∧
    (∀ line ∈ before, trim line ≠ startMarker.toList) ∧ trim marker = startMarker.toList ∧
    ∀ line ∈ after, trim line ≠ endMarker.toList

theorem lacksStart_iff : LacksStart text ↔ fromStart text = [] := by
  rw [fromStart_eq_nil_iff, strippedLines, List.mem_map, not_exists]
  exact forall_congr' fun line => not_and.symm

theorem leavesOpen_iff : LeavesOpen text ↔
    ∃ after, fromStart text = startMarker.toList :: after ∧ endMarker.toList ∉ after := by
  constructor
  · rintro ⟨before, marker, after, isLines, first, isMarker, absent⟩
    refine ⟨after.map trim, fromStart_eq_cons_iff.mpr ⟨before.map trim, ?_, ?_⟩, ?_⟩
    · rw [strippedLines, isLines, List.map_append, List.map_cons, isMarker]
    · simpa using first
    · simpa using absent
  · rintro ⟨after, isList, absent⟩
    obtain ⟨before, isStripped, first⟩ := fromStart_eq_cons_iff.mp isList
    obtain ⟨linesBefore, rest, isLines, rfl, isRest⟩ := List.map_eq_append_iff.mp isStripped
    obtain ⟨marker, linesAfter, rfl, isMarker, rfl⟩ := List.map_eq_cons_iff.mp isRest
    exact ⟨linesBefore, marker, linesAfter, isLines, by simpa using first, isMarker,
      by simpa using absent⟩

theorem placesUntilEnd_eq_error_iff {lines : List (List Char)} {failure : Failure} :
    placesUntilEnd lines = .error failure ↔
      endMarker.toList ∉ lines ∧ failure = .searchListOpen := by
  by_cases absent : endMarker.toList ∉ lines
  · rw [placesUntilEnd_of_absent absent]
    constructor
    · intro same
      cases same
      exact ⟨absent, rfl⟩
    · rintro ⟨-, rfl⟩
      rfl
  · obtain ⟨inner, after, rfl, isInner⟩ := List.eq_append_cons_of_mem (not_not.mp absent)
    rw [placesUntilEnd_append isInner]
    simp

/-- What a failure of reading says about the text. -/
theorem parse_eq_error_iff {text : String} {failure : Failure} :
    parse text = .error failure ↔
      LacksStart text.toList ∧ failure = .searchListMissing ∨
        LeavesOpen text.toList ∧ failure = .searchListOpen := by
  rw [lacksStart_iff, leavesOpen_iff]
  rcases fromStart_cases text.toList with isEmpty | ⟨after, isList⟩
  · rw [parse_of_fromStart_eq_nil isEmpty, isEmpty]
    simp only [List.nil_eq, reduceCtorEq, false_and, exists_false, or_false, true_and,
      Except.error.injEq]
    exact eq_comm
  · have leaves : (∃ others, startMarker.toList :: after = startMarker.toList :: others ∧
        endMarker.toList ∉ others) ↔ endMarker.toList ∉ after := by
      simp only [List.cons.injEq, true_and, exists_eq_left']
    rw [parse_of_fromStart isList, placesUntilEnd_eq_error_iff, isList, leaves]
    simp only [reduceCtorEq, false_and, false_or]

/-- The places of a printed report are read back exactly. In any text, the search list is not
    detected just when no line is the start marker, or no line after the first one is the end
    marker. -/
theorem parse_exact :
    (∀ report : Report,
      parse (String.ofList report.printed) = .ok (report.entries.map Entry.path)) ∧
    ∀ text : String,
      (∃ failure, parse text = .error failure ∧ failure.kind = .includeDetection) ↔
        LacksStart text.toList ∨ LeavesOpen text.toList := by
  refine ⟨Report.parse_printed, fun text => ?_⟩
  simp only [parse_eq_error_iff]
  constructor
  · rintro ⟨failure, lacks | leaves, -⟩
    · exact .inl lacks.1
    · exact .inr leaves.1
  · rintro (lacks | leaves)
    · exact ⟨.searchListMissing, .inl ⟨lacks, rfl⟩, rfl⟩
    · exact ⟨.searchListOpen, .inr ⟨leaves, rfl⟩, rfl⟩

/-- It reads a list with a directory of frameworks after an empty line and before another text. -/
theorem parse_exact_framework :
    ∃ report : Report,
      String.ofList report.printed = "\n#include <...> search starts here:\n /usr/include\r
 /Library (framework directory)\nEnd of search list.\nEnd of search list." ∧
      parse (String.ofList report.printed) = .ok ["/usr/include", "/Library"] := by
  let headers : Entry := ⟨"/usr/include", [' '], [], false, [], ['\r', '\n'],
    ⟨by decide, by decide, by decide, by decide, by decide⟩, .space, .nil, .nil, .both⟩
  let frameworks : Entry := ⟨"/Library", [' '], [' '], true, [], ['\n'],
    ⟨by decide, by decide, by decide, by decide, by decide⟩, .space, .space, .nil, .lineFeed⟩
  let report : Report :=
    { prelude := [⟨⟨[], ['\n'], by decide, .lineFeed⟩, (by decide : trim [] ≠ startMarker.toList)⟩]
      start := ⟨startMarker.toList, ['\n'], by decide, .lineFeed⟩
      entries := [headers, frameworks]
      finish := endMarker.toList
      tail := "\nEnd of search list.".toList
      isStart := (by decide : trim startMarker.toList = startMarker.toList)
      unbroken := by decide
      isFinish := by decide
      isTail := by
        intro c rest isTail
        cases isTail
        rfl }
  exact ⟨report, by decide +kernel, parse_exact.1 report⟩

end HeaderBindings.SearchList
