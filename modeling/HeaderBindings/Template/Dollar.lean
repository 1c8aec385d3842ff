import HeaderBindings.Text.Word

/-!
# Dollar references

A replacement template may refer to a group of the pattern as `$1`, `$name` or `${name}`; `$$` is a
dollar. Such references are written anew with a backslash. A reference without braces takes the
longest run of word characters. A dollar in front of anything else stays as it is.
-/

namespace HeaderBindings.Template

open Text

/-- A reference to a group in the notation with a backslash. -/
def groupReference (name : List Char) : List Char :=
  '\\' :: 'g' :: '<' :: name ++ ['>']

/-- What a dollar in front of a text stands for, and the text that is left. -/
def dollarReference? : List Char → Option (List Char × List Char)
  | '$' :: rest => some (['$'], rest)
  | '\x7b' :: rest =>
      let name := rest.takeWhile isWord
      match rest.dropWhile isWord with
      | '\x7d' :: after => if name = [] then none else some (groupReference name, after)
      | _ => none
  | rest =>
      let name := rest.takeWhile isWord
      if name = [] then none else some (groupReference name, rest.dropWhile isWord)

theorem length_le_of_dollarReference? {text written rest : List Char}
    (h : dollarReference? text = some (written, rest)) : rest.length ≤ text.length := by
  unfold dollarReference? at h
  split at h
  · simp only [Option.some.injEq, Prod.mk.injEq] at h
    simp [← h.2]
  · rename_i inner
    have shorter := (List.dropWhile_suffix isWord (l := inner)).length_le
    simp only at h
    split at h
    · rename_i after found
      split at h
      · simp at h
      · simp only [Option.some.injEq, Prod.mk.injEq] at h
        simp only [found, List.length_cons] at shorter
        simp only [← h.2, List.length_cons]
        omega
    · simp at h
  · have shorter := (List.dropWhile_suffix isWord (l := text)).length_le
    simp only at h
    split at h
    · simp at h
    · simp only [Option.some.injEq, Prod.mk.injEq] at h
      rw [← h.2]
      exact shorter

/-- The characters of a template with its dollar references written with a backslash. -/
def convertChars : List Char → List Char
  | [] => []
  | c :: rest =>
      if c = '$' then
        match _h : dollarReference? rest with
        | some (written, after) => written ++ convertChars after
        | none => '$' :: convertChars rest
      else c :: convertChars rest
termination_by text => text.length
decreasing_by
  · have := length_le_of_dollarReference? _h
    simp only [List.length_cons]
    omega
  all_goals simp

def convert (template : String) : String :=
  String.ofList (convertChars template.toList)

end HeaderBindings.Template
