import HeaderBindings.Pattern.Basic

/-!
# Joining parts

How sequences and alternatives become one part of a pattern. Alternatives that begin with the same
part share it, as long as that part holds no others. Alternatives that each come down to one
character or one set are a set together, in which ignoring case follows the rule of sets.
-/

namespace HeaderBindings.Pattern

namespace Node

def parts : Node → List Node
  | .empty => []
  | .seq first second => first.parts ++ second.parts
  | node => [node]

def ofParts : List Node → Node
  | [] => .empty
  | [node] => node
  | node :: rest => .seq node (ofParts rest)

/-- Whether a part holds no other parts. -/
def isPlain : Node → Bool
  | .one _ | .anchor _ | .backreference _ => true
  | _ => false

/-- What follows the given part in a sequence that begins with it. -/
def tailAfter? (head : Node) : List Node → Option (List Node)
  | [] => none
  | node :: rest => if node = head then some rest else none

/-- The members of the set that a sequence comes down to. -/
def members? : List Node → Option (List SetItem)
  | [.one (.exactly code)] => some [.single code]
  | [.one (.set false items)] => some items
  | _ => none

def choice (first : List Node) : List (List Node) → Node
  | [] => ofParts first
  | second :: others => .alt (ofParts first) (choice second others)

/-- The first sequence, or else one of the others; a set if they come down to one. -/
def choiceOrSet (first : List Node) (others : List (List Node)) : Node :=
  match (first :: others).mapM members? with
  | some items => .one (.set false items.flatten.eraseDups)
  | none => choice first others

/-- The first sequence, or else one of the others, of which there is one at least. What all of them
    begin with comes before the choice. -/
def sharing : (first : List Node) → (others : List (List Node)) → Node
  | [], others => choiceOrSet [] others
  | head :: rest, others =>
      match if head.isPlain then others.mapM (tailAfter? head) else none with
      | some tails => .seq head (sharing rest tails)
      | none => choiceOrSet (head :: rest) others

/-- Any one of the given sequences, an earlier one before a later one. -/
def ofAlternatives : List (List Node) → Node
  | [] => .empty
  | [only] => ofParts only
  | first :: others => sharing first others

end Node

end HeaderBindings.Pattern
