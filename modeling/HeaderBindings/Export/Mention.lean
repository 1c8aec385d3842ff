import HeaderBindings.Header.Declaration

/-!
# Mentions

The declarations that a type mentions: those that have to be exported before the type can be
resolved. A pointer mentions what it points to, and a function type what its result and parameters
mention. Any other type mentions the declaration it names, if that has a name.
-/

namespace HeaderBindings

/-- A named declaration that is mentioned by a type. -/
structure Mention where
  spelling : String
  name : String
  decl : DeclId
  deriving Repr, DecidableEq

namespace Header

variable (header : Header)

def ownMention (spelling : String) (declaration : Option DeclId) : List Mention :=
  match declaration with
  | none => []
  | some id => (header.decl id).properName?.toList.map fun name => ⟨spelling, name, id⟩

mutual

/-- The declarations that a type mentions, in order. -/
def mentions : CType → List Mention
  | ⟨kind, spelling, _, _, pointee, result, arguments, declaration⟩ =>
      match kind with
      | .pointer => mentionsOption pointee
      | .function | .functionNoParameters => mentionsOption result ++ mentionsList arguments
      | _ => header.ownMention spelling declaration

def mentionsOption : Option CType → List Mention
  | none => []
  | some type => mentions type

def mentionsList : List CType → List Mention
  | [] => []
  | type :: rest => mentions type ++ mentionsList rest

end

theorem mentionsList_eq_flatMap (types : List CType) :
    header.mentionsList types = types.flatMap header.mentions := by
  induction types with
  | nil => rfl
  | cons type rest ih => simp [mentionsList, ih]

def prototypeMentions (prototype : CType) : List Mention :=
  header.mentionsOption prototype.result ++ header.mentionsList prototype.arguments

end Header

end HeaderBindings
